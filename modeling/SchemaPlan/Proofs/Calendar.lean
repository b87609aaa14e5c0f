import Mathlib
import SchemaPlan.Calendar.Moment

namespace SchemaPlan

structure Date.Proper (d : Date) : Prop where
  year : 1 ≤ d.year ∧ d.year ≤ maxYear
  month : 1 ≤ d.month ∧ d.month ≤ 12
  day : 1 ≤ d.day ∧ d.day ≤ daysInMonth d.year d.month

theorem Date.proper_of_make {year month day : Int} (h : make year month day = .ok d) :
    d.Proper := by
  rw [make] at h
  split at h
  · cases h
  · next hy =>
    split at h
    · cases h
    · next hm =>
      split at h
      · cases h
      · next hd =>
        cases h
        exact ⟨by dsimp; omega, by dsimp; omega, by dsimp; omega⟩

theorem Date.daysInMonth_pos (year month : Nat) : 1 ≤ daysInMonth year month := by
  rw [daysInMonth]
  split
  · split <;> decide
  · split <;> decide

theorem Date.daysInMonth_le (year month : Nat) : daysInMonth year month ≤ 31 := by
  rw [daysInMonth]
  split
  · split <;> decide
  · split <;> decide

theorem Date.Proper.next {d : Date} (h : d.Proper) (hn : d.next? = some d') :
    d'.Proper ∧ d.year ≤ d'.year := by
  obtain ⟨hy, hm, hd⟩ := h
  have first (year month : Nat) := daysInMonth_pos year month
  rw [next?] at hn
  split at hn
  · cases hn
    exact ⟨⟨hy, hm, by dsimp; omega⟩, Nat.le_refl _⟩
  · split at hn
    · cases hn
      exact ⟨⟨hy, by dsimp; omega, ⟨Nat.le_refl 1, first _ _⟩⟩, Nat.le_refl _⟩
    · split at hn
      · cases hn
        exact ⟨⟨by dsimp; omega, by dsimp; omega, ⟨Nat.le_refl 1, first _ _⟩⟩, Nat.le_succ _⟩
      · cases hn

/-- A time that a clock may show. -/
structure Moment.Proper (m : Moment) : Prop where
  date : m.date.Proper
  hour : m.hour ≤ 23
  minute : m.minute ≤ 59
  second : m.second ≤ 59

namespace Moment

theorem proper_of_make {year month day hour minute second : Int}
    (h : make year month day hour minute second = .ok m) : m.Proper := by
  rw [make] at h
  cases hc : [year, month, day, hour, minute, second].forM checkField with
  | error fault => rw [hc] at h; cases h
  | ok _ =>
    rw [hc] at h
    cases hd : Date.make year month day with
    | error fault => rw [hd] at h; cases h
    | ok date =>
      rw [hd] at h
      simp only [bind, Except.bind, Except.mapError, pure, Except.pure] at h
      split at h
      · cases h
      · next hh =>
        split at h
        · cases h
        · next hm =>
          split at h
          · cases h
          · next hs =>
            cases h
            exact ⟨Date.proper_of_make hd, by dsimp; omega, by dsimp; omega, by dsimp; omega⟩

theorem Proper.next {m : Moment} (h : m.Proper) (hn : m.next? = some m') :
    m'.Proper ∧ m.date.year ≤ m'.date.year := by
  obtain ⟨hd, hh, hm, hs⟩ := h
  rw [next?] at hn
  split at hn
  · cases hn
    exact ⟨⟨hd, hh, hm, by dsimp; omega⟩, Nat.le_refl _⟩
  · split at hn
    · cases hn
      exact ⟨⟨hd, hh, by dsimp; omega, Nat.zero_le _⟩, Nat.le_refl _⟩
    · split at hn
      · cases hn
        exact ⟨⟨hd, by dsimp; omega, Nat.zero_le _, Nat.zero_le _⟩, Nat.le_refl _⟩
      · obtain ⟨date, hdate, rfl⟩ := Option.map_eq_some_iff.1 hn
        obtain ⟨hd', hy⟩ := hd.next hdate
        exact ⟨⟨hd', Nat.zero_le _, Nat.zero_le _, Nat.zero_le _⟩, hy⟩

end Moment

/-- Fourteen digits. -/
def IsStamp (s : List Char) : Prop := s.length = 14 ∧ ∀ c ∈ s, c.isDigit = true

theorem length_paddedDigits (hw : 0 < width) (h : n < 10 ^ width) :
    (paddedDigits width n).length = width := by
  have hl := (Nat.length_toDigits_le_iff (by decide : 1 < 10) hw).2 h
  rw [paddedDigits, List.length_append, List.length_replicate]
  omega

theorem isDigit_of_mem_toDigits (h : c ∈ Nat.toDigits 10 n) : c.isDigit = true :=
  Nat.isDigit_of_mem_toDigits (by decide) (by decide) h

theorem isDigit_of_mem_paddedDigits (h : c ∈ paddedDigits width n) : c.isDigit = true := by
  rcases List.mem_append.1 h with h | h
  · obtain rfl := List.eq_of_mem_replicate h
    decide
  · exact isDigit_of_mem_toDigits h

theorem length_toDigits_year (h : 1000 ≤ year) (hm : year ≤ Date.maxYear) :
    (Nat.toDigits 10 year).length = 4 := by
  have hl : year < 10 ^ 4 := Nat.lt_succ_of_le hm
  have h4 := (Nat.length_toDigits_le_iff (by decide : 1 < 10) (by decide : 0 < 4)).2 hl
  have h3 : ¬ (Nat.toDigits 10 year).length ≤ 3 := by
    intro h3
    have := (Nat.length_toDigits_le_iff (by decide : 1 < 10) (by decide : 0 < 3)).1 h3
    omega
  omega

theorem Moment.isDigit_of_mem_stamp {m : Moment} (h : c ∈ m.stamp) : c.isDigit = true := by
  simp only [stamp, List.mem_append] at h
  rcases h with ((((h | h) | h) | h) | h) | h
  · exact isDigit_of_mem_toDigits h
  all_goals exact isDigit_of_mem_paddedDigits h

theorem Moment.Proper.isStamp {m : Moment} (h : m.Proper) (hy : 1000 ≤ m.date.year) :
    IsStamp m.stamp := by
  obtain ⟨⟨hyear, hmonth, hday⟩, hh, hm, hs⟩ := h
  have hdays := Date.daysInMonth_le m.date.year m.date.month
  have hl {n : Nat} (h : n < 100) : (paddedDigits 2 n).length = 2 :=
    length_paddedDigits (by decide) h
  constructor
  · simp only [stamp, List.length_append, length_toDigits_year hy hyear.2]
    rw [hl (by omega), hl (by omega), hl (by omega), hl (by omega), hl (by omega)]
  · exact fun c => isDigit_of_mem_stamp

end SchemaPlan
