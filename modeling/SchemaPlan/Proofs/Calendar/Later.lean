import SchemaPlan.Proofs.Calendar.Order

namespace SchemaPlan

def Date.last : Date := ⟨maxYear, 12, 31⟩

theorem Date.Proper.eq_last {d : Date} (h : d.Proper) (hn : d.next? = none) : d = last := by
  obtain ⟨⟨-, hy⟩, ⟨-, hm⟩, -, hd⟩ := h
  rw [next?] at hn
  split at hn
  · cases hn
  · next hday =>
    split at hn
    · cases hn
    · next hmonth =>
      split at hn
      · cases hn
      · next hyear =>
        obtain ⟨year, month, day⟩ := d
        obtain rfl : year = maxYear := by dsimp at *; omega
        obtain rfl : month = 12 := by dsimp at *; omega
        obtain rfl : day = 31 := Nat.le_antisymm hd (Nat.le_of_not_lt hday)
        rfl

namespace Moment

def last : Moment := ⟨.last, 23, 59, 59⟩

theorem Proper.eq_last {m : Moment} (h : m.Proper) (hn : m.next? = none) : m = last := by
  obtain ⟨hdate, hh, hm, hs⟩ := h
  rw [next?] at hn
  split at hn
  · cases hn
  · split at hn
    · cases hn
    · split at hn
      · cases hn
      · obtain ⟨date, hour, minute, second⟩ := m
        obtain rfl := hdate.eq_last (Option.map_eq_none_iff.1 hn)
        obtain rfl : hour = 23 := by dsimp at *; omega
        obtain rfl : minute = 59 := by dsimp at *; omega
        obtain rfl : second = 59 := by dsimp at *; omega
        rfl

theorem Proper.exists_next {m : Moment} (h : m.Proper) (hs : m.seconds < last.seconds) :
    ∃ n, m.next? = some n := by
  cases hn : m.next? with
  | some n => exact ⟨n, rfl⟩
  | none =>
    rw [h.eq_last hn] at hs
    exact absurd hs (Nat.lt_irrefl _)

def later (m : Moment) : Nat → Moment
  | 0 => m
  | k + 1 => (m.next?.getD m).later k

theorem later_succ {m n : Moment} (hn : m.next? = some n) (k : Nat) :
    m.later (k + 1) = n.later k := by
  rw [later, hn, Option.getD_some]

theorem Proper.later {m : Moment} (h : m.Proper) (hk : m.seconds + k ≤ last.seconds) :
    (m.later k).Proper ∧ (m.later k).seconds = m.seconds + k := by
  induction k generalizing m with
  | zero => exact ⟨h, rfl⟩
  | succ k ih =>
    obtain ⟨n, hn⟩ := h.exists_next (by omega)
    have hs := h.seconds_next hn
    rw [later_succ hn]
    obtain ⟨hp, ht⟩ := ih (h.next hn).1 (by omega)
    exact ⟨hp, by omega⟩

theorem Proper.next?_later {m : Moment} (h : m.Proper) (hk : m.seconds + k < last.seconds) :
    (m.later k).next? = some (m.later (k + 1)) := by
  induction k generalizing m with
  | zero =>
    obtain ⟨n, hn⟩ := h.exists_next (by omega)
    rw [later_succ hn]
    exact hn
  | succ k ih =>
    obtain ⟨n, hn⟩ := h.exists_next (by omega)
    have hs := h.seconds_next hn
    rw [later_succ hn, later_succ hn]
    exact ih (h.next hn).1 (by omega)

theorem Proper.year_le_later {m : Moment} (h : m.Proper) (hk : m.seconds + k ≤ last.seconds) :
    m.date.year ≤ (m.later k).date.year := by
  induction k with
  | zero => exact Nat.le_refl _
  | succ k ih =>
    have hnext := h.next?_later (Nat.lt_of_succ_le hk)
    obtain ⟨hp, -⟩ := h.later (Nat.le_of_succ_le hk)
    exact (ih (Nat.le_of_succ_le hk)).trans (hp.next hnext).2

theorem Proper.seconds_le_last {m : Moment} (h : m.Proper) : m.seconds ≤ last.seconds := by
  have hlast : last.Proper := ⟨⟨by decide, by decide, by decide⟩, by decide, by decide, by decide⟩
  have hdays := Date.daysInMonth_le m.date.year m.date.month
  by_contra hs
  have hr := (hlast.seconds_lt_iff h).1 (Nat.lt_of_not_le hs)
  have hrank : last.rank = 99991231235959 := rfl
  obtain ⟨⟨⟨-, hy⟩, ⟨-, hmonth⟩, -, hday⟩, hh, hm, hs⟩ := h
  have hmax : Date.maxYear = 9999 := rfl
  rw [hrank, rank, Date.rank] at hr
  omega

theorem Proper.later_sub {m n : Moment} (hm : m.Proper) (hn : n.Proper)
    (h : m.seconds ≤ n.seconds) : m.later (n.seconds - m.seconds) = n := by
  have hlast := hn.seconds_le_last
  obtain ⟨hp, hs⟩ := hm.later (k := n.seconds - m.seconds) (by omega)
  exact hp.eq_of_seconds hn (by omega)

theorem Proper.seconds_add_le_last {m : Moment} (h : m.Proper) (hy : m.date.year < Date.maxYear) :
    m.seconds + 365 * 24 * 60 * 60 ≤ last.seconds := by
  have hend := h.date.year_end.trans (Date.daysBeforeYear_mono (Nat.le_add_left 1 _) hy)
  have hlast : last.date.dayNumber = Date.daysBeforeYear Date.maxYear + 365 := by decide +kernel
  obtain ⟨-, hh, hm, hs⟩ := h
  rw [seconds, seconds, hlast]
  simp only [last]
  omega

/-- From the year 1000 on, all stamps have fourteen digits, and of two moments the later one has the
greater stamp, as a text and as a number. Hence the stamps of a moment and of all that follow it,
second by second, get ever greater. -/
theorem Proper.stamps_follow_time {m n : Moment} (hm : m.Proper) (hn : n.Proper)
    (hym : 1000 ≤ m.date.year) (hyn : 1000 ≤ n.date.year) :
    IsStamp m.stamp ∧ IsStamp n.stamp ∧
    (String.ofList m.stamp < String.ofList n.stamp ↔ m.seconds < n.seconds) ∧
    (Nat.ofDigitChars 10 m.stamp 0 < Nat.ofDigitChars 10 n.stamp 0 ↔ m.seconds < n.seconds) ∧
    (m.seconds ≤ n.seconds → m.later (n.seconds - m.seconds) = n) ∧
    ∀ i j, i < j → m.seconds + j ≤ last.seconds →
      (m.later i).next? = some (m.later (i + 1)) ∧
      String.ofList (m.later i).stamp < String.ofList (m.later j).stamp ∧
      Nat.ofDigitChars 10 (m.later i).stamp 0 < Nat.ofDigitChars 10 (m.later j).stamp 0 := by
  obtain ⟨htext, hnumber⟩ := hm.stamp_lt_iff hn hym hyn
  refine ⟨hm.isStamp hym, hn.isStamp hyn, ofList_lt_iff.trans htext, hnumber, hm.later_sub hn, ?_⟩
  intro i j hij hj
  have hi : m.seconds + i ≤ last.seconds := by omega
  obtain ⟨hpi, hsi⟩ := hm.later hi
  obtain ⟨hpj, hsj⟩ := hm.later hj
  have hyi : 1000 ≤ (m.later i).date.year := hym.trans (hm.year_le_later hi)
  have hyj : 1000 ≤ (m.later j).date.year := hym.trans (hm.year_le_later hj)
  have hlt : (m.later i).seconds < (m.later j).seconds := by omega
  obtain ⟨hless, hnumbers⟩ := hpi.stamp_lt hpj hyi hyj hlt
  exact ⟨hm.next?_later (by omega), ofList_lt_iff.2 hless, hnumbers⟩

/-- Stamps from the last second before a leap day to the first one after it. -/
theorem leapDay_stamps :
    let m : Moment := ⟨⟨2000, 2, 28⟩, 23, 59, 59⟩
    let n : Moment := ⟨⟨2000, 3, 1⟩, 0, 0, 0⟩
    m.Proper ∧ n.Proper ∧ 1000 ≤ m.date.year ∧ 1000 ≤ n.date.year ∧
    String.ofList m.stamp < String.ofList n.stamp ∧
    (m.later 1).stamp = "20000229000000".toList ∧ m.later 86401 = n ∧
    String.ofList m.stamp < String.ofList (m.later 1).stamp := by
  intro m n
  have hm : m.Proper := ⟨⟨by decide, by decide, by decide⟩, by decide, by decide, by decide⟩
  have hn : n.Proper := ⟨⟨by decide, by decide, by decide⟩, by decide, by decide, by decide⟩
  have hseconds : n.seconds - m.seconds = 86401 ∧ m.seconds < n.seconds := by decide +kernel
  obtain ⟨-, -, htext, -, hreached, hlater⟩ := hm.stamps_follow_time hn (by decide) (by decide)
  obtain ⟨-, hless, -⟩ := hlater 0 1 (by decide) (by decide +kernel)
  rw [hseconds.1] at hreached
  exact ⟨hm, hn, by decide, by decide, htext.2 hseconds.2, by decide +kernel,
    hreached (Nat.le_of_lt hseconds.2), hless⟩

end Moment

end SchemaPlan
