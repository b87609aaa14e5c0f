import SchemaPlan.Proofs.Calendar

namespace SchemaPlan

namespace Date

def daysInYear (year : Nat) : Nat := if isLeapYear year then 366 else 365

theorem daysBeforeMonth_succ (year : Nat) {month : Nat} (h : 1 ≤ month) :
    daysBeforeMonth year (month + 1) = daysBeforeMonth year month + daysInMonth year month := by
  obtain ⟨n, rfl⟩ := Nat.exists_eq_add_of_le' h
  rfl

theorem daysBeforeMonth_mono (year : Nat) (hm : 1 ≤ m) (h : m ≤ n) :
    daysBeforeMonth year m ≤ daysBeforeMonth year n := by
  induction n, h using Nat.le_induction with
  | base => exact Nat.le_refl _
  | succ n hmn ih =>
    rw [daysBeforeMonth_succ year (hm.trans hmn)]
    omega

theorem daysBeforeMonth_thirteen (year : Nat) : daysBeforeMonth year 13 = daysInYear year := by
  rw [daysInYear]
  cases h : isLeapYear year <;> simp [daysBeforeMonth, daysInMonth, h]

theorem isLeapYear_iff (year : Nat) :
    isLeapYear year = true ↔ year % 4 = 0 ∧ (year % 100 ≠ 0 ∨ year % 400 = 0) := by
  simp [isLeapYear]

theorem daysBeforeYear_succ {year : Nat} (h : 1 ≤ year) :
    daysBeforeYear (year + 1) = daysBeforeYear year + daysInYear year := by
  obtain ⟨n, rfl⟩ := Nat.exists_eq_add_of_le' h
  have quotient (k : Nat) : (n + 1) / k = n / k + if (n + 1) % k = 0 then 1 else 0 := by
    simp only [Nat.succ_div, Nat.dvd_iff_mod_eq_zero]
  have hle : n / 100 ≤ n / 4 := Nat.div_le_div_left (by decide) (by decide)
  simp only [daysBeforeYear, daysInYear, isLeapYear_iff, Nat.add_sub_cancel, quotient]
  split_ifs <;> omega

theorem daysBeforeYear_mono (hm : 1 ≤ m) (h : m ≤ n) : daysBeforeYear m ≤ daysBeforeYear n := by
  induction n, h using Nat.le_induction with
  | base => exact Nat.le_refl _
  | succ n hmn ih =>
    rw [daysBeforeYear_succ (hm.trans hmn)]
    omega

theorem Proper.dayNumber_next {d : Date} (h : d.Proper) (hn : d.next? = some d') :
    d'.dayNumber = d.dayNumber + 1 := by
  obtain ⟨hy, hm, hd⟩ := h
  have hmonth := daysBeforeMonth_succ d.year hm.1
  rw [next?] at hn
  split at hn
  · cases hn
    rfl
  · split at hn
    · cases hn
      simp only [dayNumber, hmonth]
      omega
    · split at hn
      · cases hn
        have hlast : d.month + 1 = 13 := by omega
        rw [hlast, daysBeforeMonth_thirteen] at hmonth
        have hfirst : daysBeforeMonth (d.year + 1) 1 = 0 := rfl
        simp only [dayNumber, daysBeforeYear_succ hy.1, hfirst]
        omega
      · cases hn

def rank (d : Date) : Nat := (d.year * 100 + d.month) * 100 + d.day

theorem Proper.eq_of_rank {d e : Date} (hd : d.Proper) (he : e.Proper) (h : d.rank = e.rank) :
    d = e := by
  have hdd := daysInMonth_le d.year d.month
  have hde := daysInMonth_le e.year e.month
  obtain ⟨-, hmd, hdd'⟩ := hd
  obtain ⟨-, hme, hde'⟩ := he
  obtain ⟨y, m, d⟩ := d
  obtain ⟨y', m', d'⟩ := e
  simp only [rank] at *
  obtain rfl : y = y' := by omega
  obtain rfl : m = m' := by omega
  obtain rfl : d = d' := by omega
  rfl

theorem Proper.month_end {d : Date} (h : d.Proper) :
    daysBeforeMonth d.year d.month + d.day ≤ daysBeforeMonth d.year (d.month + 1) := by
  rw [daysBeforeMonth_succ d.year h.month.1]
  exact Nat.add_le_add_left h.day.2 _

theorem Proper.year_end {d : Date} (h : d.Proper) : d.dayNumber ≤ daysBeforeYear (d.year + 1) := by
  have hmonth := h.month_end
  have hlast := daysBeforeMonth_mono d.year (Nat.le_add_left 1 d.month)
    (Nat.add_le_add_right h.month.2 1)
  rw [daysBeforeMonth_thirteen] at hlast
  rw [dayNumber, daysBeforeYear_succ h.year.1]
  omega

theorem Proper.dayNumber_lt {d e : Date} (hd : d.Proper) (he : e.Proper) (h : d.rank < e.rank) :
    d.dayNumber < e.dayNumber := by
  have hdays := daysInMonth_le d.year d.month
  have hdays' := daysInMonth_le e.year e.month
  have hday := he.day.1
  rcases Nat.lt_or_ge d.year e.year with hy | hy
  · have hyear := hd.year_end
    have hmono := daysBeforeYear_mono (Nat.le_add_left 1 d.year) hy
    rw [dayNumber.eq_def e]
    omega
  · have hmonth := hd.month_end
    obtain ⟨-, hmd, hdd⟩ := hd
    obtain ⟨-, hme, hde⟩ := he
    obtain ⟨y, m, d⟩ := d
    obtain ⟨y', m', d'⟩ := e
    simp only [rank, dayNumber] at *
    obtain rfl : y = y' := by omega
    rcases Nat.lt_or_ge m m' with hm | hm
    · have hmono := daysBeforeMonth_mono y (Nat.le_add_left 1 m) hm
      omega
    · obtain rfl : m = m' := by omega
      omega

end Date

namespace Moment

theorem Proper.seconds_next {m : Moment} (h : m.Proper) (hn : m.next? = some m') :
    m'.seconds = m.seconds + 1 := by
  obtain ⟨hd, hh, hm, hs⟩ := h
  rw [next?] at hn
  split at hn
  · cases hn
    rfl
  · split at hn
    · cases hn
      simp only [seconds]
      omega
    · split at hn
      · cases hn
        simp only [seconds]
        omega
      · obtain ⟨date, hdate, rfl⟩ := Option.map_eq_some_iff.1 hn
        simp only [seconds, hd.dayNumber_next hdate]
        omega

/-- The digits of all fields side by side, as one number. -/
def rank (m : Moment) : Nat := ((m.date.rank * 100 + m.hour) * 100 + m.minute) * 100 + m.second

theorem Proper.eq_of_rank {m n : Moment} (hm : m.Proper) (hn : n.Proper) (h : m.rank = n.rank) :
    m = n := by
  obtain ⟨hdm, hhm, hmm, hsm⟩ := hm
  obtain ⟨hdn, hhn, hmn, hsn⟩ := hn
  obtain ⟨d, hour, minute, second⟩ := m
  obtain ⟨e, hour', minute', second'⟩ := n
  simp only [rank] at *
  obtain rfl := hdm.eq_of_rank hdn (by omega)
  obtain rfl : hour = hour' := by omega
  obtain rfl : minute = minute' := by omega
  obtain rfl : second = second' := by omega
  rfl

theorem Proper.seconds_lt {m n : Moment} (hm : m.Proper) (hn : n.Proper) (h : m.rank < n.rank) :
    m.seconds < n.seconds := by
  rcases Nat.lt_or_ge m.date.rank n.date.rank with hd | hd
  · have hday := hm.date.dayNumber_lt hn.date hd
    obtain ⟨-, hhm, hmm, hsm⟩ := hm
    simp only [seconds]
    omega
  · obtain ⟨hdm, hhm, hmm, hsm⟩ := hm
    obtain ⟨hdn, hhn, hmn, hsn⟩ := hn
    simp only [rank] at h
    have hday := hdm.eq_of_rank hdn (by omega)
    simp only [seconds, hday] at h ⊢
    omega

theorem Proper.seconds_lt_iff {m n : Moment} (hm : m.Proper) (hn : n.Proper) :
    m.seconds < n.seconds ↔ m.rank < n.rank := by
  refine ⟨fun h => ?_, hm.seconds_lt hn⟩
  rcases Nat.lt_trichotomy m.rank n.rank with hr | hr | hr
  · exact hr
  · rw [hm.eq_of_rank hn hr] at h
    exact absurd h (Nat.lt_irrefl _)
  · exact absurd (hn.seconds_lt hm hr) (Nat.lt_asymm h)

theorem Proper.eq_of_seconds {m n : Moment} (hm : m.Proper) (hn : n.Proper)
    (h : m.seconds = n.seconds) : m = n := by
  have hlt := hm.seconds_lt_iff hn
  have hgt := hn.seconds_lt_iff hm
  exact hm.eq_of_rank hn (by omega)

end Moment

theorem ofDigitChars_paddedDigits (width n init : Nat) :
    Nat.ofDigitChars 10 (paddedDigits width n) init =
      10 ^ (paddedDigits width n).length * init + n := by
  rw [Nat.ofDigitChars_eq_ofDigitChars_zero, paddedDigits, Nat.ofDigitChars_append,
    Nat.ofDigitChars_replicate_zero, Nat.mul_zero, Nat.ofDigitChars_ten_toDigits]

theorem Moment.Proper.ofDigitChars_stamp {m : Moment} (h : m.Proper) :
    Nat.ofDigitChars 10 m.stamp 0 = m.rank := by
  obtain ⟨⟨-, hmonth, hday⟩, hh, hm, hs⟩ := h
  have hdays := Date.daysInMonth_le m.date.year m.date.month
  have hl {n : Nat} (h : n < 100) : (paddedDigits 2 n).length = 2 :=
    length_paddedDigits (by decide) h
  simp only [stamp, Nat.ofDigitChars_append, ofDigitChars_paddedDigits,
    Nat.ofDigitChars_ten_toDigits]
  rw [hl (by omega), hl (by omega), hl (by omega), hl (by omega), hl (by omega)]
  simp only [rank, Date.rank]
  omega

theorem digitValue_lt {c : Char} (h : c.isDigit = true) : c.toNat - '0'.toNat < 10 := by
  simp only [Char.isDigit, Bool.and_eq_true, decide_eq_true_eq, UInt32.le_iff_toNat_le] at h
  have h9 : c.toNat ≤ 57 := h.2
  have h0 : '0'.toNat = 48 := rfl
  omega

theorem digit_lt_iff {c d : Char} (hc : c.isDigit = true) (hd : d.isDigit = true) :
    c < d ↔ c.toNat - '0'.toNat < d.toNat - '0'.toNat := by
  simp only [Char.isDigit, Bool.and_eq_true, decide_eq_true_eq, UInt32.le_iff_toNat_le] at hc hd
  have hc0 : 48 ≤ c.toNat := hc.1
  have hd0 : 48 ≤ d.toNat := hd.1
  have h0 : '0'.toNat = 48 := rfl
  rw [Char.lt_def, UInt32.lt_iff_toNat_lt]
  change c.toNat < d.toNat ↔ _
  omega

theorem ofDigitChars_cons (c : Char) (s : List Char) :
    Nat.ofDigitChars 10 (c :: s) 0 =
      10 ^ s.length * (c.toNat - '0'.toNat) + Nat.ofDigitChars 10 s 0 := by
  rw [Nat.ofDigitChars_cons, Nat.ofDigitChars_eq_ofDigitChars_zero, Nat.mul_zero, Nat.zero_add]

theorem ofDigitChars_lt (h : ∀ c ∈ s, c.isDigit = true) :
    Nat.ofDigitChars 10 s 0 < 10 ^ s.length := by
  induction s with
  | nil => decide
  | cons c s ih =>
    have hc := digitValue_lt (h c (by simp))
    have hs := ih fun d hd => h d (by simp [hd])
    rw [ofDigitChars_cons, List.length_cons, Nat.pow_succ]
    nlinarith

theorem lt_iff_ofDigitChars_lt (hl : s.length = t.length) (hs : ∀ c ∈ s, c.isDigit = true)
    (ht : ∀ c ∈ t, c.isDigit = true) :
    s < t ↔ Nat.ofDigitChars 10 s 0 < Nat.ofDigitChars 10 t 0 := by
  induction s generalizing t with
  | nil =>
    cases t with
    | nil => simp
    | cons d t => cases hl
  | cons c s ih =>
    cases t with
    | nil => cases hl
    | cons d t =>
      have hlen := Nat.succ.inj hl
      have hc := hs c (by simp)
      have hd := ht d (by simp)
      have hs' : ∀ c ∈ s, c.isDigit = true := fun a ha => hs a (by simp [ha])
      have ht' : ∀ c ∈ t, c.isDigit = true := fun a ha => ht a (by simp [ha])
      have hns := ofDigitChars_lt hs'
      have hnt := ofDigitChars_lt ht'
      rw [hlen] at hns
      simp only [List.cons_lt_cons_iff, ih hlen hs' ht', ofDigitChars_cons, hlen]
      rcases lt_trichotomy c d with h | rfl | h
      · have hle := Nat.mul_le_mul_left (10 ^ t.length) ((digit_lt_iff hc hd).1 h)
        rw [Nat.mul_succ] at hle
        simp only [h, true_or, true_iff]
        omega
      · simp
      · have hle := Nat.mul_le_mul_left (10 ^ t.length) ((digit_lt_iff hd hc).1 h)
        rw [Nat.mul_succ] at hle
        simp only [h.not_gt, h.ne', false_and, or_false, false_iff]
        omega

theorem ofList_lt_iff {s t : List Char} : String.ofList s < String.ofList t ↔ s < t := by
  rw [String.lt_iff_toList_lt, String.toList_ofList, String.toList_ofList]

theorem Moment.Proper.stamp_lt_iff {m n : Moment} (hm : m.Proper) (hn : n.Proper)
    (hym : 1000 ≤ m.date.year) (hyn : 1000 ≤ n.date.year) :
    (m.stamp < n.stamp ↔ m.seconds < n.seconds) ∧
    (Nat.ofDigitChars 10 m.stamp 0 < Nat.ofDigitChars 10 n.stamp 0 ↔ m.seconds < n.seconds) := by
  obtain ⟨hlm, hdm⟩ := hm.isStamp hym
  obtain ⟨hln, hdn⟩ := hn.isStamp hyn
  rw [lt_iff_ofDigitChars_lt (hlm.trans hln.symm) hdm hdn, hm.ofDigitChars_stamp,
    hn.ofDigitChars_stamp, hm.seconds_lt_iff hn, and_self]

theorem Moment.Proper.stamp_lt {m n : Moment} (hm : m.Proper) (hn : n.Proper)
    (hym : 1000 ≤ m.date.year) (hyn : 1000 ≤ n.date.year) (h : m.seconds < n.seconds) :
    m.stamp < n.stamp ∧ Nat.ofDigitChars 10 m.stamp 0 < Nat.ofDigitChars 10 n.stamp 0 := by
  obtain ⟨htext, hnumber⟩ := hm.stamp_lt_iff hn hym hyn
  exact ⟨htext.2 h, hnumber.2 h⟩

end SchemaPlan
