import SchemaPlan.Numeral
import SchemaPlan.Proofs.Text.Runs

namespace SchemaPlan.Numeral
open Text

def digit (c : Char) : Nat := (digitValue? c).getD 0

def decimalValue (ds : List Char) : Nat := ds.foldl (fun n c => n * 10 + digit c) 0

/-- Between one and `maxDigits` decimal digits. -/
def IsNumeral (ds : List Char) : Prop :=
  ds ≠ [] ∧ (∀ c ∈ ds, isDecimal c = true) ∧ ds.length ≤ maxDigits

def asciiDigit (c : Char) : Char := Nat.digitChar (digit c)

theorem digitValueIn_lt (h : digitValueIn n rs = some d) : d < 10 := by
  induction rs with
  | nil => cases h
  | cons r rs ih =>
    rw [digitValueIn] at h
    split at h
    · cases h
    · split at h
      · obtain rfl := Option.some.inj h
        exact Nat.mod_lt _ (by decide)
      · exact ih h

theorem digit_lt (c : Char) : digit c < 10 := by
  by_cases hc : c.toNat < 128
  · exact ascii_cases (P := fun c => digit c < 10) (by decide) hc
  · rw [digit, digitValue?, if_neg hc]
    cases h : digitValueIn c.toNat decimalRanges with
    | none => decide
    | some d => exact digitValueIn_lt h

theorem digitValue?_of_isDecimal (h : isDecimal c = true) : digitValue? c = some (digit c) := by
  obtain ⟨d, hd⟩ := Option.isSome_iff_exists.1 h
  rw [digit, hd]
  rfl

theorem asciiDigit_of_ascii (hc : c.toNat < 128) (h : isDecimal c = true) : asciiDigit c = c := by
  revert h
  exact ascii_cases (P := fun c => isDecimal c = true → asciiDigit c = c) (by decide) hc

theorem digitInBase?_asciiDigit (c : Char) : digitInBase? 10 (asciiDigit c) = some (digit c) := by
  have h : ∀ d < 10, digitInBase? 10 (Nat.digitChar d) = some d := by decide
  exact h _ (digit_lt c)

theorem not_asciiBlank_asciiDigit (c : Char) : isAsciiBlank (asciiDigit c) = false := by
  have h : ∀ d < 10, isAsciiBlank (Nat.digitChar d) = false := by decide
  exact h _ (digit_lt c)

theorem asciiDigit_ne_sign (c : Char) : asciiDigit c ≠ '-' ∧ asciiDigit c ≠ '+' := by
  have h : ∀ d < 10, Nat.digitChar d ≠ '-' ∧ Nat.digitChar d ≠ '+' := by decide
  exact h _ (digit_lt c)

theorem asciiForm_go_append (h : ∀ c ∈ ds, isDecimal c = true) (s : List Char) :
    asciiForm.go (ds ++ s) = ds.map asciiDigit ++ asciiForm.go s := by
  induction ds with
  | nil => rfl
  | cons c ds ih =>
    have hc := h c (by simp)
    rw [List.cons_append, asciiForm.go, List.map_cons, List.cons_append,
      ih fun d hd => h d (by simp [hd])]
    split
    · next ha => rw [asciiDigit_of_ascii (by omega) hc]
    · rw [isBlank_of_isDecimal hc, digitValue?_of_isDecimal hc]
      rfl

theorem asciiForm_decimals (h : ∀ c ∈ ds, isDecimal c = true) :
    asciiForm ds = ds.map asciiDigit := by
  rw [asciiForm]
  split
  · next ha =>
    simp only [List.all_eq_true, decide_eq_true_eq] at ha
    rw [List.map_congr_left fun c hc => asciiDigit_of_ascii (ha c hc) (h c hc), List.map_id']
  · have hg := asciiForm_go_append h []
    rwa [List.append_nil, asciiForm.go, List.append_nil] at hg

theorem dropBaseMark_ten (s : List Char) : dropBaseMark 10 s = s := by
  unfold dropBaseMark
  split <;> simp

theorem takeSign_of_stops (h : Stops (fun c => c = '-' || c = '+') s) :
    takeSign s = (false, s) := by
  unfold takeSign
  split <;> simp_all

/-- A run of digits is read by its value unless it is empty, too long or followed by a character
that has no value. -/
theorem read_of_asciiForm (hr : rest = [] ∨ rest = ['?'])
    (h : asciiForm s = ds.map asciiDigit ++ rest) :
    read 10 s =
      if ds.length > maxDigits then .error (.tooLongToRead ds.length)
      else if ds = [] ∨ rest ≠ [] then .error (.malformed 10 (.ofList s))
      else .ok (decimalValue ds) := by
  -- A text that begins with a digit has no blank, sign or base mark to be dropped.
  have stops {p : Char → Bool} (hp : ∀ c, p (asciiDigit c) = false) (hq : p '?' = false) :
      Stops p (asciiForm s) := by
    rw [h]
    cases ds with
    | nil => rcases hr with rfl | rfl <;> simp [stops_nil, hq]
    | cons c ds => simpa using hp c
  have hb := (stops not_asciiBlank_asciiDigit (by decide)).dropWhile
  have hs : takeSign (asciiForm s) = (false, asciiForm s) :=
    takeSign_of_stops (stops (fun c => by simp [asciiDigit_ne_sign c]) (by decide))
  have ht : (asciiForm s).takeWhile (fun c => (digitInBase? 10 c).isSome) = ds.map asciiDigit := by
    rw [h]
    apply takeWhile_run
    · simp [digitInBase?_asciiDigit]
    · rcases hr with rfl | rfl
      · exact stops_nil
      · exact stops_cons_iff.2 (by decide)
  have hd : (ds.map asciiDigit).filterMap (digitInBase? 10) = ds.map digit := by
    simp [List.filterMap_map, digitInBase?_asciiDigit]
  have hv : ofDigits 10 (ds.map digit) = decimalValue ds := by
    rw [ofDigits, List.foldl_map, decimalValue]
  have hl : (asciiForm s).drop ds.length = rest := by
    rw [h, List.drop_left' (List.length_map _)]
  simp only [read, hb, hs, dropBaseMark_ten, ht, hd, hv, hl, List.length_map, true_and,
    List.isEmpty_map, Bool.false_eq_true, if_false]
  rcases hr with rfl | rfl <;> cases ds <;> simp [isAsciiBlank]

theorem read_decimals (h : ∀ c ∈ ds, isDecimal c = true) (hn : ds ≠ []) :
    read 10 ds =
      if ds.length > maxDigits then .error (.tooLongToRead ds.length)
      else .ok (decimalValue ds) := by
  have ha : asciiForm ds = ds.map asciiDigit ++ [] := by
    rw [asciiForm_decimals h, List.append_nil]
  rw [read_of_asciiForm (.inl rfl) ha]
  simp [hn]

theorem not_ascii_of_signDigit {c : Char} (h : inRanges c.toNat signDigitRanges = true) :
    ¬ c.toNat < 128 := by
  intro hc
  revert h
  rw [imp_false, Bool.not_eq_true]
  exact ascii_cases (P := fun c => inRanges c.toNat signDigitRanges = false) (by decide) hc

theorem asciiForm_go_signDigit (hd : isDecimal c = false) (h : isDigitChar c = true)
    (s : List Char) : asciiForm.go (c :: s) = ['?'] := by
  rw [isDigitChar, hd, Bool.false_or] at h
  have ha := not_ascii_of_signDigit h
  have hb : isBlank c = false := by
    by_contra hb
    rw [Bool.not_eq_false] at hb
    have hr : rangesApart blankRanges signDigitRanges = true := by decide
    rw [inRanges_eq_false hr hb] at h
    cases h
  have hv : digitValue? c = none := by simpa [isDecimal] using hd
  rw [asciiForm.go, if_neg (by omega), hb, hv]
  rfl

theorem read_signDigit (h : ∀ c ∈ ds, isDigitChar c = true) (hd : ¬ ∀ c ∈ ds, isDecimal c = true) :
    ∃ fault, read 10 ds = .error fault := by
  obtain ⟨c, s, hs⟩ : ∃ c s, ds.dropWhile isDecimal = c :: s := by
    cases hs : ds.dropWhile isDecimal with
    | nil => exact absurd (by simpa [List.dropWhile_eq_nil_iff] using hs) hd
    | cons c s => exact ⟨c, s, rfl⟩
  have hc : isDecimal c = false := by
    have hst := stops_dropWhile isDecimal ds
    rwa [hs, stops_cons_iff] at hst
  have hcd : c ∈ ds := (List.dropWhile_sublist isDecimal).subset (hs ▸ List.mem_cons_self)
  have hds := List.takeWhile_append_dropWhile (p := isDecimal) (l := ds)
  rw [hs] at hds
  have hw : ∀ d ∈ ds.takeWhile isDecimal, isDecimal d = true := fun _ => List.mem_takeWhile_imp
  have hg := asciiForm_go_append hw (c :: s)
  rw [hds, asciiForm_go_signDigit hc (h c hcd)] at hg
  have hf : asciiForm ds = asciiForm.go ds := by
    rw [asciiForm, if_neg]
    intro ha
    simp only [List.all_eq_true, decide_eq_true_eq] at ha
    have hr := h c hcd
    rw [isDigitChar, hc, Bool.false_or] at hr
    exact not_ascii_of_signDigit hr (ha c hcd)
  rw [read_of_asciiForm (.inr rfl) (hf.trans hg)]
  split
  · exact ⟨_, rfl⟩
  · exact ⟨.malformed 10 (.ofList ds), by simp⟩

theorem decimalValue_lt (ds : List Char) : decimalValue ds < 10 ^ ds.length := by
  induction ds using List.reverseRecOn with
  | nil => decide
  | append_singleton ds c ih =>
    have hd := digit_lt c
    rw [decimalValue, List.foldl_append, ← decimalValue, List.length_append, List.length_singleton,
      Nat.pow_succ]
    simp only [List.foldl_cons, List.foldl_nil]
    omega

def Fits (n : Int) : Prop := (Nat.toDigits 10 n.natAbs).length ≤ maxDigits

def decimal (n : Int) : String :=
  .ofList (if n < 0 then '-' :: Nat.toDigits 10 n.natAbs else Nat.toDigits 10 n.natAbs)

theorem write_of_fits (h : Fits n) : write n = .ok (decimal n) := by
  have hl : ¬ (Nat.toDigits 10 n.natAbs).length > maxDigits := Nat.not_lt.2 h
  rw [write, if_neg hl, decimal]

theorem fits_decimalValue (h : IsNumeral ds) : Fits (decimalValue ds) := by
  obtain ⟨hn, -, hl⟩ := h
  have hd : (Nat.toDigits 10 (decimalValue ds)).length ≤ ds.length :=
    (Nat.length_toDigits_le_iff (by decide) (List.length_pos_iff.2 hn)).2 (decimalValue_lt ds)
  exact hd.trans hl

theorem digitValue?_of_isDigit (h : c.isDigit = true) :
    digitValue? c = some (c.toNat - '0'.toNat) := by
  have ha : c.toNat < 128 := by
    simp only [Char.isDigit, Bool.and_eq_true, decide_eq_true_eq] at h
    exact Nat.lt_of_le_of_lt h.2 (by decide)
  rw [digitValue?, if_pos ha, if_pos h]

theorem isDecimal_of_isDigit (h : c.isDigit = true) : isDecimal c = true := by
  rw [isDecimal, digitValue?_of_isDigit h]
  rfl

theorem decimalValue_toDigits (n : Nat) : decimalValue (Nat.toDigits 10 n) = n := by
  have hd : ∀ c ∈ Nat.toDigits 10 n, c.isDigit = true := fun c hc =>
    Nat.isDigit_of_mem_toDigits (by decide) (by decide) hc
  have hv : decimalValue (Nat.toDigits 10 n) = Nat.ofDigitChars 10 (Nat.toDigits 10 n) 0 := by
    rw [decimalValue, Nat.ofDigitChars]
    apply List.foldl_ext
    intro m c hc
    rw [digit, digitValue?_of_isDigit (hd c hc), Option.getD_some, Nat.mul_comm]
  rw [hv, Nat.ofDigitChars_ten_toDigits]

theorem toList_decimal (n : Nat) : (decimal n).toList = Nat.toDigits 10 n := by
  rw [decimal, if_neg (Int.not_lt.2 (Int.natCast_nonneg n)), String.toList_ofList,
    Int.natAbs_natCast]

theorem isDigit_of_mem_decimal {n : Nat} (h : c ∈ (decimal n).toList) : c.isDigit = true := by
  rw [toList_decimal] at h
  exact Nat.isDigit_of_mem_toDigits (by decide) (by decide) h

theorem isNumeral_decimal {n : Nat} (h : Fits n) : IsNumeral (decimal n).toList := by
  refine ⟨?_, fun c hc => isDecimal_of_isDigit (isDigit_of_mem_decimal hc), ?_⟩
  · rw [toList_decimal]
    exact Nat.toDigits_ne_nil
  · rwa [Fits, Int.natAbs_natCast, ← toList_decimal] at h

theorem read_decimal {n : Nat} (h : Fits n) : read 10 (decimal n).toList = .ok n := by
  obtain ⟨hn, hd, hl⟩ := isNumeral_decimal h
  rw [read_decimals hd hn, if_neg (Nat.not_lt.2 hl), toList_decimal, decimalValue_toDigits]

def isDecimalChar (c : Char) : Bool := c.isDigit || c = '-'

theorem isDecimalChar_of_mem_decimal {n : Int} (h : c ∈ (decimal n).toList) :
    isDecimalChar c = true := by
  have hd (h : c ∈ Nat.toDigits 10 n.natAbs) : isDecimalChar c = true := by
    rw [isDecimalChar, Nat.isDigit_of_mem_toDigits (by decide) (by decide) h, Bool.true_or]
  rw [decimal, String.toList_ofList] at h
  split at h
  · rcases List.mem_cons.1 h with rfl | h
    · decide
    · exact hd h
  · exact hd h

theorem toDigits_injective {m n : Nat} (h : Nat.toDigits 10 m = Nat.toDigits 10 n) : m = n := by
  rw [← decimalValue_toDigits m, h, decimalValue_toDigits]

theorem decimal_injective : Function.Injective decimal := by
  have hminus {k : Nat} {s : List Char} : Nat.toDigits 10 k ≠ '-' :: s := by
    intro h
    have hd : ('-' : Char).isDigit = true :=
      Nat.isDigit_of_mem_toDigits (b := 10) (by decide) (by decide) (h ▸ List.mem_cons_self)
    exact absurd hd (by decide)
  intro m n h
  have h := congrArg String.toList h
  simp only [decimal, String.toList_ofList] at h
  split at h <;> split at h
  · have := toDigits_injective (List.cons.inj h).2
    omega
  · exact absurd h.symm hminus
  · exact absurd h hminus
  · have := toDigits_injective h
    omega

theorem decimal_append_inj {m n : Int} (hs : Stops isDecimalChar s) (ht : Stops isDecimalChar t)
    (h : (decimal m).toList ++ s = (decimal n).toList ++ t) : m = n ∧ s = t := by
  obtain ⟨hd, hr⟩ := run_append_inj h (fun _ => isDecimalChar_of_mem_decimal)
    (fun _ => isDecimalChar_of_mem_decimal) hs ht
  exact ⟨decimal_injective (String.toList_injective hd), hr⟩

end SchemaPlan.Numeral
