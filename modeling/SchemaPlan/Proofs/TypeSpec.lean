import SchemaPlan.Proofs.Classification.Closing
import SchemaPlan.Proofs.Rendering

namespace SchemaPlan.TypeSpec
open Text Numeral

variable {spec : TypeSpec}

structure IsProper (spec : TypeSpec) : Prop where
  nonempty : spec.base ≠ ""
  word : ∀ c ∈ spec.base.toList, isWordChar c = true
  natural : ∀ n ∈ spec.params, 0 ≤ n
  fits : spec.Fits

theorem exists_numeral {pieces : List (List Char)} {params : List Int}
    (h : pieces.mapM (readParam token) = .ok params) (hn : n ∈ params) :
    ∃ ds, IsNumeral ds ∧ n = decimalValue ds := by
  by_cases hp : ∀ piece ∈ pieces, IsNumeral (trim piece)
  · rw [mapM_eq_ok fun piece hm => Grammar.TypeSpec.readParam_numeral (hp piece hm)] at h
    obtain rfl := Except.ok.inj h
    obtain ⟨piece, hm, rfl⟩ := List.mem_map.1 hn
    exact ⟨_, hp piece hm, rfl⟩
  · simp only [not_forall] at hp
    obtain ⟨piece, hm, hp⟩ := hp
    obtain ⟨fault, hf⟩ := mapM_error hm (Grammar.TypeSpec.readParam_error token hp)
    rw [hf] at h
    cases h

theorem word_of_split? {s name : List Char} {inner : Option (List Char)}
    (h : split? s = some (name, inner)) : name ≠ [] ∧ ∀ c ∈ name, isWordChar c = true := by
  have hw : name = s.takeWhile isWordChar ∧ s.takeWhile isWordChar ≠ [] := by
    rw [split?] at h
    split at h
    · cases h
    · next hn =>
      refine ⟨?_, by simpa using hn⟩
      split at h
      · cases h
        rfl
      · split at h <;> cases h
        rfl
      · cases h
  rw [hw.1]
  exact ⟨hw.2, fun _ => List.mem_takeWhile_imp⟩

theorem isProper_of_parse {token : String} (h : parse token = .ok spec) : spec.IsProper := by
  have proper {name : List Char} {inner : Option (List Char)} {params : List Int}
      (hs : split? (trim token.toList) = some (name, inner))
      (hp : ∀ n ∈ params, ∃ ds, IsNumeral ds ∧ n = decimalValue ds) :
      IsProper ⟨.ofList name, params⟩ := by
    obtain ⟨hn, hw⟩ := word_of_split? hs
    refine ⟨by simpa using hn, by simpa using hw, fun n hm => ?_, fun n hm => ?_⟩
    · obtain ⟨ds, -, rfl⟩ := hp n hm
      exact Int.natCast_nonneg _
    · obtain ⟨ds, hd, rfl⟩ := hp n hm
      exact fits_decimalValue hd
  rw [parse] at h
  split at h
  · cases h
  · next hs =>
    cases h
    exact proper hs (List.forall_mem_nil _)
  · next inner hs =>
    cases hm : (splitOn ',' inner).mapM (readParam token) with
    | error fault =>
      rw [hm] at h
      cases h
    | ok params =>
      rw [hm] at h
      cases h
      exact proper hs fun n => exists_numeral hm

def numerals (spec : TypeSpec) : List (List Char) := spec.params.map fun n => (decimal n).toList

theorem IsProper.isNumeral (h : spec.IsProper) : ∀ ds ∈ spec.numerals, IsNumeral ds := by
  intro ds hd
  obtain ⟨n, hn, rfl⟩ := List.mem_map.1 hd
  obtain ⟨k, rfl⟩ := Int.eq_ofNat_of_zero_le (h.natural n hn)
  exact isNumeral_decimal (h.fits _ hn)

theorem IsProper.values (h : spec.IsProper) :
    spec.numerals.map (fun ds => (decimalValue ds : Int)) = spec.params := by
  rw [numerals, List.map_map]
  conv => rhs; rw [← List.map_id spec.params]
  apply List.map_congr_left
  intro n hn
  obtain ⟨k, rfl⟩ := Int.eq_ofNat_of_zero_le (h.natural n hn)
  rw [Function.comp_apply, toList_decimal, decimalValue_toDigits, id]

theorem IsProper.notMem (h : spec.IsProper) {c : Char} (hc : isDecimal c = false) :
    ∀ ds ∈ spec.numerals, c ∉ ds := by
  intro ds hd hm
  rw [(h.isNumeral ds hd).2.1 c hm] at hc
  cases hc

def IsProper.token (h : spec.IsProper) : Grammar.TypeToken where
  name := ⟨spec.base.toList, by simpa using h.nonempty, h.word⟩
  parameters :=
    if spec.params = [] then none
    else some {
      before := .none
      inner := [','].intercalate spec.numerals
      closed := notMem_intercalate (by decide) (h.notMem (by decide)) }

theorem IsProper.text_token (h : spec.IsProper) : .ofList h.token.text = spec.written := by
  apply String.toList_injective
  rw [String.toList_ofList, written, token]
  by_cases hp : spec.params = []
  · simp [hp, Grammar.TypeToken.text]
  · simp [hp, Grammar.TypeToken.text, Grammar.Parameters.text, String.toList_intercalate, numerals,
      Function.comp_def]

theorem IsProper.params_token (h : spec.IsProper) : h.token.params = spec.numerals := by
  rw [Grammar.TypeToken.params, token]
  by_cases hp : spec.params = []
  · simp [hp, numerals]
  · have hs : ([','].intercalate spec.numerals).splitOn ',' = spec.numerals :=
      List.splitOn_intercalate ',' (h.notMem (by decide)) (by simpa [numerals] using hp)
    have ht : ∀ ds ∈ spec.numerals, trim ds = ds := by
      intro ds hd
      have hb : ∀ c ∈ ds, isBlank c = false := fun c hc =>
        isBlank_of_isDecimal ((h.isNumeral ds hd).2.1 c hc)
      exact Trimmed.trim_eq ⟨fun c hc => hb c (List.mem_of_head? hc),
        fun c hc => hb c (List.mem_of_getLast? hc)⟩
    simp only [if_neg hp, hs, List.map_congr_left ht, List.map_id']

theorem IsProper.parse_written (h : spec.IsProper) : parse spec.written = .ok spec := by
  have hr : h.token.Readable := by
    rw [Grammar.TypeToken.Readable, h.params_token]
    exact h.isNumeral
  have hs : h.token.spec = spec := by
    rw [Grammar.TypeToken.spec, h.params_token, h.values, token, String.ofList_toList]
  rw [← h.text_token, Grammar.parse_typeToken h.token hr, hs]

/-- A word with natural numbers that can be written is a type that is written and read back; and
there is no other type that a token gives, however it is spaced and whatever digits it uses. -/
theorem text_parses (spec : TypeSpec) :
    (spec.IsProper → ∃ text, spec.text = .ok text ∧ parse text = .ok spec) ∧
    ∀ token, parse token = .ok spec →
      spec.IsProper ∧ ∃ text, spec.text = .ok text ∧ parse text = .ok spec := by
  have back (h : spec.IsProper) : ∃ text, spec.text = .ok text ∧ parse text = .ok spec :=
    ⟨spec.written, text_of_fits h.fits, h.parse_written⟩
  refine ⟨back, fun token h => ?_⟩
  have hp := isProper_of_parse h
  exact ⟨hp, back hp⟩

theorem looseToken_parses : ∃ spec text, parse " decimal ( 010 , ٢ ) " = .ok spec ∧
    spec.text = .ok text ∧ text = "decimal(10,2)" ∧ parse text = .ok spec := by
  have h : parse " decimal ( 010 , ٢ ) " = .ok ⟨"decimal", [10, 2]⟩ := by decide +kernel
  obtain ⟨-, text, ht, hp⟩ := (text_parses ⟨"decimal", [10, 2]⟩).2 _ h
  have hw : TypeSpec.text ⟨"decimal", [10, 2]⟩ = .ok "decimal(10,2)" := by decide +kernel
  exact ⟨_, text, h, ht, Except.ok.inj (ht.symm.trans hw), hp⟩

end SchemaPlan.TypeSpec
