import SchemaPlan.Proofs.Grammar.Unambiguous
import SchemaPlan.Proofs.Numeral
import SchemaPlan.Proofs.Text.Lines
import SchemaPlan.TypeSpec

namespace SchemaPlan

theorem mapM_eq_ok {as : List α} {f : α → Except ε β} {g : α → β}
    (h : ∀ a ∈ as, f a = .ok (g a)) : as.mapM f = .ok (as.map g) := by
  induction as with
  | nil => rfl
  | cons a as ih =>
    rw [List.mapM_cons, h a (by simp), ih fun b hb => h b (by simp [hb])]
    rfl

theorem mapM_error {as : List α} {f : α → Except ε β} (ha : a ∈ as) (h : ∃ e, f a = .error e) :
    ∃ e, as.mapM f = .error e := by
  obtain ⟨e, h⟩ := h
  induction as with
  | nil => cases ha
  | cons b as ih =>
    rw [List.mapM_cons]
    cases hb : f b with
    | error e => exact ⟨e, rfl⟩
    | ok v =>
      rcases List.mem_cons.1 ha with rfl | ha
      · rw [h] at hb
        cases hb
      · obtain ⟨e, he⟩ := ih ha
        exact ⟨e, by rw [he]; rfl⟩

namespace Grammar
open Form Text Numeral

theorem TypeSpec.readParam_numeral (h : IsNumeral (trim piece)) :
    TypeSpec.readParam token piece = .ok (decimalValue (trim piece)) := by
  obtain ⟨hn, hd, hl⟩ := h
  have hi : (trim piece).all isDigitChar = true := by
    simp only [List.all_eq_true]
    intro c hc
    rw [isDigitChar, hd c hc, Bool.true_or]
  have hg : ¬ (trim piece).length > maxDigits := by omega
  simp [TypeSpec.readParam, hn, hi, read_decimals hd hn, hg, Except.mapError]

theorem TypeSpec.readParam_error (token : String) (h : ¬ IsNumeral (trim piece)) :
    ∃ fault, TypeSpec.readParam token piece = .error fault := by
  rw [TypeSpec.readParam]
  split
  · exact ⟨_, rfl⟩
  · next hi =>
    simp only [Bool.or_eq_true, List.isEmpty_iff, Bool.not_eq_true', not_or,
      Bool.not_eq_false] at hi
    obtain ⟨hn, hi⟩ := hi
    by_cases hd : ∀ c ∈ trim piece, isDecimal c = true
    · have hl : (trim piece).length > maxDigits := by
        by_contra hl
        exact h ⟨hn, hd, by omega⟩
      rw [read_decimals hd hn, if_pos hl]
      exact ⟨_, rfl⟩
    · obtain ⟨fault, hf⟩ := read_signDigit (List.all_eq_true.1 hi) hd
      rw [hf]
      exact ⟨_, rfl⟩

def TypeToken.params (t : TypeToken) : List (List Char) :=
  match t.parameters with
  | none => []
  | some p => (p.inner.splitOn ',').map trim

/-- Whether all parameters are numerals. -/
def TypeToken.Readable (t : TypeToken) : Prop := ∀ ds ∈ t.params, IsNumeral ds

def TypeToken.spec (t : TypeToken) : TypeSpec :=
  ⟨.ofList t.name.text, t.params.map fun ds => (decimalValue ds : Int)⟩

theorem TypeToken.trimmed (t : TypeToken) : Trimmed t.text := by
  constructor
  · simpa using t.stops []
  · obtain ⟨name, _ | p⟩ := t
    · simp only [TypeToken.text, Option.map_none, Option.getD_none, List.append_nil]
      intro c hc
      exact isBlank_of_isWordChar (name.word c (List.mem_of_getLast? hc))
    · intro c hc
      have hl : (TypeToken.text ⟨name, some p⟩).getLast? = some ')' := by
        change (name.text ++ (p.before.text ++ ('(' :: p.inner ++ [')']))).getLast? = _
        rw [← List.append_assoc, ← List.append_assoc, List.getLast?_concat]
      rw [hl] at hc
      cases hc
      decide

theorem TypeToken.split?_text (t : TypeToken) :
    TypeSpec.split? t.text = some (t.name.text, t.parameters.map (·.inner)) := by
  obtain ⟨name, _ | p⟩ := t
  · have ht := takeWhile_run name.word stops_nil
    have hd := dropWhile_run name.word stops_nil
    rw [List.append_nil] at ht hd
    simp only [TypeToken.text, Option.map_none, Option.getD_none, List.append_nil,
      TypeSpec.split?, ht, hd]
    simp [name.nonempty]
  · have hp := p.stops []
    have hb := p.skipBlanks_text []
    rw [List.append_nil] at hp hb
    have hs : (p.text.dropWhile isBlank) = '(' :: (p.inner ++ [')']) := hb
    simp only [TypeToken.text, Option.map_some, Option.getD_some, TypeSpec.split?,
      takeWhile_run name.word hp, dropWhile_run name.word hp, hs]
    simp [name.nonempty]

theorem parse_typeToken (t : TypeToken) (h : t.Readable) :
    TypeSpec.parse (.ofList t.text) = .ok t.spec := by
  rw [TypeSpec.parse, String.toList_ofList, t.trimmed.trim_eq, t.split?_text]
  obtain ⟨name, _ | p⟩ := t
  · rfl
  · have hp : ∀ piece ∈ p.inner.splitOn ',', IsNumeral (trim piece) := fun piece hp =>
      h _ (List.mem_map.2 ⟨piece, hp, rfl⟩)
    simp only [Option.map_some, splitOn_eq,
      mapM_eq_ok fun piece hm => TypeSpec.readParam_numeral (hp piece hm)]
    simp only [TypeToken.spec, TypeToken.params, List.map_map]
    rfl

theorem parse_typeToken_error (t : TypeToken) (h : ¬ t.Readable) :
    ∃ fault, TypeSpec.parse (.ofList t.text) = .error fault := by
  rw [TypeSpec.parse, String.toList_ofList, t.trimmed.trim_eq, t.split?_text]
  obtain ⟨name, _ | p⟩ := t
  · exact absurd (by simp [TypeToken.Readable, TypeToken.params]) h
  · simp only [TypeToken.Readable, TypeToken.params, List.mem_map, forall_exists_index, and_imp,
      forall_apply_eq_imp_iff₂, not_forall] at h
    obtain ⟨piece, hm, hn⟩ := h
    have he := TypeSpec.readParam_error (.ofList (TypeToken.text ⟨name, some p⟩)) hn
    obtain ⟨fault, hf⟩ := mapM_error hm he
    simp only [Option.map_some, splitOn_eq, hf]
    exact ⟨fault, rfl⟩

end Grammar

end SchemaPlan
