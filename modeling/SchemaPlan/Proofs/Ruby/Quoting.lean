import SchemaPlan.Proofs.Text.Lines
import SchemaPlan.Ruby.Literal
import SchemaPlan.Ruby.Symbol

namespace SchemaPlan.Ruby
open Text

variable {escaped : List Char} {mark : Char}

/-- Reads a quoted text behind its opening mark. A backslash before an escaped character stands for
that character, and the first mark without one ends the text. -/
def unquote? (escaped : List Char) (mark : Char) : List Char → Option (List Char × List Char)
  | [] => none
  | [c] => if c = mark then some ([], []) else none
  | c :: d :: rest =>
    if c = mark then some ([], d :: rest)
    else if c = '\\' ∧ d ∈ escaped then
      (unquote? escaped mark rest).map fun (text, rest) => (d :: text, rest)
    else (unquote? escaped mark (d :: rest)).map fun (text, rest) => (c :: text, rest)

def escape (escaped : List Char) (c : Char) : List Char :=
  if c ∈ escaped then ['\\', c] else [c]

theorem unquote?_mark (rest : List Char) :
    unquote? escaped mark (mark :: rest) = some ([], rest) := by
  cases rest <;> simp [unquote?]

theorem unquote?_escape (hm : mark ∈ escaped) (hb : '\\' ∈ escaped) (hn : mark ≠ '\\') (c : Char)
    (rest : List Char) :
    unquote? escaped mark (escape escaped c ++ rest) =
      (unquote? escaped mark rest).map fun (text, rest) => (c :: text, rest) := by
  rw [escape]
  split
  · next hc => simp [unquote?, hn.symm, hc]
  · next hc =>
    have hcm : c ≠ mark := fun h => hc (h ▸ hm)
    have hcb : c ≠ '\\' := fun h => hc (h ▸ hb)
    cases rest <;> simp [unquote?, hcm, hcb]

theorem unquote?_flatMap (hm : mark ∈ escaped) (hb : '\\' ∈ escaped) (hn : mark ≠ '\\')
    (text rest : List Char) :
    unquote? escaped mark (text.flatMap (escape escaped) ++ mark :: rest) = some (text, rest) := by
  induction text with
  | nil => exact unquote?_mark rest
  | cons c text ih =>
    rw [List.flatMap_cons, List.append_assoc, unquote?_escape hm hb hn, ih]
    rfl

theorem escapeAll_flatMap (hc : c ∉ escaped) (hb : c ≠ '\\') (s : List Char) :
    escapeAll c (s.flatMap (escape escaped)) = s.flatMap (escape (escaped ++ [c])) := by
  rw [escapeAll, List.flatMap_assoc]
  refine List.flatMap_congr fun d _ => ?_
  by_cases hd : d ∈ escaped
  · have hdc : d ≠ c := fun h => hc (h ▸ hd)
    simp [escape, hd, hdc, hb.symm]
  · simp [escape, hd]

theorem escapeAll_backslash (s : List Char) : escapeAll '\\' s = s.flatMap (escape ['\\']) := by
  have he : escape ['\\'] = fun d => if d = '\\' then ['\\', d] else [d] := by
    funext d
    simp only [escape, List.mem_singleton]
  rw [escapeAll, he]

def symbolEscapes : List Char := ['\\', '"', '#']

def literalEscapes : List Char := ['\\', '\'']

theorem escapeSymbol_eq (name : List Char) :
    escapeSymbol name = name.flatMap (escape symbolEscapes) := by
  rw [escapeSymbol, escapeAll_backslash, escapeAll_flatMap (by decide) (by decide),
    escapeAll_flatMap (by decide) (by decide)]
  rfl

theorem escapeLiteral_eq (value : List Char) :
    escapeLiteral value = value.flatMap (escape literalEscapes) := by
  rw [escapeLiteral, escapeAll_backslash, escapeAll_flatMap (by decide) (by decide)]
  rfl

/-- Reads a literal off the front of a text. -/
def readLiteral? : List Char → Option (List Char × List Char)
  | '\'' :: rest => unquote? literalEscapes '\'' rest
  | _ => none

theorem readLiteral?_literal (value rest : List Char) :
    readLiteral? (literal value ++ rest) = some (value, rest) := by
  have h : unquote? literalEscapes '\''
      (value.flatMap (escape literalEscapes) ++ '\'' :: rest) = some (value, rest) :=
    unquote?_flatMap (by decide) (by decide) (by decide) value rest
  rw [literal, escapeLiteral_eq]
  simpa [readLiteral?] using h

theorem literal_append_inj (h : literal u ++ s = literal v ++ t) : u = v ∧ s = t := by
  have hr := readLiteral?_literal u s
  rw [h, readLiteral?_literal, Option.some.injEq, Prod.mk.injEq] at hr
  exact ⟨hr.1.symm, hr.2.symm⟩

/-- Reads a symbol off the front of a text; a bare one goes on as long as word characters do. -/
def readSymbol? : List Char → Option (List Char × List Char)
  | ':' :: '"' :: rest => unquote? symbolEscapes '"' rest
  | ':' :: rest => some (rest.takeWhile isWordChar, rest.dropWhile isWordChar)
  | _ => none

theorem isWordChar_of_isBareStart (h : isBareStart c = true) : isWordChar c = true := by
  have ha : c.toNat < 128 := by
    simp only [isBareStart, Char.isAlpha, Char.isUpper, Char.isLower, Bool.or_eq_true,
      Bool.and_eq_true, decide_eq_true_eq] at h
    rcases h with (⟨-, h⟩ | ⟨-, h⟩) | rfl
    · exact Nat.lt_of_le_of_lt h (by decide)
    · exact Nat.lt_of_le_of_lt h (by decide)
    · decide
  revert h
  exact ascii_cases (P := fun c => isBareStart c = true → isWordChar c = true) (by decide) ha

/-- A letter or an underscore, and word characters behind it. -/
def IsBareName (name : List Char) : Prop :=
  ∃ c rest, name = c :: rest ∧ isBareStart c = true ∧ ∀ d ∈ rest, isWordChar d = true

def IsBareLine (name : List Char) : Prop := ∃ bare, IsBareName bare ∧ name = bare ++ ['\n']

theorem IsBareName.isWordChar (h : IsBareName name) : ∀ c ∈ name, isWordChar c = true := by
  obtain ⟨c, rest, rfl, hc, hr⟩ := h
  exact List.forall_mem_cons.2 ⟨isWordChar_of_isBareStart hc, hr⟩

theorem isBareSymbol_iff : isBareSymbol name = true ↔ IsBareName name ∨ IsBareLine name := by
  constructor
  · intro h
    cases name with
    | nil => cases h
    | cons c rest =>
      simp only [isBareSymbol, Bool.and_eq_true, Bool.or_eq_true, decide_eq_true_eq] at h
      obtain ⟨hc, hr | hr⟩ := h
      · exact .inl ⟨c, rest, rfl, hc, List.dropWhile_eq_nil_iff.1 hr⟩
      · refine .inr ⟨c :: rest.takeWhile Text.isWordChar,
          ⟨c, _, rfl, hc, fun _ => List.mem_takeWhile_imp⟩, ?_⟩
        rw [List.cons_append, ← hr, List.takeWhile_append_dropWhile]
  · rintro (⟨c, rest, rfl, hc, hr⟩ | ⟨_, ⟨c, rest, rfl, hc, hr⟩, rfl⟩)
    · simp [isBareSymbol, hc, List.dropWhile_eq_nil_iff.2 hr]
    · have hl : Stops Text.isWordChar ['\n'] := stops_cons_iff.2 (by decide)
      simp [isBareSymbol, hc, dropWhile_run hr hl]

theorem not_isBareLine (ho : OneLine name) : ¬ IsBareLine name := by
  rintro ⟨bare, -, rfl⟩
  exact ho (by simp)

theorem symbol_cases (name : List Char) :
    (∃ s, symbol name = s ++ ['"']) ∨ symbol name = ':' :: name ∧ ' ' ∉ name := by
  rw [symbol]
  split
  · next hb =>
    refine .inr ⟨rfl, fun hm => ?_⟩
    have hw : ¬ Text.isWordChar ' ' = true := by decide
    rcases isBareSymbol_iff.1 hb with hn | ⟨bare, hn, rfl⟩
    · exact hw (hn.isWordChar _ hm)
    · exact hw (hn.isWordChar _ (by simpa using hm))
  · exact .inl ⟨':' :: '"' :: escapeSymbol name, rfl⟩

theorem readSymbol?_symbol (hl : ¬ IsBareLine name) (hs : Stops isWordChar rest) :
    readSymbol? (symbol name ++ rest) = some (name, rest) := by
  rw [symbol]
  split
  · next hb =>
    have hw := ((isBareSymbol_iff.1 hb).resolve_right hl).isWordChar
    have ht := takeWhile_run hw hs
    have hd := dropWhile_run hw hs
    cases name with
    | nil => cases hb
    | cons c name =>
      have hc : c ≠ '"' := by
        rintro rfl
        exact absurd (hw '"' (by simp)) (by decide)
      rw [List.cons_append] at ht hd ⊢
      rw [List.cons_append, readSymbol?, ht, hd]
      rintro _ ⟨⟩
      exact hc rfl
  · have h : unquote? symbolEscapes '"' (name.flatMap (escape symbolEscapes) ++ '"' :: rest) =
        some (name, rest) :=
      unquote?_flatMap (by decide) (by decide) (by decide) name rest
    rw [escapeSymbol_eq]
    simpa [readSymbol?] using h

theorem symbol_append_inj (hu : OneLine u) (hv : OneLine v) (hs : Stops isWordChar s)
    (ht : Stops isWordChar t) (h : symbol u ++ s = symbol v ++ t) : u = v ∧ s = t := by
  have hr := readSymbol?_symbol (not_isBareLine hu) hs
  rw [h, readSymbol?_symbol (not_isBareLine hv) ht, Option.some.injEq, Prod.mk.injEq] at hr
  exact ⟨hr.1.symm, hr.2.symm⟩

end SchemaPlan.Ruby
