import SchemaPlan.Proofs.Text.Runs

namespace SchemaPlan.Grammar
open Form Text

variable {c l : Char}

/-- A small letter and the same letter in either case; the dotted and the dotless I count as I. -/
def SameLetter (letter c : Char) : Prop :=
  c = letter ∨ c = letter.toUpper ∨ letter = 'i' ∧ (c = 'İ' ∨ c = 'ı')

theorem sameLetter_of_isLetter (h : isLetter l c = true) : SameLetter l c := by
  simp only [isLetter, Bool.or_eq_true, Bool.and_eq_true, decide_eq_true_eq] at h
  rcases h with rfl | ⟨rfl, h | h⟩
  · by_cases hc : c.toNat < 128
    · have ha := ascii_cases (P := fun c => c = c.toLower ∨ c = c.toLower.toUpper) (by decide) hc
      exact ha.imp_right .inl
    · exact .inl (toLower_of_not_ascii hc).symm
  · exact .inr (.inr ⟨rfl, .inl (by rw [← Char.ofNat_toNat c, h])⟩)
  · exact .inr (.inr ⟨rfl, .inr (by rw [← Char.ofNat_toNat c, h])⟩)

theorem isAscii_of_isLower (hl : l.isLower = true) : l.toNat < 128 := by
  simp only [Char.isLower, Bool.and_eq_true, decide_eq_true_eq] at hl
  have hn : l.toNat ≤ 'z'.toNat := hl.2
  exact Nat.lt_of_le_of_lt hn (by decide)

theorem isLetter_of_sameLetter (hl : l.isLower = true) (h : SameLetter l c) :
    isLetter l c = true := by
  have ha := isAscii_of_isLower hl
  rcases h with rfl | rfl | ⟨rfl, rfl | rfl⟩
  · revert hl
    exact ascii_cases (P := fun c => c.isLower = true → isLetter c c = true) (by decide) ha
  · revert hl
    exact ascii_cases (P := fun l => l.isLower = true → isLetter l l.toUpper = true) (by decide) ha
  · decide
  · decide

theorem isWordChar_of_sameLetter (hl : l.isLower = true) (h : SameLetter l c) :
    isWordChar c = true := by
  have ha := isAscii_of_isLower hl
  rcases h with rfl | rfl | ⟨rfl, rfl | rfl⟩
  · revert hl
    exact ascii_cases (P := fun c => c.isLower = true → isWordChar c = true) (by decide) ha
  · revert hl
    exact ascii_cases (P := fun l => l.isLower = true → isWordChar l.toUpper = true) (by decide) ha
  · decide
  · decide

def smallLetter (c : Char) : Char := if c = 'İ' ∨ c = 'ı' then 'i' else c.toLower

theorem SameLetter.eq_smallLetter (hl : l.isLower = true) (h : SameLetter l c) :
    l = smallLetter c := by
  have ha := isAscii_of_isLower hl
  rcases h with rfl | rfl | ⟨rfl, rfl | rfl⟩
  · revert hl
    exact ascii_cases (P := fun c => c.isLower = true → c = smallLetter c) (by decide) ha
  · revert hl
    exact ascii_cases (P := fun l => l.isLower = true → l = smallLetter l.toUpper) (by decide) ha
  · decide
  · decide

/-- A keyword as it is spelled in a text. -/
@[ext]
structure Keyword (k : String) where
  text : List Char
  spelled : List.Forall₂ SameLetter k.toList text

/-- One or more blanks. -/
@[ext]
structure Gap where
  text : List Char
  nonempty : text ≠ []
  blank : ∀ c ∈ text, isBlank c = true

@[ext]
structure Blanks where
  text : List Char
  blank : ∀ c ∈ text, isBlank c = true

@[ext]
structure Word where
  text : List Char
  nonempty : text ≠ []
  word : ∀ c ∈ text, isWordChar c = true

@[ext]
structure Mark where
  text : List Char
  valid : text = [] ∨ ∃ c ∈ quotationMarks, text = [c]

inductive Phrase : List String → Type
  | nil : Phrase []
  | cons (word : Keyword k) (gap : Gap) (more : Phrase ks) : Phrase (k :: ks)

def Phrase.text : Phrase ks → List Char
  | nil => []
  | cons word gap more => word.text ++ (gap.text ++ more.text)

/-- A name, which may stand between quotation marks. -/
@[ext]
structure Identifier where
  opening : Mark
  word : Word
  closing : Mark

def Identifier.text (i : Identifier) : List Char :=
  i.opening.text ++ (i.word.text ++ i.closing.text)

/-- The end of a statement, with the semicolon if there is one. -/
@[ext]
structure Ending where
  before : Blanks
  semicolon : Bool
  after : Blanks

def Ending.text (e : Ending) : List Char :=
  e.before.text ++ ((if e.semicolon then [';'] else []) ++ e.after.text)

/-- The parenthesised text behind a type name. -/
@[ext]
structure Parameters where
  before : Blanks
  inner : List Char
  closed : ')' ∉ inner

def Parameters.text (p : Parameters) : List Char := p.before.text ++ '(' :: (p.inner ++ [')'])

@[ext]
structure TypeToken where
  name : Word
  parameters : Option Parameters

def TypeToken.text (t : TypeToken) : List Char :=
  t.name.text ++ (t.parameters.map Parameters.text).getD []

/-- What a column definition says about nulls. -/
inductive NullClause
  | unstated
  | null (gap : Gap) (word : Keyword "null")
  | notNull (gap : Gap) (negation : Keyword "not") (between : Gap) (word : Keyword "null")

def NullClause.text : NullClause → List Char
  | unstated => []
  | null gap word => gap.text ++ word.text
  | notNull gap negation between word => gap.text ++ (negation.text ++ (between.text ++ word.text))

def NullClause.nullable : NullClause → Option Bool
  | unstated => none
  | null .. => some true
  | notNull .. => some false

end SchemaPlan.Grammar
