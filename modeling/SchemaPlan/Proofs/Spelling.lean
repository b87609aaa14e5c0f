import SchemaPlan.Proofs.Text.LowerCase
import SchemaPlan.Spelling

namespace SchemaPlan
open Yaml (Letter)

namespace Yaml.Letter

theorem written_ofChars (s : List Char) : written (ofChars s) = s := by
  induction s with
  | nil => rfl
  | cons c s ih => exact congrArg (c :: ·) ih

theorem lower_ofChars_append (run s : List Char) (rest : List Letter) :
    lower run (ofChars s ++ rest) = lower (s.reverse ++ run) rest := by
  induction s generalizing run with
  | nil => rfl
  | cons c s ih =>
    rw [List.reverse_cons, List.append_assoc]
    exact ih (c :: run)

theorem lower_ofChars (s : List Char) : lower [] (ofChars s) = ofChars (Text.lower s) := by
  have h := lower_ofChars_append [] s []
  rwa [List.append_nil, List.append_nil, lower, List.reverse_reverse] at h

/-- Runs of characters in lower case are found again between the same halves. -/
theorem lower_lower (run : List Char) (letters : List Letter) :
    lower [] (lower run letters) = lower run letters := by
  induction letters generalizing run with
  | nil => rw [lower, lower_ofChars, Text.lower_lower]
  | cons letter rest ih =>
    cases letter with
    | char c => exact ih (c :: run)
    | half code =>
      rw [lower, lower_ofChars_append, List.append_nil, lower, List.reverse_reverse,
        Text.lower_lower, ih]

end Yaml.Letter

theorem Flaw.ofLetters?_eq_none_iff {letters : List Letter} :
    ofLetters? letters = none ↔ ∃ s, letters = Letter.ofChars s := by
  induction letters with
  | nil => exact iff_of_true rfl ⟨[], rfl⟩
  | cons letter rest ih =>
    cases letter with
    | half code =>
      refine iff_of_false nofun ?_
      rintro ⟨_ | _, h⟩ <;> cases h
    | char c =>
      rw [ofLetters?, Option.map_eq_none_iff, ih]
      constructor
      · rintro ⟨s, rfl⟩
        exact ⟨c :: s, rfl⟩
      · rintro ⟨_ | ⟨_, s⟩, h⟩ <;> cases h
        exact ⟨s, rfl⟩

namespace Spelling

variable {s t : Spelling}

@[simp]
theorem text_ofString (text : String) : (ofString text).text = text := by
  rw [Spelling.text, ofString, Letter.written_ofChars, String.ofList_toList]

@[simp]
theorem flaw_ofString (text : String) : (ofString text).flaw = none :=
  Flaw.ofLetters?_eq_none_iff.2 ⟨_, rfl⟩

@[simp]
theorem lower_ofString (text : String) : (ofString text).lower = ofString (lowered text) := by
  rw [lower, ofString, Letter.lower_ofChars, ofString, lowered, String.toList_ofList]

theorem lower_lower (s : Spelling) : s.lower.lower = s.lower :=
  congrArg mk (Letter.lower_lower [] s.letters)

theorem ofString_text (h : s.flaw = none) : ofString s.text = s := by
  obtain ⟨letters⟩ := s
  obtain ⟨chars, rfl⟩ := Flaw.ofLetters?_eq_none_iff.1 h
  rw [Spelling.text, Letter.written_ofChars, ofString, String.toList_ofList]

theorem eq_of_text (hs : s.flaw = none) (ht : t.flaw = none) (h : s.text = t.text) : s = t := by
  rw [← ofString_text hs, h, ofString_text ht]

end Spelling

end SchemaPlan
