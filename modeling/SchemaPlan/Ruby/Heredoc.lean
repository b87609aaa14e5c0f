import SchemaPlan.Text.Blank
import SchemaPlan.Text.Lines

namespace SchemaPlan.Ruby

def closes (tag line : List Char) : Bool := Text.trim line = tag

def longLines (lines : List (List Char)) (tag : List Char) : List (List Char) :=
  lines.filter fun line => tag.length ≤ (Text.trim line).length

theorem length_longLines_lt (h : lines.any (closes tag) = true) :
    (longLines lines (tag ++ ['_'])).length < (longLines lines tag).length := by
  obtain ⟨line, hm, hc⟩ := List.any_eq_true.1 h
  have hl : Text.trim line = tag := of_decide_eq_true hc
  have hf : longLines lines (tag ++ ['_']) =
      (longLines lines tag).filter fun line => tag.length < (Text.trim line).length := by
    rw [longLines, longLines, List.filter_filter]
    refine List.filter_congr fun line _ => ?_
    simp only [List.length_append, List.length_singleton, Nat.succ_le_iff]
    grind
  rw [hf, List.length_filter_lt_length_iff_exists]
  exact ⟨line, List.mem_filter.2 ⟨hm, by simp [hl]⟩, by simp [hl]⟩

/-- Adds underscores to a tag for as long as some line would close it. -/
def freeTag (lines : List (List Char)) (tag : List Char) : List Char :=
  if lines.any (closes tag) then freeTag lines (tag ++ ['_']) else tag
termination_by (longLines lines tag).length
decreasing_by exact length_longLines_lt ‹_›

def heredocTag (lines : List (List Char)) : List Char := freeTag lines "SQL".toList

/-- Blank lines lose their blanks, the others are indented. -/
def heredocLine (line : List Char) : List Char :=
  if (Text.trim line).isEmpty then [] else ' ' :: ' ' :: line

/-- The lines of a text, an empty one for the empty text. -/
def heredocBody (sql : List Char) : List (List Char) :=
  match Text.lines sql with
  | [] => [[]]
  | lines => lines

def executeBlock (sql : List Char) : List (List Char) :=
  let lines := heredocBody sql
  let tag := heredocTag lines
  ("execute <<~'".toList ++ tag ++ ['\'']) :: lines.map heredocLine ++ [tag]

end SchemaPlan.Ruby
