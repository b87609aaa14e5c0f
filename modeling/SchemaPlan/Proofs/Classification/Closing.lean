import SchemaPlan.Proofs.Classification
import SchemaPlan.Proofs.Grammar.Backward

namespace SchemaPlan

namespace Grammar
open Text

/-- A reading says the same with any other end, even if the text of a table definition goes on
between the two. -/
theorem Reading.exists_ending {r : Reading} {e : Ending} (h : r.text = s ++ e.text)
    (hs : EndsOutside isEndChar s) (f : Ending) :
    ∃ q : Reading, q.text = s ++ f.text ∧ q.form = r.form := by
  cases r with
  | createTable lead table blanks rest =>
    have hc : lead.text ++ (table.text ++ blanks.text) ++ ['('] ++ rest = s ++ e.text := by
      simpa [text] using h
    -- The columns are not read, but the parenthesis in front of them is no part of an end.
    obtain ⟨body, rfl⟩ := prefix_of_append_run hc (endsOutside_concat (by decide)) e.isEndChar
    exact ⟨.createTable lead table blanks (body ++ f.text), by simp [text], rfl⟩
  | dropTable lead table ending =>
    have hc : lead.text ++ table.text ++ ending.text = s ++ e.text := by simpa [text] using h
    obtain ⟨rfl, -⟩ := Ending.last_inj hc table.endsOutside_end hs
    exact ⟨.dropTable lead table f, by simp [text], rfl⟩
  | addColumn lead table gap verb column between type clause ending =>
    have hc : lead.text ++ (table.text ++ (gap.text ++ (verb.text ++ (column.text ++
        between.text)))) ++ type.text ++ clause.text ++ ending.text = s ++ e.text := by
      simpa [text] using h
    obtain ⟨rfl, -⟩ := Ending.last_inj hc (clause.endsOutside_end type.endsOutside_end) hs
    exact ⟨.addColumn lead table gap verb column between type clause f, by simp [text], rfl⟩
  | dropColumn lead table gap verb column ending =>
    have hc : lead.text ++ (table.text ++ (gap.text ++ verb.text)) ++ column.text ++
        ending.text = s ++ e.text := by
      simpa [text] using h
    obtain ⟨rfl, -⟩ := Ending.last_inj hc column.endsOutside_end hs
    exact ⟨.dropColumn lead table gap verb column f, by simp [text], rfl⟩
  | createIndex unique lead name gap on table before inside column behind ending =>
    have hc : lead.text ++ (name.text ++ (gap.text ++ (on.text ++ (table.text ++ (before.text ++
        '(' :: (inside.text ++ (column.text ++ behind.text))))))) ++ [')'] ++
        ending.text = s ++ e.text := by
      simpa [text] using h
    obtain ⟨rfl, -⟩ := Ending.last_inj hc (endsOutside_concat (by decide)) hs
    exact ⟨.createIndex unique lead name gap on table before inside column behind f,
      by simp [text], rfl⟩
  | dropIndex lead name ending =>
    have hc : lead.text ++ name.text ++ ending.text = s ++ e.text := by simpa [text] using h
    obtain ⟨rfl, -⟩ := Ending.last_inj hc name.endsOutside_end hs
    exact ⟨.dropIndex lead name f, by simp [text], rfl⟩
  | dropIndexOn lead name gap on table ending =>
    have hc : lead.text ++ (name.text ++ (gap.text ++ on.text)) ++ table.text ++
        ending.text = s ++ e.text := by
      simpa [text] using h
    obtain ⟨rfl, -⟩ := Ending.last_inj hc table.endsOutside_end hs
    exact ⟨.dropIndexOn lead name gap on table f, by simp [text], rfl⟩

theorem read?_ending (hs : EndsOutside isEndChar s) (e f : Ending) :
    Form.read? (s ++ e.text) = Form.read? (s ++ f.text) := by
  have imp {e f : Ending} {form : Form} (h : Form.read? (s ++ e.text) = some form) :
      Form.read? (s ++ f.text) = some form := by
    obtain ⟨r, ht, rfl⟩ := read?_eq_some_iff.1 h
    obtain ⟨q, hq, hf⟩ := r.exists_ending ht hs f
    exact read?_eq_some_iff.2 ⟨q, hq, hf⟩
  exact Option.ext fun form => ⟨imp, imp⟩

def Blanks.none : Blanks := ⟨[], nofun⟩

def Ending.none : Ending := ⟨.none, false, .none⟩

/-- The end that is a semicolon behind blanks. -/
def Ending.semicolonBehind (blanks : Blanks) : Ending := ⟨blanks, true, .none⟩

@[simp] theorem Blanks.text_none : Blanks.none.text = [] := rfl

@[simp] theorem Ending.text_none : Ending.none.text = [] := rfl

@[simp] theorem Ending.text_semicolonBehind (blanks : Blanks) :
    (semicolonBehind blanks).text = blanks.text ++ [';'] := rfl

theorem exists_trim_closed (before between after : Blanks) (s : List Char) :
    ∃ e : Ending,
      trim (before.text ++ s ++ between.text ++ ';' :: after.text) = trim s ++ e.text := by
  obtain ⟨front, back, hs, hf, hb⟩ := exists_blanks_around s
  have hbefore : ∀ c ∈ before.text ++ front, isBlank c = true :=
    List.forall_mem_append.2 ⟨before.blank, hf⟩
  have hbehind : ∀ c ∈ back ++ between.text, isBlank c = true :=
    List.forall_mem_append.2 ⟨hb, between.blank⟩
  have tight (u : List Char) : EndsTight (u ++ [';']) := endsOutside_concat (by decide)
  by_cases hn : trim s = []
  · -- Nothing but the semicolon is left.
    have hblank : ∀ c ∈ before.text ++ s ++ between.text, isBlank c = true := by
      rw [hs, hn, List.append_nil, ← List.append_assoc, List.append_assoc]
      exact List.forall_mem_append.2 ⟨hbefore, hbehind⟩
    have ht := trim_blanks_around hblank ⟨stops_cons_iff.2 (by decide), tight []⟩
      (List.cons_ne_nil _ _) after.blank
    refine ⟨.semicolonBehind .none, ?_⟩
    rw [hn]
    simpa using ht
  · have hstops : Stops isBlank (trim s ++ (back ++ between.text) ++ [';']) := by
      rw [List.append_assoc]
      exact stops_append hn (trimmed_trim s).1
    have ht := trim_blanks_around hbefore ⟨hstops, tight _⟩ (by simp) after.blank
    refine ⟨.semicolonBehind ⟨back ++ between.text, hbehind⟩, ?_⟩
    rw [Ending.text_semicolonBehind, ← List.append_assoc, ← ht]
    conv_lhs => rw [hs]
    simp

theorem endsOutside_trim (h : (trim s).getLast? ≠ some ';') :
    EndsOutside isEndChar (trim s) := by
  intro c hc
  have hs : c ≠ ';' := by
    rintro rfl
    exact h hc
  rw [isEndChar, (trimmed_trim s).2 c hc, decide_eq_false hs, Bool.or_false]

end Grammar

namespace Statement
open Grammar Text

/-- Blanks around a statement and a semicolon behind it do not change what it stands for, unless it
ends in a semicolon already. -/
theorem change_closed {statement closed : Statement} (before between after : Blanks)
    (hc : closed.text.toList =
      before.text ++ statement.text.toList ++ between.text ++ ';' :: after.text)
    (hs : (trim statement.text.toList).getLast? ≠ some ';') :
    closed.classify.value.change = statement.classify.value.change := by
  obtain ⟨e, he⟩ := exists_trim_closed before between after statement.text.toList
  have hr := read?_ending (endsOutside_trim hs) e .none
  rw [Ending.text_none, List.append_nil] at hr
  rw [change_classify, change_classify, hc, he, hr]

def openColumn : Statement :=
  ⟨1, "ALTER TABLE t ADD COLUMN c decimal(10, 2) NOT NULL\n", Nat.one_pos⟩

def closedColumn : Statement :=
  ⟨2, "\tALTER TABLE t ADD COLUMN c decimal(10, 2) NOT NULL\n\u00a0; ", Nat.two_pos⟩

theorem closedColumn_change :
    closedColumn.text.toList =
      ['\t'] ++ openColumn.text.toList ++ ['\u00a0'] ++ ';' :: [' '] ∧
    (trim openColumn.text.toList).getLast? ≠ some ';' ∧
    closedColumn.classify.value.change = .addColumn "t" "c" ⟨"decimal", [10, 2]⟩ (some false) := by
  have hc : closedColumn.text.toList =
      ['\t'] ++ openColumn.text.toList ++ ['\u00a0'] ++ ';' :: [' '] := by decide +kernel
  have hs : (trim openColumn.text.toList).getLast? ≠ some ';' := by decide +kernel
  have hb {c : Char} (h : isBlank c = true) : ∀ d ∈ [c], isBlank d = true := by simpa using h
  have h := change_closed ⟨['\t'], hb (by decide)⟩ ⟨['\u00a0'], hb (by decide)⟩
    ⟨[' '], hb (by decide)⟩ hc hs
  exact ⟨hc, hs, h.trans (by decide +kernel)⟩

end Statement

end SchemaPlan
