import SchemaPlan.Proofs.Compilation
import SchemaPlan.Proofs.Migration.Helper
import SchemaPlan.Proofs.Migration.Slug
import SchemaPlan.Proofs.Ruby.Heredoc

namespace SchemaPlan
open Text

/-- A step as it stands in the source of a migration. -/
inductive SourceStep
  | heredoc (tag : List Char) (body : List (List Char))
  | table (opening closing : List Char)
  | single (text : List Char)
  deriving DecidableEq

namespace SourceStep

def heredocOpening : List Char := "    execute <<~'".toList

def tableOpening : List Char := "    create_table ".toList

def tag? (line : List Char) : Option (List Char) :=
  let rest := line.drop heredocOpening.length
  if heredocOpening.isPrefixOf line ∧ rest.getLast? = some '\'' then some rest.dropLast else none

def isInside (tag line : List Char) : Bool := trim line ≠ tag

/-- Reads the step that begins with a line. A heredoc goes on up to the first line that is its tag
when trimmed, a new table takes two lines, and any other line stands alone. -/
def read? (line : List Char) (rest : List (List Char)) :
    Option (SourceStep × List (List Char)) :=
  match tag? line with
  | some tag =>
    match rest.dropWhile (isInside tag) with
    | [] => none
    | _ :: further => some (.heredoc tag (rest.takeWhile (isInside tag)), further)
  | none =>
    if tableOpening.isPrefixOf line then
      match rest with
      | [] => none
      | closing :: further => some (.table line closing, further)
    else some (.single line, rest)

theorem length_le_of_read? (h : read? line rest = some (step, further)) :
    further.length ≤ rest.length := by
  unfold read? at h
  split at h
  · split at h
    · cases h
    · next tag _ _ _ _ hd =>
      cases h
      have hl : (rest.dropWhile (isInside tag)).length ≤ rest.length :=
        (List.dropWhile_sublist _).length_le
      rw [hd, List.length_cons] at hl
      omega
  · split at h
    · split at h <;> cases h
      simp
    · cases h
      exact Nat.le_refl _

/-- Reads lines as steps, to the last one. -/
def readAll : List (List Char) → Option (List SourceStep)
  | [] => some []
  | line :: rest =>
    match _h : read? line rest with
    | none => none
    | some (step, further) => (readAll further).map (step :: ·)
termination_by lines => lines.length
decreasing_by exact Nat.lt_succ_of_le (length_le_of_read? _h)

theorem readAll_cons (h : read? line rest = some (step, further)) :
    readAll (line :: rest) = (readAll further).map (step :: ·) := by
  rw [readAll]
  split
  · next hn => rw [h] at hn; cases hn
  · next hs =>
    rw [h] at hs
    cases hs
    rfl

def clearBlank (line : List Char) : List Char := if (trim line).isEmpty then [] else line

/-- What a step shows in the source: a statement that is run as it is, all its lines six spaces in,
or the lines of a helper. -/
def Shows (step : Step) : SourceStep → Prop
  | .heredoc _ body =>
    step.block.verbatim = true ∧
    (∀ line ∈ body, line ≠ [] → "      ".toList <+: line) ∧
    body.map (·.drop 6) =
      (Ruby.heredocBody step.operation.statement.text.toList).map clearBlank
  | .table opening closing =>
    step.block.verbatim = false ∧
    step.block.lines.map (fun l => "    ".toList ++ l.toList) = [opening, closing]
  | .single text =>
    step.block.verbatim = false ∧
    step.block.lines.map (fun l => "    ".toList ++ l.toList) = [text]

end SourceStep

def Block.sourceLines (block : Block) : List (List Char) :=
  block.lines.map fun l => (Artifact.indentLine l).toList

def indented (line : List Char) : List Char := if line = [] then [] else "    ".toList ++ line

theorem toList_indentLine (line : String) :
    (Artifact.indentLine line).toList = indented line.toList := by
  rw [Artifact.indentLine, indented]
  by_cases h : line = ""
  · simp [h]
  · have hl : line.toList ≠ [] := by simpa using h
    rw [if_neg h, if_neg hl, String.toList_append]

theorem trim_indented (line : List Char) : trim (indented line) = trim line := by
  rw [indented]
  split
  · next h => rw [h]
  · exact trim_blanks_append (by decide)

namespace SourceStep

theorem tag?_opening (tag : List Char) : tag? (heredocOpening ++ (tag ++ ['\''])) = some tag := by
  have hp : heredocOpening.isPrefixOf (heredocOpening ++ (tag ++ ['\''])) = true :=
    List.isPrefixOf_iff_prefix.2 (List.prefix_append ..)
  simp only [tag?, List.drop_left, hp]
  simp

theorem read?_heredoc (hb : ∀ l ∈ body, trim l ≠ tag) (hc : trim closing = tag) :
    read? (heredocOpening ++ (tag ++ ['\''])) (body ++ closing :: rest) =
      some (.heredoc tag body, rest) := by
  have hp : ∀ l ∈ body, isInside tag l = true := fun l hl => decide_eq_true (hb l hl)
  have hn : ¬ isInside tag closing = true := by simp [isInside, hc]
  unfold read?
  rw [tag?_opening]
  simp only
  rw [List.dropWhile_append_of_pos hp, List.dropWhile_cons_of_neg hn,
    List.takeWhile_append_of_pos hp, List.takeWhile_cons_of_neg hn, List.append_nil]

theorem read?_table (symbol : List Char) :
    read? (tableOpening ++ symbol) (closing :: rest) =
      some (.table (tableOpening ++ symbol) closing, rest) := by
  rw [read?]
  rfl

theorem read?_helper (hw : word ∈ helperWords) (arguments : List Char) :
    read? ("    ".toList ++ word.toList ++ arguments) rest =
      some (.single ("    ".toList ++ word.toList ++ arguments), rest) := by
  simp only [helperWords, List.mem_cons, List.not_mem_nil, or_false] at hw
  rcases hw with rfl | rfl | rfl | rfl | rfl <;> rfl

end SourceStep

theorem indented_heredocLine (line : List Char) :
    indented (Ruby.heredocLine line) =
      if (trim line).isEmpty then [] else "      ".toList ++ line := by
  rw [Ruby.heredocLine]
  split <;> rfl

namespace Statement

variable (statement : Statement)

def sourceBody : List (List Char) :=
  (Ruby.heredocBody statement.text.toList).map fun l => indented (Ruby.heredocLine l)

def sourceTag : List Char := Ruby.heredocTag (Ruby.heredocBody statement.text.toList)

theorem sourceLines_verbatimBlock :
    statement.verbatimBlock.sourceLines =
      (SourceStep.heredocOpening ++ (statement.sourceTag ++ ['\''])) ::
        (statement.sourceBody ++ [indented statement.sourceTag]) := by
  have ht (l : List Char) : (Artifact.indentLine (.ofList l)).toList = indented l := by
    rw [toList_indentLine, String.toList_ofList]
  simp only [Block.sourceLines, verbatimBlock, Ruby.executeBlock, List.map_map, List.map_cons,
    List.map_append, List.map_nil, Function.comp_def, ht, List.cons_append]
  rfl

theorem trim_sourceBody : ∀ l ∈ statement.sourceBody, trim l ≠ statement.sourceTag := by
  intro l hl
  obtain ⟨line, hm, rfl⟩ := List.mem_map.1 hl
  rw [trim_indented, Ruby.trim_heredocLine]
  exact Ruby.trim_ne_heredocTag hm

theorem trim_sourceTag : trim (indented statement.sourceTag) = statement.sourceTag := by
  rw [trim_indented, sourceTag, Ruby.trim_heredocTag]

theorem indent_sourceBody : ∀ l ∈ statement.sourceBody, l ≠ [] → "      ".toList <+: l := by
  intro l hl hn
  obtain ⟨line, -, rfl⟩ := List.mem_map.1 hl
  rw [indented_heredocLine] at hn ⊢
  split
  · next he => simp [he] at hn
  · exact List.prefix_append ..

theorem drop_sourceBody : statement.sourceBody.map (·.drop 6) =
    (Ruby.heredocBody statement.text.toList).map SourceStep.clearBlank := by
  rw [sourceBody, List.map_map]
  apply List.map_congr_left
  intro line _
  rw [Function.comp_apply, indented_heredocLine, SourceStep.clearBlank]
  split <;> rfl

theorem oneLine_sourceTag : OneLine statement.sourceTag := by
  obtain ⟨k, -, ht, -, -⟩ := Ruby.heredocTag_eq (Ruby.heredocBody statement.text.toList)
  rw [sourceTag, ht]
  exact Ruby.oneLine_tagWith k

theorem oneLine_sourceLines : ∀ l ∈ statement.verbatimBlock.sourceLines, OneLine l := by
  have htag := statement.oneLine_sourceTag
  rw [sourceLines_verbatimBlock]
  simp only [List.mem_cons, List.mem_append, List.not_mem_nil, or_false]
  rintro l (rfl | hl | rfl)
  · have ho : OneLine SourceStep.heredocOpening := by decide
    simp [ho, htag]
  · obtain ⟨line, hm, rfl⟩ := List.mem_map.1 hl
    have hi : OneLine "      ".toList := by decide
    rw [indented_heredocLine]
    split
    · exact oneLine_nil
    · exact oneLine_append.2 ⟨hi, Ruby.oneLine_of_mem_heredocBody hm⟩
  · have hi : OneLine "    ".toList := by decide
    rw [indented]
    split
    · exact oneLine_nil
    · exact oneLine_append.2 ⟨hi, htag⟩

end Statement

theorem Block.IsHelper.oneLine {block : Block} (h : block.IsHelper) :
    ∀ s ∈ block.lines, OneLine s.toList := by
  obtain ⟨symbol, hl, -, ho⟩ | ⟨word, arguments, hl, -, hw, ho⟩ := h
  · have hc : OneLine "create_table ".toList := by decide
    have hd : OneLine " do |t|".toList := by decide
    have he : OneLine "end".toList := by decide
    rw [hl]
    simp only [List.forall_mem_cons, toString, String.toList_append, oneLine_append]
    exact ⟨⟨⟨hc, ho⟩, hd⟩, he, by simp⟩
  · have hww : ∀ word ∈ helperWords, OneLine word.toList := by decide
    rw [hl]
    simp only [List.forall_mem_cons, String.toList_append, oneLine_append]
    exact ⟨⟨hww word hw, ho⟩, by simp⟩

theorem Block.IsHelper.sourceLines {block : Block} (h : block.IsHelper) :
    block.sourceLines = block.lines.map fun l => "    ".toList ++ l.toList := by
  have hn : ∀ l ∈ block.lines, l.toList ≠ [] := by
    obtain ⟨symbol, hl, -, -⟩ | ⟨word, arguments, hl, -, hw, -⟩ := h
    · simp [hl, toString]
    · have hw : word ≠ "" := by
        rintro rfl
        revert hw
        decide
      simp [hl, hw]
  apply List.map_congr_left
  intro l hl
  rw [toList_indentLine, indented, if_neg (hn l hl)]

namespace Step

variable {step : Step}

/-- Whether the block of a step is the one of its statement or of a helper. -/
def IsSound (step : Step) : Prop :=
  step.block = step.operation.statement.verbatimBlock ∨ step.block.IsHelper

theorem IsSound.readAll_append (h : step.IsSound) (rest : List (List Char)) :
    ∃ shown : SourceStep, shown.Shows step ∧
      SourceStep.readAll (step.block.sourceLines ++ rest) =
        (SourceStep.readAll rest).map (shown :: ·) := by
  rcases h with h | h
  · refine ⟨.heredoc step.operation.statement.sourceTag step.operation.statement.sourceBody,
      ⟨by rw [h]; rfl, Statement.indent_sourceBody _, Statement.drop_sourceBody _⟩, ?_⟩
    rw [h, Statement.sourceLines_verbatimBlock, List.cons_append, List.append_assoc]
    exact SourceStep.readAll_cons
      (SourceStep.read?_heredoc (Statement.trim_sourceBody _) (Statement.trim_sourceTag _))
  · have hs := h.sourceLines
    obtain ⟨symbol, hl, hv, -⟩ | ⟨word, arguments, hl, hv, hw, -⟩ := h
    · have hm : step.block.lines.map (fun l => "    ".toList ++ l.toList) =
          [SourceStep.tableOpening ++ (symbol.toList ++ " do |t|".toList), "    end".toList] := by
        simp only [hl, List.map_cons, List.map_nil, toString, String.toList_append,
          List.append_assoc]
        rfl
      rw [hs, hm]
      exact ⟨.table (SourceStep.tableOpening ++ (symbol.toList ++ " do |t|".toList))
        "    end".toList, ⟨hv, hm⟩, SourceStep.readAll_cons (SourceStep.read?_table _)⟩
    · have hm : step.block.lines.map (fun l => "    ".toList ++ l.toList) =
          ["    ".toList ++ word.toList ++ arguments.toList] := by
        simp [hl]
      rw [hs, hm]
      exact ⟨.single ("    ".toList ++ word.toList ++ arguments.toList), ⟨hv, hm⟩,
        SourceStep.readAll_cons (SourceStep.read?_helper hw _)⟩

theorem readAll_flatMap {steps : List Step} (h : ∀ step ∈ steps, step.IsSound) :
    ∃ shown, SourceStep.readAll (steps.flatMap (·.block.sourceLines)) = some shown ∧
      List.Forall₂ SourceStep.Shows steps shown := by
  induction steps with
  | nil => exact ⟨[], by rw [List.flatMap_nil, SourceStep.readAll], .nil⟩
  | cons step steps ih =>
    obtain ⟨shown, hr, hs⟩ := ih fun s hs => h s (by simp [hs])
    obtain ⟨first, hf, hr'⟩ := (h step (by simp)).readAll_append
      (steps.flatMap (·.block.sourceLines))
    exact ⟨first :: shown, by rw [List.flatMap_cons, hr', hr]; rfl, .cons hf hs⟩

theorem IsSound.oneLine (h : step.IsSound) : ∀ l ∈ step.block.sourceLines, OneLine l := by
  rcases h with h | h
  · rw [h]
    exact step.operation.statement.oneLine_sourceLines
  · have hi : OneLine "    ".toList := by decide
    rw [h.sourceLines]
    intro l hl
    obtain ⟨s, hs, rfl⟩ := List.mem_map.1 hl
    exact oneLine_append.2 ⟨hi, h.oneLine s hs⟩

end Step

theorem isSound_of_mem_compiled {mapping : TypeMapping} (hm : mapping.OneLine)
    (hs : step ∈ (compiled mapping frameworkVersion statements name).value.steps) :
    step.IsSound := by
  obtain ⟨o, ho, rfl⟩ := List.mem_map.1 hs
  obtain ⟨statement, -, rfl⟩ := List.mem_map.1 ho
  exact Operation.rendered_cases hm statement.oneLine_names

namespace Artifact

theorem toList_sourceLines (className : String) (body : List Block) (frameworkVersion : String) :
    (sourceLines className body frameworkVersion).map String.toList =
      (header className frameworkVersion).map String.toList ++ body.flatMap Block.sourceLines ++
        closing.map String.toList := by
  simp only [sourceLines, List.map_append, List.map_flatMap, List.map_map]
  rfl

theorem oneLine_header {className frameworkVersion : String} (hc : OneLine className.toList)
    (hv : OneLine frameworkVersion.toList) :
    ∀ l ∈ (header className frameworkVersion).map String.toList, OneLine l := by
  have h1 : OneLine "class ".toList := by decide
  have h2 : OneLine " < ActiveRecord::Migration[".toList := by decide
  have h3 : OneLine "]".toList := by decide
  have h4 : OneLine "  def up".toList := by decide
  simp only [header, List.map_cons, List.map_nil, List.forall_mem_cons, toString,
    String.toList_append, oneLine_append]
  exact ⟨⟨⟨⟨⟨h1, hc⟩, h2⟩, hv⟩, h3⟩, h4, by simp⟩

theorem splitOn_source {className frameworkVersion : String} {body : List Block}
    (hc : OneLine className.toList) (hv : OneLine frameworkVersion.toList)
    (hb : ∀ b ∈ body, ∀ l ∈ b.sourceLines, OneLine l) :
    splitOn '\n' (source className body frameworkVersion).toList =
      (header className frameworkVersion).map String.toList ++ body.flatMap Block.sourceLines ++
        closing.map String.toList ++ [[]] := by
  have hl : ∀ l ∈ (sourceLines className body frameworkVersion).map String.toList, OneLine l := by
    rw [toList_sourceLines]
    simp only [List.mem_append, List.mem_flatMap]
    rintro l ((hl | ⟨b, hm, hl⟩) | hl)
    · exact oneLine_header hc hv l hl
    · exact hb b hm l hl
    · revert l
      decide
  have hn : (sourceLines className body frameworkVersion).map String.toList ≠ [] := by
    simp [sourceLines, header]
  rw [source, String.toList_append, String.toList_intercalate]
  rw [← toList_sourceLines]
  exact splitOn_closed hl hn

end Artifact

/-- The source of a migration is read back as one step for each statement, whatever their texts. -/
theorem Pipeline.compile_readAll (pipeline : Pipeline) (statements : List Statement)
    (name : Option String) (w : Workspace) (hm : pipeline.mapping = .standard)
    (hv : '\n' ∉ (Settings.shown pipeline.settings.frameworkVersion).toList)
    (hs : statements ≠ []) :
    ∃ compilation w' artifact between shown,
      (pipeline.compile statements name).run.run w = (.ok compilation, w') ∧
      compilation.artifact = some artifact ∧
      compilation.steps.map (·.operation.statement) = statements ∧
      splitOn '\n' artifact.content.toList =
        (Artifact.header artifact.className artifact.frameworkVersion).map String.toList ++
          between ++ Artifact.closing.map String.toList ++ [[]] ∧
      SourceStep.readAll between = some shown ∧
      List.Forall₂ SourceStep.Shows compilation.steps shown := by
  let version := Settings.shown pipeline.settings.frameworkVersion
  have hr := run_compile pipeline.mapping version statements name
  have ho : pipeline.mapping.OneLine := hm ▸ TypeMapping.standard_oneLine
  have hsound : ∀ step ∈ (compiled pipeline.mapping version statements name).value.steps,
      step.IsSound := fun step => isSound_of_mem_compiled ho
  obtain ⟨shown, hread, hshown⟩ := Step.readAll_flatMap hsound
  let body := (compiled pipeline.mapping version statements name).value.steps.map (·.block)
  let artifact := Artifact.ofBody body
    (Artifact.nameOrDefault (some (Artifact.nameOrDefault name))) version
  have ha : (compiled pipeline.mapping version statements name).value.artifact = some artifact := by
    have hn : body ≠ [] := by simpa [body, compiled] using hs
    exact (Artifact.value_assemble body _ _).trans (if_neg hn)
  have hb : ∀ b ∈ body, ∀ l ∈ b.sourceLines, OneLine l := by
    intro b hb
    obtain ⟨step, hm, rfl⟩ := List.mem_map.1 hb
    exact (hsound step hm).oneLine
  refine ⟨_, _, artifact, body.flatMap Block.sourceLines, shown, Session.run_ofRendering hr w, ha,
    statements_compiled .., ?_, ?_, hshown⟩
  · exact Artifact.splitOn_source (Slug.oneLine_className _) hv hb
  · rw [← hread]
    exact congrArg SourceStep.readAll (List.flatMap_map ..)

/-- A statement whose lines look like tags and openings of heredocs, a table, and no text. -/
def hostileStatements : List Statement :=
  Statement.number 0 [
    "SQL\n  SQL_ \n\t\nexecute <<~'SQL'\nend", "CREATE TABLE users (id integer)", ""]

theorem hostileStatements_readAll : ∃ compilation w artifact between tag body rest,
    (standardPipeline.compile hostileStatements none).run.run emptyWorkspace =
      (.ok compilation, w) ∧
    compilation.artifact = some artifact ∧
    splitOn '\n' artifact.content.toList =
      (Artifact.header artifact.className artifact.frameworkVersion).map String.toList ++
        between ++ Artifact.closing.map String.toList ++ [[]] ∧
    SourceStep.readAll between = some (.heredoc tag body :: rest) ∧
    body.map (·.drop 6) =
      ["SQL", "  SQL_ ", "", "execute <<~'SQL'", "end"].map String.toList ∧
    rest.length = 2 := by
  obtain ⟨compilation, w, artifact, between, shown, hr, ha, hs, hc, hread, hshown⟩ :=
    standardPipeline.compile_readAll hostileStatements none emptyWorkspace rfl (by decide)
      (by decide)
  have hv : compilation.steps.map (·.block.verbatim) = [true, false, true] := by
    have hc := Session.run_ofRendering (run_compile .standard "8.0" hostileStatements none)
      emptyWorkspace
    obtain rfl : (compiled .standard "8.0" hostileStatements none).value = compilation :=
      Except.ok.inj (congrArg Prod.fst (hc.symm.trans hr))
    decide +kernel
  obtain ⟨first, steps, hsteps⟩ : ∃ first steps, compilation.steps = first :: steps := by
    cases h : compilation.steps with
    | nil => simp [h] at hv
    | cons first steps => exact ⟨first, steps, rfl⟩
  rw [hsteps] at hs hv hshown
  simp only [List.map_cons] at hs hv
  obtain ⟨hfirst, hsteps⟩ := List.cons.inj hv
  obtain ⟨hstatement, -⟩ := List.cons.inj hs
  obtain ⟨shown, rest, hshow, hrest, rfl⟩ := List.forall₂_cons_left_iff.1 hshown
  have hl : rest.length = 2 := by
    rw [← hrest.length_eq]
    simpa using congrArg List.length hsteps
  cases shown with
  | heredoc tag body =>
    refine ⟨_, _, _, _, tag, body, rest, hr, ha, hc, hread, ?_, hl⟩
    rw [hshow.2.2, hstatement]
    decide +kernel
  | table opening closing =>
    rw [hshow.1] at hfirst
    cases hfirst
  | single text =>
    rw [hshow.1] at hfirst
    cases hfirst

end SchemaPlan
