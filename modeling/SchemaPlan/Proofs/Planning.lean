import SchemaPlan.Proofs.Migration.Source
import SchemaPlan.Proofs.Pipeline
import SchemaPlan.Proofs.Plan

namespace SchemaPlan

open Session Text

namespace Text

theorem Unbroken.append (hs : Unbroken s) (ht : Unbroken t) : Unbroken (s ++ t) := by
  intro c hc
  exact (List.mem_append.1 hc).elim (hs c) (ht c)

theorem lines_of_unbroken (h : Unbroken s) (hn : s ≠ []) : lines s = [s] := by
  fun_induction lines s with
  | case1 => exact absurd rfl hn
  | case2 rest ih =>
    have hr : isLineBreak '\r' = true := by decide
    rw [h '\r' (by simp)] at hr
    cases hr
  | case3 c rest _ hb ih =>
    rw [h c (by simp)] at hb
    cases hb
  | case4 c rest _ hb hs ih =>
    cases rest with
    | nil => rfl
    | cons d rest =>
      have hl := ih (fun e he => h e (by simp [he])) (List.cons_ne_nil _ _)
      rw [hs] at hl
      cases hl
  | case5 c rest _ hb line more hs ih =>
    have hrest : rest ≠ [] := by
      rintro rfl
      cases hs
    have hl := ih (fun e he => h e (by simp [he])) hrest
    rw [hs] at hl
    obtain ⟨rfl, rfl⟩ := List.cons.inj hl
    rfl

/-- A text up to its last separator. -/
def closedLines (s : List Char) : List Char := s.rdropWhile (!isLineBreak ·)

/-- The end of a text, which no separator closes. -/
def openLine (s : List Char) : List Char := s.rtakeWhile (!isLineBreak ·)

def firstLine (s : List Char) : List Char := s.takeWhile (!isLineBreak ·)

def laterLines (s : List Char) : List Char := s.dropWhile (!isLineBreak ·)

theorem unbroken_openLine (s : List Char) : Unbroken (openLine s) := by
  intro c hc
  rw [openLine, List.rtakeWhile, List.mem_reverse] at hc
  simpa using List.mem_takeWhile_imp hc

theorem unbroken_firstLine (s : List Char) : Unbroken (firstLine s) := by
  intro c hc
  simpa using List.mem_takeWhile_imp hc

theorem closedLines_append_openLine (s : List Char) : closedLines s ++ openLine s = s :=
  List.rdropWhile_append_rtakeWhile

theorem firstLine_append_laterLines (s : List Char) : firstLine s ++ laterLines s = s :=
  List.takeWhile_append_dropWhile

theorem closedLines_cases (s : List Char) :
    closedLines s = [] ∨ ∃ before c, isLineBreak c = true ∧ closedLines s = before ++ [c] := by
  rcases List.eq_nil_or_concat (closedLines s) with hn | ⟨before, c, hc⟩
  · exact .inl hn
  · have hne : closedLines s ≠ [] := by simp [hc]
    have hl : (closedLines s).getLast hne = c := by simp [hc]
    have hb : ¬ (!isLineBreak ((closedLines s).getLast hne)) = true :=
      List.rdropWhile_last_not (!isLineBreak ·) s hne
    rw [hl] at hb
    exact .inr ⟨before, c, by simpa using hb, by simpa using hc⟩

theorem laterLines_cases (s : List Char) :
    laterLines s = [] ∨ ∃ c after, isLineBreak c = true ∧ laterLines s = c :: after := by
  cases hs : laterLines s with
  | nil => exact .inl rfl
  | cons c after =>
    have hh : (laterLines s).head? = some c := by rw [hs, List.head?_cons]
    have hc := stops_dropWhile (!isLineBreak ·) s c hh
    exact .inr ⟨c, after, by simpa using hc, rfl⟩

end Text

namespace Plan

theorem planned_nil : planned [] = [] := rfl

theorem planned_closedLines (s t : List Char) :
    planned (s ++ t) = planned (closedLines s) ++ planned (openLine s ++ t) := by
  conv_lhs => rw [← closedLines_append_openLine s, List.append_assoc]
  rcases closedLines_cases s with hn | ⟨before, c, hc, hs⟩
  · rw [hn, planned_nil]
    rfl
  · rw [hs, List.append_assoc, List.singleton_append, planned_append hc, planned_append hc,
      planned_nil, List.append_nil]

theorem planned_laterLines (s t : List Char) :
    planned (s ++ t) = planned (s ++ firstLine t) ++ planned (laterLines t) := by
  conv_lhs => rw [← firstLine_append_laterLines t, ← List.append_assoc]
  rcases laterLines_cases t with hn | ⟨c, after, hc, ht⟩
  · rw [hn, planned_nil, List.append_nil, List.append_nil]
  · have hafter : planned (c :: after) = planned after := planned_append hc [] after
    rw [ht, planned_append hc, hafter]

theorem planned_seam (s t : List Char) :
    planned (s ++ t) = planned (closedLines s) ++
      ((carried? (openLine s ++ firstLine t)).toList ++ planned (laterLines t)) := by
  rw [planned_closedLines, planned_laterLines,
    planned_of_unbroken ((unbroken_openLine s).append (unbroken_firstLine t))]

theorem planned_of_unmarked (h : ∀ line ∈ lines s, ¬ marker <+: trim line) : planned s = [] := by
  apply List.filterMap_eq_nil_iff.2
  intro line hl
  rw [carried?, marked?_of_unmarked (h line hl)]
  rfl

theorem carried?_firstLine (h : ∀ line ∈ lines t, ¬ marker <+: trim line) :
    carried? (firstLine t) = none ∧ planned (laterLines t) = [] := by
  have ht := planned_seam [] t
  rw [List.nil_append, planned_of_unmarked h] at ht
  obtain ⟨-, ht⟩ := List.append_eq_nil_iff.1 ht.symm
  obtain ⟨hf, hl⟩ := List.append_eq_nil_iff.1 ht
  exact ⟨Option.toList_eq_nil_iff.1 hf, hl⟩

theorem value_statements_inj {s t : String} :
    (statements s).value = (statements t).value ↔ planned s.toList = planned t.toList := by
  constructor
  · intro h
    rw [← texts_statements, ← texts_statements, h]
  · intro h
    rw [value_statements, value_statements, h]

theorem statements_marked {s : String} (ht : trim s.toList = s.toList)
    (hk : ∃ k ∈ keywords, k <:+: upper s.toList) :
    (statements ("-> " ++ s ++ "\n")).value = [⟨1, s, Nat.one_pos⟩] ↔ Unbroken s.toList := by
  constructor
  · intro h
    have hs : s.toList ∈ planned ("-> " ++ s ++ "\n").toList := by
      rw [← texts_statements, h]
      exact List.mem_singleton_self _
    exact (isPlanText_of_mem_planned hs).unbroken
  · intro hu
    have hn : s.toList ≠ [] := by
      intro hn
      rw [hn] at hk
      revert hk
      decide
    have hplan : planned (printed [⟨1, s, Nat.one_pos⟩]).toList = [s.toList] :=
      planned_printed (by simpa using (⟨hn, ht, hu, hk⟩ : IsPlanText s.toList))
    have hout : "-> " ++ s ++ "\n" = printed [⟨1, s, Nat.one_pos⟩] := by
      simp [printed, String.join]
    rw [hout, value_statements, hplan, List.map_singleton, String.ofList_toList]
    rfl

end Plan

namespace Statement

variable {statement : Statement}

theorem sourceTag_of_isPlanText (h : Plan.IsPlanText statement.text.toList) :
    statement.sourceTag = Ruby.tagWith 0 := by
  rw [sourceTag, Ruby.heredocBody, lines_of_unbroken h.unbroken h.nonempty]
  obtain ⟨k, -, ht, -, hj⟩ := Ruby.heredocTag_eq [statement.text.toList]
  cases k with
  | zero => exact ht
  | succ k =>
    obtain ⟨line, hm, hl⟩ := hj 0 (Nat.succ_pos k)
    rw [List.mem_singleton.1 hm, h.trimmed] at hl
    have hn : ¬ ∃ k ∈ Plan.keywords, k <:+: upper (Ruby.tagWith 0) := by decide
    exact absurd (hl ▸ h.keyword) hn

theorem sourceLines_of_isPlanText (statement : Statement)
    (h : Plan.IsPlanText statement.text.toList) :
    statement.verbatimBlock.sourceLines =
      ["    execute <<~'SQL'".toList, "      ".toList ++ statement.text.toList,
        "    SQL".toList] := by
  have hb : Ruby.heredocBody statement.text.toList = [statement.text.toList] := by
    rw [Ruby.heredocBody, lines_of_unbroken h.unbroken h.nonempty]
  have hn : ¬ statement.text.toList.isEmpty = true := by simpa using h.nonempty
  rw [sourceLines_verbatimBlock, sourceTag_of_isPlanText h, sourceBody, hb, List.map_singleton,
    indented_heredocLine, h.trimmed, if_neg hn]
  rfl

end Statement

namespace Artifact

theorem splitOn_source_flatMap (className : String) (body : List Block)
    (frameworkVersion : String) :
    splitOn '\n' (source className body frameworkVersion).toList =
      ((header className frameworkVersion).map String.toList).flatMap (splitOn '\n') ++
        (body.flatMap Block.sourceLines).flatMap (splitOn '\n') ++
        closing.map String.toList ++ [[]] := by
  have hn : (sourceLines className body frameworkVersion).map String.toList ≠ [] := by
    simp [sourceLines, header]
  have hc : ∀ l ∈ closing.map String.toList, OneLine l := by decide
  rw [source, String.toList_append, String.toList_intercalate]
  refine (splitOn_flatMap _ hn).trans ?_
  rw [toList_sourceLines, List.flatMap_append, List.flatMap_append, flatMap_splitOn hc]

end Artifact

namespace Pipeline

variable {pipeline : Pipeline} {command environment : String} {w : Workspace}

/-- What a dry run that succeeds prints as errors, without a marked line, leaves the plan of its
output as it is if the output ends with a separator, or the errors begin with one, or either is
empty. In any case it leaves the statements of all closed lines, and changes the plan exactly if its
first line makes another statement of the open line of the output. -/
theorem plan_with_diagnostics (hc : pipeline.atlas.command = some command)
    (he : pipeline.settings.environment = some environment)
    (ho : w.outcome = .finished output errors 0)
    (hm : ∀ line ∈ lines (errors.getD "").toList, ¬ Plan.marker <+: trim line) :
    ∃ statements w', pipeline.plan.run.run w = (.ok statements, w') ∧
      statements.map (·.text.toList) = Plan.planned (closedLines (output.getD "").toList) ++
        (Plan.carried? (openLine (output.getD "").toList ++
          firstLine (errors.getD "").toList)).toList ∧
      (statements = (Plan.statements (output.getD "")).value ↔
        Plan.carried? (openLine (output.getD "").toList ++ firstLine (errors.getD "").toList) =
          Plan.carried? (openLine (output.getD "").toList)) ∧
      (openLine (output.getD "").toList = [] ∨ firstLine (errors.getD "").toList = [] →
        statements = (Plan.statements (output.getD "")).value) := by
  obtain ⟨w', hrun⟩ := run_plan (run_dryRun hc he ho) rfl
  generalize output.getD "" = o at hrun ⊢
  generalize errors.getD "" = e at hm hrun ⊢
  obtain ⟨hfirst, hlater⟩ := Plan.carried?_firstLine hm
  have hboth : Plan.planned (o ++ e).toList = Plan.planned (closedLines o.toList) ++
      (Plan.carried? (openLine o.toList ++ firstLine e.toList)).toList := by
    rw [String.toList_append, Plan.planned_seam, hlater, List.append_nil]
  have halone : Plan.planned o.toList = Plan.planned (closedLines o.toList) ++
      (Plan.carried? (openLine o.toList)).toList := by
    have hseam := Plan.planned_seam o.toList []
    rwa [List.append_nil, firstLine, laterLines, List.takeWhile_nil, List.dropWhile_nil,
      Plan.planned_nil, List.append_nil, List.append_nil] at hseam
  have hiff : (Plan.statements (o ++ e)).value = (Plan.statements o).value ↔
      Plan.carried? (openLine o.toList ++ firstLine e.toList) =
        Plan.carried? (openLine o.toList) := by
    rw [Plan.value_statements_inj, hboth, halone, List.append_cancel_left_eq]
    exact ⟨fun h => by simpa using congrArg List.head? h, congrArg Option.toList⟩
  refine ⟨_, w', hrun, ?_, hiff, ?_⟩
  · rw [Plan.texts_statements, hboth]
  · rintro (hn | hn)
    · rw [hiff, hn, List.nil_append, hfirst]
      rfl
    · rw [hiff, hn, List.append_nil]

/-- A dry run with an open line at the end of its output, and a warning behind it. -/
def warningWorkspace : Workspace :=
  { emptyWorkspace with
    outcomes :=
      [.finished (some "-> CREATE TABLE notes (id integer)\nDone") (some "Warning: slow") 0] }

theorem warningWorkspace_plan : ∃ statements w',
    (∀ line ∈ lines "Warning: slow".toList, ¬ Plan.marker <+: trim line) ∧
    standardPipeline.plan.run.run warningWorkspace = (.ok statements, w') ∧
    statements.map (·.text) = ["CREATE TABLE notes (id integer)"] := by
  have hm : ∀ line ∈ lines "Warning: slow".toList, ¬ Plan.marker <+: trim line := by decide +kernel
  have hseam : Plan.carried? (openLine "-> CREATE TABLE notes (id integer)\nDone".toList ++
      firstLine "Warning: slow".toList) =
      Plan.carried? (openLine "-> CREATE TABLE notes (id integer)\nDone".toList) := by
    decide +kernel
  have ho : warningWorkspace.outcome = .finished
    (some "-> CREATE TABLE notes (id integer)\nDone") (some "Warning: slow") 0 := rfl
  have hc : standardPipeline.atlas.command = some "atlas" := rfl
  have he : standardPipeline.settings.environment = some "dev" := rfl
  obtain ⟨statements, w', hrun, -, hiff, -⟩ := standardPipeline.plan_with_diagnostics hc he ho hm
  rw [hiff.2 hseam] at hrun
  exact ⟨_, w', hm, hrun, by decide +kernel⟩

/-- A dry run whose output ends without a line feed, with a warning behind it. -/
def gluedWorkspace : Workspace :=
  { emptyWorkspace with
    outcomes := [.finished (some "-> DROP TABLE users") (some "Warning: no lock file\n") 0] }

theorem gluedWorkspace_plan :
    (∀ line ∈ lines "Warning: no lock file\n".toList, ¬ Plan.marker <+: trim line) ∧
    (standardPipeline.plan.run.run gluedWorkspace).1.toOption =
      some [⟨1, "DROP TABLE usersWarning: no lock file", Nat.one_pos⟩] ∧
    (Plan.statements "-> DROP TABLE users").value = [⟨1, "DROP TABLE users", Nat.one_pos⟩] := by
  decide +kernel

theorem artifact_of_unclassified (pipeline : Pipeline) {statement : Statement}
    (name : Option String)
    (hu : statement.classify.value.change = .unclassified) :
    ∃ name', (pipeline.compiled [statement] name).value.artifact =
      some (.ofBody [statement.verbatimBlock] name'
        (Settings.shown pipeline.settings.frameworkVersion)) := by
  have hb : statement.classify.value.rendered pipeline.mapping = statement.verbatimBlock := by
    rw [Operation.rendered, hu, statement.statement_classify]
  rw [← hb]
  exact ⟨_, (Artifact.value_assemble ..).trans (if_neg (List.cons_ne_nil _ _))⟩

/-- A trimmed statement in no known form that mentions a keyword is planned as it is exactly if no
separator stands in it. Then the source of its migration has it on a line of its own. -/
theorem raw_statement_kept {s : String} (name : Option String)
    (hd : ((pipeline.atlas.dryRun pipeline.settings.environment).run.run w).1 =
      .ok ⟨"-> " ++ s ++ "\n", 0⟩)
    (ht : trimmed s = s) (hk : ∃ k ∈ Plan.keywords, k <:+: upper s.toList)
    (hu : (⟨1, s, Nat.one_pos⟩ : Statement).classify.value.change = .unclassified) :
    ∃ statements u, pipeline.plan.run.run w = (.ok statements, u) ∧
      (statements = [⟨1, s, Nat.one_pos⟩] ↔ Unbroken s.toList) ∧
      (Unbroken s.toList → ∃ compilation u' artifact before after,
        (pipeline.compile statements name).run.run u = (.ok compilation, u') ∧
        compilation.artifact = some artifact ∧
        splitOn '\n' artifact.content.toList =
          before ++ ["    execute <<~'SQL'".toList, "      ".toList ++ s.toList,
            "    SQL".toList] ++ after) := by
  obtain ⟨u, hrun⟩ := run_plan hd rfl
  have htrim : trim s.toList = s.toList := by
    have ht := congrArg String.toList ht
    rwa [trimmed, String.toList_ofList] at ht
  have hiff := Plan.statements_marked htrim hk
  refine ⟨_, u, hrun, hiff, fun hs => ?_⟩
  have hplan := hiff.2 hs
  have htext : Plan.IsPlanText s.toList :=
    Plan.isPlanText_of_mem_planned (s := ("-> " ++ s ++ "\n").toList)
      (by rw [← Plan.texts_statements, hplan]; exact List.mem_singleton_self _)
  obtain ⟨name', ha⟩ := pipeline.artifact_of_unclassified name hu
  have hlines := Statement.sourceLines_of_isPlanText ⟨1, s, Nat.one_pos⟩ htext
  have hsplit := Artifact.splitOn_source_flatMap (Slug.className name').value
    [Statement.verbatimBlock ⟨1, s, Nat.one_pos⟩]
    (Settings.shown pipeline.settings.frameworkVersion)
  rw [List.flatMap_singleton, flatMap_splitOn (Statement.oneLine_sourceLines _), hlines,
    List.append_assoc] at hsplit
  rw [hplan]
  exact ⟨_, _, _, _, _, pipeline.run_compile .., ha, hsplit⟩

def checkText : String := "ALTER TABLE users ADD CHECK (age > 0)"

def checkWorkspace : Workspace :=
  { emptyWorkspace with outcomes := [.finished (some ("-> " ++ checkText ++ "\n")) none 0] }

theorem checkText_kept : ∃ u compilation u' artifact before after,
    standardPipeline.plan.run.run checkWorkspace = (.ok [⟨1, checkText, Nat.one_pos⟩], u) ∧
    (standardPipeline.compile [⟨1, checkText, Nat.one_pos⟩] none).run.run u =
      (.ok compilation, u') ∧
    compilation.artifact = some artifact ∧
    splitOn '\n' artifact.content.toList =
      before ++ ["    execute <<~'SQL'".toList,
        "      ALTER TABLE users ADD CHECK (age > 0)".toList, "    SQL".toList] ++ after := by
  have hd : ((standardPipeline.atlas.dryRun standardPipeline.settings.environment).run.run
      checkWorkspace).1 = .ok ⟨"-> " ++ checkText ++ "\n", 0⟩ := rfl
  have hs : Unbroken checkText.toList := by decide +kernel
  obtain ⟨statements, u, hplan, hiff, hkept⟩ := standardPipeline.raw_statement_kept none hd
    (by decide +kernel) (by decide +kernel) (by decide +kernel)
  obtain ⟨compilation, u', artifact, before, after, hrun, ha, hsplit⟩ := hkept hs
  rw [hiff.2 hs] at hplan hrun
  exact ⟨u, compilation, u', artifact, before, after, hplan, hrun, ha, hsplit⟩

/-- A statement in no known form with a separator in it that is no line feed. -/
def brokenText : String := "ALTER TABLE notes COMMENT 'one\u2028two'"

theorem brokenText_cut :
    '\n' ∉ brokenText.toList ∧ '\r' ∉ brokenText.toList ∧ trimmed brokenText = brokenText ∧
    (∃ k ∈ Plan.keywords, k <:+: upper brokenText.toList) ∧
    (⟨1, brokenText, Nat.one_pos⟩ : Statement).classify.value.change = .unclassified ∧
    (standardPipeline.plan.run.run { emptyWorkspace with
      outcomes := [.finished (some ("-> " ++ brokenText ++ "\n")) none 0] }).1.toOption =
      some [⟨1, "ALTER TABLE notes COMMENT 'one", Nat.one_pos⟩] := by
  decide +kernel

end Pipeline

end SchemaPlan
