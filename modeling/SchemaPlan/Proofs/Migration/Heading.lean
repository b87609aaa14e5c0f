import SchemaPlan.Proofs.Planning

namespace SchemaPlan
open Text

/-- Two runs of digits around a point, and perhaps a line feed. -/
structure Settings.Version where
  major : List Char
  minor : List Char
  ending : List Char
  majorNonempty : major ≠ []
  minorNonempty : minor ≠ []
  majorDigits : ∀ c ∈ major, isDecimal c = true
  minorDigits : ∀ c ∈ minor, isDecimal c = true
  ends : ending = [] ∨ ending = ['\n']

def Settings.Version.text (version : Version) : List Char :=
  version.major ++ '.' :: (version.minor ++ version.ending)

namespace Settings

variable {settings : Settings}

theorem exists_version (h : isVersion s = true) : ∃ version : Version, version.text = s := by
  rw [isVersion] at h
  split at h
  · next rest hr =>
    simp only [Bool.and_eq_true, Bool.not_eq_true', List.isEmpty_eq_false_iff, Bool.or_eq_true,
      decide_eq_true_eq] at h
    obtain ⟨⟨hm, hn⟩, he⟩ := h
    refine ⟨⟨s.takeWhile isDecimal, rest.takeWhile isDecimal, rest.dropWhile isDecimal, hm, hn,
      fun _ => List.mem_takeWhile_imp, fun _ => List.mem_takeWhile_imp, he⟩, ?_⟩
    rw [Version.text, List.takeWhile_append_dropWhile, ← hr, List.takeWhile_append_dropWhile]
  · cases h

theorem isVersion_of_problems (h : settings.problems tree directory = .ok []) :
    isVersion (settings.frameworkVersion.getD "").toList = true := by
  have of_nil {found : Bool} (h : settings.problemsWith found = []) :
      isVersion (settings.frameworkVersion.getD "").toList = true := by
    simp only [problemsWith, List.append_eq_nil_iff] at h
    obtain ⟨⟨-, hv⟩, -⟩ := h
    by_contra hn
    rw [if_neg hn] at hv
    cases hv
  rw [problems] at h
  split at h
  · exact of_nil (Except.ok.inj h)
  · next path _ =>
    cases hf : tree.isFile directory (.ofString path) with
    | error fault =>
      rw [hf] at h
      cases h
    | ok found =>
      rw [hf] at h
      exact of_nil (Except.ok.inj h)

theorem exists_frameworkVersion (h : settings.problems tree directory = .ok []) :
    ∃ version : Version, settings.frameworkVersion = some (.ofList version.text) := by
  have hv := isVersion_of_problems h
  cases hs : settings.frameworkVersion with
  | none =>
    rw [hs] at hv
    cases hv
  | some text =>
    rw [hs] at hv
    obtain ⟨v, ht⟩ := exists_version hv
    exact ⟨v, by rw [ht, Option.getD_some, String.ofList_toList]⟩

end Settings

def classOpening (className : String) : String :=
  "class " ++ className ++ " < ActiveRecord::Migration["

/-- The lines of a source begin with that of its class, with a version of ASCII digits, and that of
the method. -/
def HasHeading (className content : String) : Prop :=
  ∃ (major minor : List Char) (rest : List (List Char)), major ≠ [] ∧ minor ≠ [] ∧ rest ≠ [] ∧
    (∀ c ∈ major ++ minor, c.isDigit = true) ∧
    splitOn '\n' content.toList =
      ((classOpening className).toList ++ (major ++ '.' :: (minor ++ [']']))) ::
        "  def up".toList :: rest

theorem oneLine_classOpening {className : String} (h : OneLine className.toList) :
    OneLine (classOpening className).toList := by
  have hc : OneLine "class ".toList := by decide
  have hb : OneLine " < ActiveRecord::Migration[".toList := by decide
  rw [classOpening, String.toList_append, String.toList_append, oneLine_append, oneLine_append]
  exact ⟨⟨hc, h⟩, hb⟩

namespace Settings.Version

variable (version : Version)

def headLine (className : String) : List Char :=
  (classOpening className).toList ++ (version.major ++ '.' :: version.minor)

/-- The class line, which a line feed behind the version breaks in two. -/
def classLines (className : String) : List (List Char) :=
  if version.ending = [] then [version.headLine className ++ [']']]
  else [version.headLine className, [']']]

theorem oneLine_headLine {className : String} (h : OneLine className.toList) :
    OneLine (version.headLine className) := by
  have oneLine {ds : List Char} (h : ∀ c ∈ ds, isDecimal c = true) : OneLine ds := fun hm =>
    absurd (h _ hm) (by decide)
  rw [headLine, oneLine_append, oneLine_append, oneLine_cons]
  exact ⟨oneLine_classOpening h, oneLine version.majorDigits, by decide,
    oneLine version.minorDigits⟩

theorem splitOn_classLine {className : String} (h : OneLine className.toList) :
    splitOn '\n' ((classOpening className).toList ++ (version.text ++ [']'])) =
      version.classLines className := by
  have hl := version.oneLine_headLine h
  have hs : (classOpening className).toList ++ (version.text ++ [']']) =
      version.headLine className ++ (version.ending ++ [']']) := by
    simp only [headLine, text, List.append_assoc, List.cons_append]
  rw [hs, classLines]
  rcases version.ends with he | he
  · rw [if_pos he, he]
    exact splitOn_oneLine (oneLine_append.2 ⟨hl, by decide⟩)
  · rw [if_neg (by simp [he]), he]
    exact (splitOn_append ..).trans (congrArg (· ++ _) (splitOn_oneLine hl))

theorem plain_iff : (∀ c ∈ version.text, c.isDigit = true ∨ c = '.') ↔
    version.ending = [] ∧ ∀ c ∈ version.major ++ version.minor, c.isDigit = true := by
  have hdecimal : ∀ c ∈ version.major ++ version.minor, isDecimal c = true := by
    intro c hc
    exact (List.mem_append.1 hc).elim (version.majorDigits c) (version.minorDigits c)
  constructor
  · intro h
    constructor
    · apply version.ends.resolve_right
      intro he
      have hl := h '\n' (by simp [text, he])
      exact absurd hl (by decide)
    · intro c hc
      have ht : c ∈ version.text := by
        rcases List.mem_append.1 hc with hc | hc <;> simp [text, hc]
      apply (h c ht).resolve_right
      rintro rfl
      exact absurd (hdecimal '.' hc) (by decide)
  · rintro ⟨he, hd⟩ c hc
    rw [text, he, List.append_nil, List.mem_append, List.mem_cons] at hc
    rcases hc with hc | rfl | hc
    · exact .inl (hd c (List.mem_append_left _ hc))
    · exact .inr rfl
    · exact .inl (hd c (List.mem_append_right _ hc))

theorem hasHeading_iff {className content : String} {rest : List (List Char)} (hr : rest ≠ [])
    (h : splitOn '\n' content.toList =
      version.classLines className ++ "  def up".toList :: rest) :
    HasHeading className content ↔ ∀ c ∈ version.text, c.isDigit = true ∨ c = '.' := by
  rw [version.plain_iff]
  constructor
  · rintro ⟨major, minor, rest', -, -, -, hd, hl⟩
    rw [h, classLines] at hl
    split at hl
    · next he =>
      refine ⟨he, ?_⟩
      have hf := (List.cons.inj hl).1
      rw [headLine, List.append_assoc, List.append_cancel_left_eq, List.append_assoc,
        List.cons_append] at hf
      have hdecimal : ∀ c ∈ major, isDecimal c = true := fun c hc =>
        Numeral.isDecimal_of_isDigit (hd c (List.mem_append_left _ hc))
      have hp (u : List Char) : Stops isDecimal ('.' :: u) := stops_cons_iff.2 (by decide)
      obtain ⟨hm, hn⟩ := run_append_inj hf version.majorDigits hdecimal (hp _) (hp _)
      have hn := List.append_cancel_right (List.cons.inj hn).2
      rwa [hm, hn]
    · -- The bracket stands where the method should.
      have hb := (List.cons.inj (List.cons.inj hl).2).1
      cases hb
  · rintro ⟨he, hd⟩
    refine ⟨version.major, version.minor, rest, version.majorNonempty, version.minorNonempty, hr,
      hd, ?_⟩
    rw [h, classLines, if_pos he, headLine, List.append_assoc, List.append_assoc, List.cons_append]
    rfl

end Settings.Version

theorem Artifact.splitOn_source_heading (name : String) (body : List Block)
    (version : Settings.Version) :
    ∃ rest, rest ≠ [] ∧
      splitOn '\n' (ofBody body name (.ofList version.text)).content.toList =
        version.classLines (Slug.className name).value ++ "  def up".toList :: rest := by
  let rest := (body.flatMap Block.sourceLines).flatMap (splitOn '\n') ++
    closing.map String.toList ++ [[]]
  have hc := version.splitOn_classLine (Slug.oneLine_className name)
  have hu : OneLine "  def up".toList := by decide
  have hh : (header (Slug.className name).value (.ofList version.text)).map String.toList =
      [(classOpening (Slug.className name).value).toList ++ (version.text ++ [']']),
        "  def up".toList] := by
    simp only [header, classOpening, List.map_cons, List.map_nil, toString, String.toList_append,
      String.toList_ofList, List.append_assoc]
    rfl
  have hs := splitOn_source_flatMap (Slug.className name).value body (.ofList version.text)
  rw [hh, List.flatMap_cons, List.flatMap_singleton, hc, splitOn_oneLine hu] at hs
  refine ⟨rest, List.append_ne_nil_of_right_ne_nil _ (List.cons_ne_nil _ _), hs.trans ?_⟩
  simp only [rest, List.append_assoc, List.cons_append, List.nil_append]

/-- Compiled under settings without problems, statements give a source that begins with the class
line and the line of the method. The class line is whole, with a version in ASCII, exactly if the
version in the settings is made of ASCII digits and its point. -/
theorem Pipeline.compile_heading (pipeline : Pipeline)
    (hp : pipeline.settings.problems tree directory = .ok [])
    (statements : List Statement) (name : Option String) (w : Workspace) (hs : statements ≠ []) :
    ∃ (version : Settings.Version) (compilation : Compilation) (w' : Workspace)
      (artifact : Artifact) (rest : List (List Char)),
      pipeline.settings.frameworkVersion = some (.ofList version.text) ∧
      (pipeline.compile statements name).run.run w = (.ok compilation, w') ∧
      compilation.artifact = some artifact ∧ rest ≠ [] ∧
      splitOn '\n' artifact.content.toList =
        version.classLines artifact.className ++ "  def up".toList :: rest ∧
      (HasHeading artifact.className artifact.content ↔
        ∀ c ∈ version.text, c.isDigit = true ∨ c = '.') := by
  obtain ⟨version, hv⟩ := Settings.exists_frameworkVersion hp
  obtain ⟨body, name', ha⟩ := pipeline.artifact_ofBody name hs
  rw [hv] at ha
  obtain ⟨rest, hr, hl⟩ := Artifact.splitOn_source_heading name' body version
  exact ⟨version, _, _, _, rest, hv, pipeline.run_compile .., ha, hr, hl,
    version.hasHeading_iff hr hl⟩

def pipelineUnder (version : String) : Pipeline :=
  { standardPipeline with settings := { frameworkVersion := some version } }

theorem pipelineUnder_heading : ∃ compilation w artifact,
    ((pipelineUnder "12.07").compile hostileStatements (some "2nd größe")).run.run emptyWorkspace =
      (.ok compilation, w) ∧
    compilation.artifact = some artifact ∧ HasHeading artifact.className artifact.content := by
  have hp : (pipelineUnder "12.07").settings.problems {} [] = .ok [] := by
    decide +kernel
  obtain ⟨version, compilation, w, artifact, rest, hv, hr, ha, -, -, hiff⟩ :=
    (pipelineUnder "12.07").compile_heading hp hostileStatements (some "2nd größe")
      emptyWorkspace (by decide)
  refine ⟨compilation, w, artifact, hr, ha, hiff.2 ?_⟩
  have ht : version.text = "12.07".toList := by
    rw [Option.some.inj hv, String.toList_ofList]
  rw [ht]
  simp

/-- Settings whose version a line feed follows are without problems, and the class line breaks. -/
theorem pipelineUnder_brokenHeading : ∃ compilation w artifact,
    (pipelineUnder "8.0\n").settings.problems {} [] = .ok [] ∧
    ((pipelineUnder "8.0\n").compile hostileStatements none).run.run emptyWorkspace =
      (.ok compilation, w) ∧
    compilation.artifact = some artifact ∧ ¬ HasHeading artifact.className artifact.content := by
  let version : Settings.Version := ⟨['8'], ['0'], ['\n'], List.cons_ne_nil _ _,
    List.cons_ne_nil _ _, List.forall_mem_singleton.2 (by decide),
    List.forall_mem_singleton.2 (by decide), .inr rfl⟩
  obtain ⟨body, name', ha⟩ := (pipelineUnder "8.0\n").artifact_ofBody none
    (show hostileStatements ≠ [] by decide)
  obtain ⟨rest, hr, hl⟩ := Artifact.splitOn_source_heading name' body version
  refine ⟨_, _, _, by decide +kernel, (pipelineUnder "8.0\n").run_compile .., ha, ?_⟩
  intro h
  have hn := (version.hasHeading_iff hr hl).1 h '\n' (by decide)
  exact absurd hn (by decide)

end SchemaPlan
