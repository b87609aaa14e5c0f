import SchemaPlan.Proofs.Migration.Column
import SchemaPlan.Proofs.Migration.FileName
import SchemaPlan.Proofs.Migration.Heading
import SchemaPlan.Proofs.Migration.Store
import SchemaPlan.Proofs.Text.LetterCase

namespace SchemaPlan

namespace Slug
open Text

/-- A capital, and then letters and digits of ASCII. -/
structure IsConstant (s : List Char) : Prop where
  head : ∃ c ∈ s.head?, isCapital c = true
  chars : ∀ c ∈ s, c.isAlphanum = true

theorem titleChar_of_isSlugChar (h : isSlugChar c = true) : titleChar c = [c.toUpper] :=
  slugChar_cases (P := fun c => titleChar c = [c.toUpper]) (by decide) h

theorem capitalize_eq {part : List Char} (h : ∀ c ∈ part, isSlugChar c = true) :
    capitalize part = part.modifyHead Char.toUpper := by
  cases part with
  | nil => rfl
  | cons c part =>
    obtain ⟨hc, hp⟩ := List.forall_mem_cons.1 h
    have hsmall : ∀ d ∈ part, Small d := by
      intro d hd
      exact small_of_isSlugChar (hp d hd)
    rw [capitalize, titleChar_of_isSlugChar hc, lowerAfter_of_small _ hsmall]
    rfl

theorem fold_capitalize {part : List Char} (h : ∀ c ∈ part, isSlugChar c = true) :
    fold (capitalize part) = part := by
  rw [capitalize_eq h]
  cases part with
  | nil => rfl
  | cons c part =>
    obtain ⟨hc, hp⟩ := List.forall_mem_cons.1 h
    have hhead : c.toUpper.toLower = c :=
      slugChar_cases (P := fun c => c.toUpper.toLower = c) (by decide) hc
    have hrest : fold part = part := by
      refine (List.map_congr_left fun d hd => ?_).trans (List.map_id part)
      exact slugChar_cases (P := fun d => d.toLower = d) (by decide) (hp d hd)
    rw [List.modifyHead_cons, fold_cons, hhead, hrest]

variable {s : String}

theorem toList_camelize (s : String) :
    (camelize s).toList = (splitOn '_' s.toList).flatMap capitalize := by
  rw [camelize, String.toList_ofList]

theorem fold_camelize (h : ∀ c ∈ s.toList, isSlugChar c = true) :
    fold (camelize s).toList = s.toList.filter (· ≠ '_') := by
  have hparts : ∀ part ∈ splitOn '_' s.toList, fold (capitalize part) = part := by
    intro part hp
    apply fold_capitalize
    intro c hc
    exact h c (mem_of_mem_splitOn hp hc)
  rw [toList_camelize, fold, List.map_flatMap, List.flatMap_def, ← flatten_splitOn]
  exact congrArg List.flatten ((List.map_congr_left hparts).trans (List.map_id _))

theorem lowered_camelize (h : ∀ c ∈ s.toList, isSlugChar c = true) :
    lowered (camelize s) = .ofList (s.toList.filter (· ≠ '_')) := by
  have hsmall : ∀ c ∈ s.toList.filter (· ≠ '_'), Small c := by
    intro c hc
    exact small_of_isSlugChar (h c (List.mem_of_mem_filter hc))
  rw [lowered, ← lower_fold, fold_camelize h, lower, lowerAfter_of_small _ hsmall]

theorem isAlphanum_of_toLower {c : Char} (hc : isSlugChar c.toLower = true) (hu : c.toLower ≠ '_') :
    c.isAlphanum = true := by
  by_cases ha : c.toNat < 128
  · revert hc hu
    exact ascii_cases (P := fun c => isSlugChar c.toLower = true → c.toLower ≠ '_' →
      c.isAlphanum = true) (by decide) ha
  · rw [toLower_of_not_ascii ha] at hc
    exact absurd (isAscii_of_isSlugChar hc) ha

theorem head?_camelize {rest : List Char} (h : s.toList = c :: rest) (hc : isSlugChar c = true)
    (hu : c ≠ '_') : (camelize s).toList.head? = some c.toUpper := by
  have hhead (part : List Char) (more : List (List Char)) :
      (((c :: part) :: more).flatMap capitalize).head? = some c.toUpper := by
    rw [List.flatMap_cons, capitalize, titleChar_of_isSlugChar hc]
    rfl
  rw [toList_camelize, h, splitOn, if_neg hu]
  cases splitOn '_' rest with
  | nil => exact hhead [] []
  | cons part more => exact hhead part more

theorem isConstant_camelize (h : IsSlug s.toList) : IsConstant (camelize s).toList where
  head := by
    obtain ⟨c, hc, hs⟩ := h.head
    obtain ⟨rest, hr⟩ := List.head?_eq_some_iff.1 hc
    have hslug := h.chars c (List.mem_of_head? hc)
    obtain ⟨hu, hcapital⟩ := slugChar_cases
      (P := fun c => isSmall c = true → c ≠ '_' ∧ isCapital c.toUpper = true) (by decide) hslug hs
    exact ⟨c.toUpper, head?_camelize hr hslug hu, hcapital⟩
  chars := by
    intro c hc
    have hl : c.toLower ∈ fold (camelize s).toList := List.mem_map_of_mem hc
    rw [fold_camelize h.chars] at hl
    obtain ⟨hm, hu⟩ := List.mem_filter.1 hl
    exact isAlphanum_of_toLower (h.chars _ hm) (of_decide_eq_true hu)

end Slug

namespace Artifact

theorem classOpening_prefix (className frameworkVersion : String) (body : List Block) :
    (classOpening className).toList <+: (source className body frameworkVersion).toList := by
  rw [source, sourceLines, header, List.cons_append, List.cons_append, String.toList_append,
    toList_intercalate_cons]
  simp only [toString, classOpening, String.toList_append, List.append_assoc,
    List.prefix_append_right_inj, List.prefix_append]

theorem fileName_of_written {store : MigrationStore} {artifact : Artifact} {migration : StoredMigration}
    (h : store.Written artifact flaw w w' (.ok migration)) :
    migration.fileName = migration.version ++ "_" ++ artifact.slug ++ ".rb" ∧
      ∃ place, w'.tree.get? (place ++ [migration.fileName]) =
        some (.file artifact.content.toUTF8.toList) := by
  cases h with
  | @stored place _ u m hp hd hl he hc hm hf ha =>
    have hname : (store.bound m.stamp artifact).fileName =
        MigrationStore.fileName m.stamp artifact.slug := by
      rw [StoredMigration.fileName, MigrationStore.bound, Path.name, List.getLast?_concat,
        Option.getD_some]
    refine ⟨hname, place, ?_⟩
    rw [hname]
    exact ha.file_iff.2 (.inr ⟨rfl, rfl⟩)

/-- A body that is not empty gives an artifact under every name. Its class has a constant as its
name, which is the slug in lower case but for its underscores; the source opens with that class; and
wherever and whenever the artifact is stored, the name of its file calls for that class. -/
theorem assemble_className {body : List Block} (hb : body ≠ []) (name : Option String)
    (frameworkVersion : String) :
    ∃ artifact, (assemble body name frameworkVersion).value = some artifact ∧
      Slug.IsConstant artifact.className.toList ∧
      lowered artifact.className = .ofList (artifact.slug.toList.filter (· ≠ '_')) ∧
      (classOpening artifact.className).toList <+: artifact.content.toList ∧
      ∀ (store : MigrationStore) (flaw : Option Flaw) (w w' : Workspace)
        (migration : StoredMigration),
        (store.write artifact flaw).run.run w = (.ok migration, w') →
        ∃ (place : List String) (part : String),
          w'.tree.get? (place ++ [migration.fileName]) =
            some (.file artifact.content.toUTF8.toList) ∧
          migration.fileName = migration.version ++ "_" ++ part ++ ".rb" ∧
          Slug.camelize part = artifact.className := by
  generalize ha : ofBody body (nameOrDefault name) frameworkVersion = artifact
  have hclass : artifact.className = Slug.camelize artifact.slug := ha ▸ rfl
  have hslug : Slug.IsSlug artifact.slug.toList := ha ▸ Slug.isSlug_ofName _
  have hcontent : (classOpening artifact.className).toList <+: artifact.content.toList :=
    ha ▸ classOpening_prefix ..
  refine ⟨artifact, ha ▸ (value_assemble ..).trans (if_neg hb), ?_, ?_, hcontent, ?_⟩
  · rw [hclass]
    exact Slug.isConstant_camelize hslug
  · rw [hclass]
    exact Slug.lowered_camelize hslug.chars
  · intro store flaw w w' migration h
    have hslash : '/' ∉ artifact.slug.toList := Text.notMem_of_forall hslug.chars rfl
    obtain ⟨hname, place, hfile⟩ := fileName_of_written (MigrationStore.written hslash h)
    exact ⟨place, artifact.slug, hfile, hname, hclass.symm⟩

/-- A name that begins with a digit and holds capitals, blanks, letters beyond ASCII and two
underscores. -/
def mixedName : String := "2nd HTMLPages: größe__x"

theorem mixedName_className :
    ∃ (artifact : Artifact) (migration : StoredMigration) (w : Workspace) (part : String),
      (assemble [⟨["drop_table :t"], false⟩] (some mixedName)).value = some artifact ∧
      ((MigrationStore.mk ⟨0, ["m"]⟩).write artifact none).run.run emptyWorkspace =
        (.ok migration, w) ∧
      migration.fileName = "20240229120000_migration_2nd_html_pages_gr_e__x.rb" ∧
      artifact.className = "Migration2ndHtmlPagesGrEX" ∧
      Slug.IsConstant artifact.className.toList ∧
      migration.fileName = migration.version ++ "_" ++ part ++ ".rb" ∧
      Slug.camelize part = artifact.className := by
  have hv : (((MigrationStore.mk ⟨0, ["m"]⟩).write (callAtNoon mixedName).artifact none).run.run
      emptyWorkspace).1.toOption.map (·.fileName) =
        some "20240229120000_migration_2nd_html_pages_gr_e__x.rb" := by decide +kernel
  have hn : (callAtNoon mixedName).artifact.className = "Migration2ndHtmlPagesGrEX" := by
    decide +kernel
  have hb : ([⟨["drop_table :t"], false⟩] : List Block) ≠ [] := List.cons_ne_nil _ _
  obtain ⟨artifact, ha, hconstant, -, -, hwritten⟩ :=
    assemble_className hb (some mixedName) defaultFrameworkVersion
  have he : (callAtNoon mixedName).artifact = artifact := Option.some.inj ha
  rw [he] at hv hn
  cases hr : ((MigrationStore.mk ⟨0, ["m"]⟩).write artifact none).run.run emptyWorkspace with
  | mk result w =>
    rw [hr] at hv
    cases result with
    | error failure => cases hv
    | ok migration =>
      obtain ⟨-, part, -, hname, hclass⟩ := hwritten _ none _ _ _ hr
      exact ⟨artifact, migration, w, part, ha, hr, Option.some.inj hv, hn, hconstant, hname, hclass⟩

end Artifact

end SchemaPlan
