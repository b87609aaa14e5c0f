import SchemaPlan.Proofs.Calendar.Later
import SchemaPlan.Proofs.Migration.FileName
import SchemaPlan.Proofs.Migration.Store

namespace SchemaPlan

theorem Path.utf8ByteSize_child_le (path : Path) (name : String) :
    (Path.mk path.slashes (path.names ++ [name])).text.utf8ByteSize ≤
      path.text.utf8ByteSize + 1 + name.utf8ByteSize := by
  obtain ⟨slashes, names⟩ := path
  have hchild : ¬ (slashes = 0 ∧ names ++ [name] = []) := by simp
  have hslash : "/".utf8ByteSize = 1 := rfl
  have hdot : ".".utf8ByteSize = 1 := rfl
  rw [text, if_neg hchild, text, String.utf8ByteSize_append]
  cases names with
  | nil =>
    rw [List.nil_append, String.intercalate_singleton, String.intercalate_nil]
    split
    · next h =>
      rw [h.1]
      simp
    · simp
  | cons first names =>
    rw [String.intercalate_append_of_ne_nil (List.cons_ne_nil _ _) (List.cons_ne_nil _ _),
      String.intercalate_singleton, if_neg (by simp)]
    simp only [String.utf8ByteSize_append, hslash]
    omega

namespace MigrationStore
open Slug

variable {store : MigrationStore} {artifact : Artifact} {flaw : Option Flaw} {w w' : Workspace}
  {place : List String} {moment : Moment}

/-- Some entry of a directory is named as a migration of a version. -/
def Taken (entries : List String) (version : List Char) : Prop :=
  ∃ name ∈ entries, hasVersion version name.toList = true

instance (entries : List String) (version : List Char) : Decidable (Taken entries version) :=
  inferInstanceAs (Decidable (∃ _ ∈ _, _))

/-- Files can be written into the directory of a store: nothing but a file of its name keeps that of
a migration from being made. -/
def Writable (store : MigrationStore) (slug : String) (t : FileTree) (directory : List String) :
    Prop :=
  ∀ version, IsStamp version → ∀ content fault,
    t.create directory (store.pathFor (.ofList version) slug) content = .error fault →
      fault = .alreadyThere

theorem writable_of_leads {t : FileTree} {directory : List String} {slug : String}
    (h : t.Leads directory store.directory place) (hsearch : t.allows place .search = true)
    (hadd : t.allows place .add = true) (hs : IsSlug slug.toList) (hl : slug.length ≤ 222)
    (hb : store.directory.text.utf8ByteSize + 241 ≤ FileTree.maxPathBytes) :
    store.Writable slug t directory := by
  intro version hv content fault hc
  have hf := isFileName_fileName hv hs hl
  have hp : store.pathFor (.ofList version) slug = _ :=
    pathFor_eq (Text.notMem_of_forall hv.2 rfl) (Text.notMem_of_forall hs.chars rfl)
  have hbytes := hf.bytes
  have hsize := store.directory.utf8ByteSize_child_le (fileName version slug)
  have hlocate := h.locate_child hf.dots.2 hf.nul (hbytes.trans (by decide))
  rw [if_neg (Nat.not_lt.2 (hsize.trans (by omega))), if_pos hsearch] at hlocate
  rw [hp, FileTree.create, hlocate] at hc
  change t.add _ _ = _ at hc
  rw [FileTree.add, List.dropLast_concat, if_pos hadd] at hc
  split at hc
  · cases hc
    rfl
  · cases hc

def ended (store : MigrationStore) (artifact : Artifact) (flaw : Option Flaw)
    (version : List Char) : Except Failure StoredMigration :=
  match flaw with
  | none => .ok (store.bound version artifact)
  | some flaw => .error (.notEncodable flaw)

theorem eq_notEncodable_of_ended {version : List Char} {failure : Failure}
    (h : store.ended artifact flaw version = .error failure) :
    ∃ f, flaw = some f ∧ failure = .notEncodable f := by
  cases flaw with
  | none => cases h
  | some f => exact ⟨f, rfl, (Except.error.inj h).symm⟩

def encoded (artifact : Artifact) (flaw : Option Flaw) : List UInt8 :=
  if flaw.isNone then artifact.content.toUTF8.toList else []

section Search

variable (hl : w.tree.Leads w.directory store.directory place)

include hl

theorem create_ne_alreadyThere {content : List UInt8} (hs : '/' ∉ artifact.slug.toList)
    (hf : ¬ InUse w.tree place moment.stamp) :
    w.tree.create w.directory (store.pathFor (.ofList moment.stamp) artifact.slug) content ≠
      .error .alreadyThere := by
  intro hc
  have hb : Busy store artifact.slug w.tree w.directory place moment.stamp :=
    .inr (FileTree.create_alreadyThere hc _)
  exact hf (hb.inUse hl (slash_not_mem_stamp moment) hs)

section Listable

variable (hr : w.tree.allows place .read = true)

include hr

theorem run_writeFrom_inUse {next : Moment} (artifact : Artifact) (flaw : Option Flaw)
    (attempts : Nat) (hu : InUse w.tree place moment.stamp) (hn : moment.next? = some next) :
    ∃ u, (store.writeFrom artifact flaw (attempts + 1) moment).run.run w =
        (store.writeFrom artifact flaw attempts next).run.run u ∧
      u.tree = w.tree ∧ u.directory = w.directory := by
  obtain ⟨u, hrun, ht⟩ := run_tryVersion hl artifact flaw (.inl ⟨hr, hu⟩)
  refine ⟨u, ?_, ht⟩
  rw [writeFrom, Session.run_bind_ok hrun]
  simp only [hn]

theorem writeFrom_taken {attempts : Nat} (hm : moment.Proper)
    (hend : moment.seconds + attempts ≤ Moment.last.seconds)
    (hu : ∀ j < attempts, InUse w.tree place (moment.later j).stamp) :
    ∃ u, (store.writeFrom artifact flaw attempts moment).run.run w =
        (.error (.noFreeVersion artifact.slug store.directory.text), u) ∧ u.tree = w.tree := by
  induction attempts generalizing moment w with
  | zero => exact ⟨w, rfl, rfl⟩
  | succ attempts ih =>
    obtain ⟨next, hnext⟩ := hm.exists_next (by omega)
    have hsecond := hm.seconds_next hnext
    have hfirst : InUse w.tree place moment.stamp := hu 0 (Nat.succ_pos attempts)
    obtain ⟨u, hrun, htree, hdirectory⟩ :=
      run_writeFrom_inUse hl hr artifact flaw attempts hfirst hnext
    rw [← htree, ← hdirectory] at hl
    rw [← htree] at hu hr
    rw [hrun, ← htree]
    apply ih hl hr (hm.next hnext).1 (by omega)
    intro j hj
    have hused := hu (j + 1) (Nat.succ_lt_succ hj)
    rwa [Moment.later_succ hnext] at hused

end Listable

variable (hs : '/' ∉ artifact.slug.toList)

include hs

theorem run_tryVersion_free (hw : store.Writable artifact.slug w.tree w.directory)
    (hv : IsStamp moment.stamp) (hf : ¬ InUse w.tree place moment.stamp) :
    ∃ u, (store.tryVersion artifact moment flaw).run.run w =
        ((store.ended artifact flaw moment.stamp).map some, u) ∧
      w.tree.AddsFile (place ++ [fileName moment.stamp artifact.slug]) (encoded artifact flaw)
        u.tree := by
  have ht : ¬ store.isTaken w moment.stamp = true := fun ht => hf ((isTaken_iff hl).1 ht).2
  have hp : store.pathFor (.ofList moment.stamp) artifact.slug = _ :=
    pathFor_eq (slash_not_mem_stamp moment) hs
  rw [tryVersion, Session.run_get_bind]
  simp only [if_neg ht]
  cases hc : w.tree.create w.directory (store.pathFor (.ofList moment.stamp) artifact.slug)
      (encoded artifact flaw) with
  | error fault =>
    rw [hw _ hv _ _ hc] at hc
    exact absurd hc (create_ne_alreadyThere hl hs hf)
  | ok tree =>
    rw [encoded] at hc
    rw [hc, hp]
    rw [hp] at hc
    have ha := hl.create_eq_ok (fileName_ne_dots _ _) hc
    cases flaw with
    | none => exact ⟨_, rfl, ha⟩
    | some flaw => exact ⟨_, rfl, ha⟩

theorem writeFrom_free {attempts k : Nat} (hr : w.tree.allows place .read = true)
    (hw : store.Writable artifact.slug w.tree w.directory) (hm : moment.Proper)
    (hy : 1000 ≤ moment.date.year)
    (hend : moment.seconds + k ≤ Moment.last.seconds) (hk : k < attempts)
    (hu : ∀ j < k, InUse w.tree place (moment.later j).stamp)
    (hf : ¬ InUse w.tree place (moment.later k).stamp) :
    ∃ u, (store.writeFrom artifact flaw attempts moment).run.run w =
        (store.ended artifact flaw (moment.later k).stamp, u) ∧
      w.tree.AddsFile (place ++ [fileName (moment.later k).stamp artifact.slug])
        (encoded artifact flaw) u.tree := by
  obtain ⟨attempts, rfl⟩ := Nat.exists_eq_succ_of_ne_zero (Nat.ne_zero_of_lt hk)
  induction k generalizing attempts moment w with
  | zero =>
    obtain ⟨u, hrun, ha⟩ := run_tryVersion_free hl hs hw (hm.isStamp hy) hf
    refine ⟨u, ?_, ha⟩
    rw [writeFrom]
    cases flaw with
    | none => exact Session.run_bind_ok hrun
    | some flaw => exact Session.run_bind_error hrun
  | succ k ih =>
    obtain ⟨attempts, rfl⟩ :=
      Nat.exists_eq_succ_of_ne_zero (Nat.ne_zero_of_lt (Nat.lt_of_succ_lt_succ hk))
    obtain ⟨next, hnext⟩ := hm.exists_next (by omega)
    obtain ⟨hp, hyear⟩ := hm.next hnext
    have hsecond := hm.seconds_next hnext
    have hfirst : InUse w.tree place moment.stamp := hu 0 (Nat.succ_pos k)
    obtain ⟨u, hrun, htree, hdirectory⟩ :=
      run_writeFrom_inUse hl hr artifact flaw (attempts + 1) hfirst hnext
    rw [← htree, ← hdirectory] at hl hw
    rw [Moment.later_succ hnext] at hf ⊢
    rw [← htree] at hu hf hr ⊢
    rw [Nat.succ_eq_add_one, hrun]
    refine ih hl hr hw hp (hy.trans hyear) (by omega) ?_ hf attempts (Nat.lt_of_succ_lt_succ hk)
    intro j hj
    have hused := hu (j + 1) (Nat.succ_lt_succ hj)
    rwa [Moment.later_succ hnext] at hused

end Search

theorem Call.run_eq {call : Call}
    (hm : w.tree.ensureDirectory w.directory store.directory = (made, path, none)) :
    ∃ u, call.run store w =
        (store.writeFrom call.artifact call.flaw maxAttempts call.moment).run.run u ∧
      u.tree = made ∧ u.directory = w.directory := by
  let v : Workspace := { w with clock := .time call.moment }
  have hm' : v.tree.ensureDirectory v.directory store.directory = (made, path, none) := hm
  obtain ⟨u, hr, htree, hdirectory, hclock⟩ := run_ensureDirectory_ok hm'
  refine ⟨u, ?_, htree, hdirectory⟩
  rw [run, write, Session.run_bind_ok hr, Session.run_bind_ok (Session.run_now_time hclock)]

/-- The version of a second, counted from the one that the clock shows. -/
def Call.version (call : Call) (k : Nat) : List Char := (call.moment.later k).stamp

section Attempts

variable {call : Call} {made : FileTree} (hy : call.moment.date.year ≤ 9998)
  (hm : w.tree.ensureDirectory w.directory store.directory = (made, path, none))
  (hl : made.Leads w.directory store.directory place) (hread : made.allows place .read = true)

include hy hm hl hread

theorem Call.takes {k : Nat} (hw : store.Writable call.artifact.slug made w.directory) (hk : k < 60)
    (hu : ∀ j < k, InUse made place (call.version j)) (hf : ¬ InUse made place (call.version k)) :
    ∃ v, call.run store w = (store.ended call.artifact call.flaw (call.version k), v) ∧
      made.AddsFile (place ++ [fileName (call.version k) call.artifact.slug])
        (encoded call.artifact call.flaw) v.tree ∧
      ∀ content, made.create w.directory
        (store.pathFor (.ofList (call.version k)) call.artifact.slug) content ≠
          .error .alreadyThere := by
  obtain ⟨u, hrun, rfl, hd⟩ := call.run_eq hm
  have hyear := call.proper.seconds_add_le_last (Nat.lt_succ_of_le hy)
  rw [← hd] at hl hw ⊢
  obtain ⟨v, hv, hfile⟩ :=
    writeFrom_free hl call.plainSlug hread hw call.proper call.fourDigits (by omega) hk hu hf
  exact ⟨v, hrun.trans hv, hfile, fun _ => create_ne_alreadyThere hl call.plainSlug hf⟩

theorem Call.exhausted (hu : ∀ k < 60, InUse made place (call.version k)) :
    ∃ v, call.run store w =
      (.error (.noFreeVersion call.artifact.slug store.directory.text), v) ∧ v.tree = made := by
  obtain ⟨u, hrun, rfl, hd⟩ := call.run_eq hm
  have hyear := call.proper.seconds_add_le_last (Nat.lt_succ_of_le hy)
  have hend : call.moment.seconds + 60 ≤ Moment.last.seconds := by omega
  rw [← hd] at hl
  rw [hrun]
  exact writeFrom_taken hl hread call.proper hend hu

theorem Call.takes_or_exhausted (hw : store.Writable call.artifact.slug made w.directory) :
    (∃ k < 60, ∃ v, call.run store w =
      (store.ended call.artifact call.flaw (call.version k), v)) ∨
    ∀ k < 60, InUse made place (call.version k) := by
  rw [or_iff_not_imp_left]
  intro hn k
  induction k using Nat.strong_induction_on with
  | h k ih =>
    intro hk
    by_contra hf
    -- The first version that is not in use is taken.
    obtain ⟨v, hv, -⟩ := Call.takes hy hm hl hread hw hk (fun j hj => ih j hj (hj.trans hk)) hf
    exact hn ⟨k, hk, v, hv⟩

end Attempts

/-- In a directory that is there or can be made, that can be listed, and that files can be written
into, a call takes the first of sixty seconds whose version no entry has; its file is not there
then. Only a source that cannot be encoded makes the call fail here, behind an empty file. Otherwise it
fails exactly if the versions of all sixty are taken, and then leaves every file as it was. -/
theorem call_firstFree {call : Call} {entries : List String}
    (hy : call.moment.date.year ≤ 9998)
    (hm : w.tree.ensureDirectory w.directory store.directory = (made, path, none))
    (hl : made.list w.directory store.directory = .ok entries)
    (hw : store.Writable call.artifact.slug made w.directory)
    (hr : call.run store w = (result, w')) :
    (∀ k < 60, (call.moment.later k).Proper ∧
      (call.moment.later k).seconds = call.moment.seconds + k) ∧
    (∀ k < 60, (∀ j < k, Taken entries (call.version j)) → ¬ Taken entries (call.version k) →
      (∀ content, made.create w.directory
        (store.pathFor (.ofList (call.version k)) call.artifact.slug) content ≠
          .error .alreadyThere) ∧
      result = store.ended call.artifact call.flaw (call.version k) ∧
      ∃ place, made.Leads w.directory store.directory place ∧
        ∀ p bytes, w'.tree.get? p = some (.file bytes) ↔ w.tree.get? p = some (.file bytes) ∨
          p = place ++ [fileName (call.version k) call.artifact.slug] ∧
            bytes = encoded call.artifact call.flaw) ∧
    ((∃ failure, result = .error failure ∧ failure.concern = .migration) ↔
      ∀ k < 60, Taken entries (call.version k)) ∧
    ∀ failure, result = .error failure →
      (∃ flaw, call.flaw = some flaw ∧ failure = .notEncodable flaw) ∨
      failure = .noFreeVersion call.artifact.slug store.directory.text ∧
        ∀ p bytes, w'.tree.get? p = some (.file bytes) ↔ w.tree.get? p = some (.file bytes) := by
  obtain ⟨place, hleads, hread, rfl⟩ := FileTree.list_eq_ok.1 hl
  obtain ⟨ha, -⟩ := FileTree.ensureDirectory_cases hm
  have hyear := call.proper.seconds_add_le_last (Nat.lt_succ_of_le hy)
  refine ⟨fun k _ => call.proper.later (by omega), ?_, ⟨?_, ?_⟩, ?_⟩
  · intro k hk hu hf
    obtain ⟨v, hv, hfile, hnew⟩ := Call.takes hy hm hleads hread hw hk hu hf
    cases hr.symm.trans hv
    refine ⟨hnew, rfl, place, hleads, ?_⟩
    intro p bytes
    rw [hfile.file_iff, ha.file_iff]
  · rintro ⟨failure, rfl, hc⟩
    rcases Call.takes_or_exhausted hy hm hleads hread hw with ⟨k, -, v, hv⟩ | hu
    · obtain ⟨flaw, -, rfl⟩ := eq_notEncodable_of_ended (congrArg Prod.fst (hv.symm.trans hr))
      cases hc
    · exact hu
  · intro hu
    obtain ⟨v, hv, -⟩ := Call.exhausted hy hm hleads hread hu
    cases hr.symm.trans hv
    exact ⟨_, rfl, rfl⟩
  · rintro failure rfl
    rcases Call.takes_or_exhausted hy hm hleads hread hw with ⟨k, -, v, hv⟩ | hu
    · exact .inl (eq_notEncodable_of_ended (congrArg Prod.fst (hv.symm.trans hr)))
    · obtain ⟨v, hv, rfl⟩ := Call.exhausted hy hm hleads hread hu
      cases hr.symm.trans hv
      exact .inr ⟨rfl, ha.file_iff⟩

end MigrationStore

def callBeforeLeapDay : MigrationStore.Call where
  artifact := (callAtNoon "Drop users").artifact
  flaw := none
  moment := ⟨⟨2024, 2, 28⟩, 23, 59, 58⟩
  assembled := (callAtNoon "Drop users").assembled
  shown := ⟨2024, 2, 28, 23, 59, 58, rfl⟩
  fourDigits := by decide

/-- A directory in which the last two seconds before a leap day are taken, and its first one is not:
the name of that one lacks an underscore. -/
def busyDirectory : Workspace where
  tree := {
    entries := [(["m"], .directory), (["m", "20240228235959_b.rb"], .directory),
      (["m", "20240229000000.rb"], .file []), (["m", "20240228235958_a.rb"], .file [])] }
  directory := []
  assignments := []
  clock := .time ⟨⟨2024, 2, 28⟩, 23, 59, 58⟩

theorem busyDirectory_firstFree : ∃ w place,
    callBeforeLeapDay.run ⟨⟨0, ["m"]⟩⟩ busyDirectory =
      (.ok ⟨"20240229000000", ⟨0, ["m", "20240229000000_drop_users.rb"]⟩,
        callBeforeLeapDay.artifact⟩, w) ∧
    busyDirectory.tree.Leads [] ⟨0, ["m"]⟩ place ∧
    w.tree.get? (place ++ ["20240229000000_drop_users.rb"]) =
      some (.file callBeforeLeapDay.artifact.content.toUTF8.toList) := by
  have hleads : busyDirectory.tree.Leads busyDirectory.directory
      (MigrationStore.mk ⟨0, ["m"]⟩).directory ["m"] := ⟨by decide +kernel, by decide +kernel⟩
  have htaken : ∀ j < 2, MigrationStore.Taken (busyDirectory.tree.namesIn ["m"])
      (callBeforeLeapDay.version j) := by decide +kernel
  have hfree : ¬ MigrationStore.Taken (busyDirectory.tree.namesIn ["m"])
      (callBeforeLeapDay.version 2) := by decide +kernel
  have hname : MigrationStore.fileName (callBeforeLeapDay.version 2)
      callBeforeLeapDay.artifact.slug = "20240229000000_drop_users.rb" := by decide +kernel
  have hv : String.ofList (callBeforeLeapDay.version 2) = "20240229000000" := by decide +kernel
  have hw : (MigrationStore.mk ⟨0, ["m"]⟩).Writable callBeforeLeapDay.artifact.slug
      busyDirectory.tree busyDirectory.directory :=
    MigrationStore.writable_of_leads hleads rfl rfl (Slug.isSlug_ofName _)
      (Slug.length_ofName_le _) (by decide +kernel)
  have hlist : busyDirectory.tree.list busyDirectory.directory ⟨0, ["m"]⟩ =
      .ok (busyDirectory.tree.namesIn ["m"]) := FileTree.list_eq_ok.2 ⟨_, hleads, rfl, rfl⟩
  cases hr : callBeforeLeapDay.run ⟨⟨0, ["m"]⟩⟩ busyDirectory with
  | mk result w =>
    obtain ⟨-, hfirst, -⟩ := MigrationStore.call_firstFree (by decide)
      (FileTree.ensureDirectory_of_leads hleads) hlist hw hr
    obtain ⟨-, rfl, place, hp, hfiles⟩ := hfirst 2 (by decide) htaken hfree
    rw [hname] at hfiles
    refine ⟨w, place, ?_, hp, (hfiles _ _).2 (.inr ⟨rfl, rfl⟩)⟩
    have hended : MigrationStore.ended ⟨⟨0, ["m"]⟩⟩ callBeforeLeapDay.artifact
        callBeforeLeapDay.flaw (callBeforeLeapDay.version 2) = .ok (MigrationStore.bound ⟨⟨0, ["m"]⟩⟩
          (callBeforeLeapDay.version 2) callBeforeLeapDay.artifact) := rfl
    rw [hended, MigrationStore.bound, hname, hv]
    rfl

/-- The second of its seconds is free for the call, which can list and write the directory; yet it
fails, and not because all of them are taken. -/
theorem halfAtNoon_fails :
    (compile halfMapping "8.0" [halfColumn]).run.value.toOption.map
      (fun compilation => (compilation.artifact, compilation.flaw)) =
        some (some halfAtNoon.artifact, halfAtNoon.flaw) ∧
    handWritten.tree.list handWritten.directory ⟨0, ["m"]⟩ =
      .ok ["20240229120000_by_hand.rb"] ∧
    (MigrationStore.mk ⟨0, ["m"]⟩).Writable halfAtNoon.artifact.slug handWritten.tree
      handWritten.directory ∧
    MigrationStore.Taken ["20240229120000_by_hand.rb"] (halfAtNoon.version 0) ∧
    ¬ MigrationStore.Taken ["20240229120000_by_hand.rb"] (halfAtNoon.version 1) ∧
    ∃ flaw, (halfAtNoon.run ⟨⟨0, ["m"]⟩⟩ handWritten).1 = .error (.notEncodable flaw) := by
  have hleads : handWritten.tree.Leads handWritten.directory
      (MigrationStore.mk ⟨0, ["m"]⟩).directory ["m"] := ⟨by decide +kernel, by decide +kernel⟩
  refine ⟨by decide +kernel, rfl, ?_, by decide +kernel, by decide +kernel, ?_⟩
  · exact MigrationStore.writable_of_leads hleads rfl rfl (Slug.isSlug_ofName "schema_update")
      (Slug.length_ofName_le _) (by decide +kernel)
  · exact ⟨⟨("class SchemaUpdate < ActiveRecord::Migration[8.0]\n  def up\n" ++
      "    add_column :users, :nick, :\"").toList, 0xd83d, 0⟩, by decide +kernel⟩

end SchemaPlan
