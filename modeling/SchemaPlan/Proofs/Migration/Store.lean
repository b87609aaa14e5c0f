import SchemaPlan.Proofs.Compilation
import SchemaPlan.Proofs.Migration.Slug
import SchemaPlan.Proofs.Migration.Writing

namespace SchemaPlan.MigrationStore

variable {store : MigrationStore} {artifact : Artifact} {flaw : Option Flaw} {w w' : Workspace}
  {moment : Moment}

/-- The migrations of a directory all have versions of their own. -/
def VersionsDistinct (t : FileTree) (place : List String) : Prop :=
  ∀ version, IsStamp version → ∀ m ∈ t.namesIn place, ∀ n ∈ t.namesIn place,
    hasVersion version m.toList = true → hasVersion version n.toList = true → m = n

/-- No name on the way to the directory is the name of a migration. -/
def IsPlain (store : MigrationStore) (w : Workspace) : Prop :=
  ∀ name ∈ w.directory ++ store.directory.names, ∀ version, IsStamp version →
    hasVersion version name.toList = false

/-- The directory may be listed, once it is there. -/
def IsListable (store : MigrationStore) (w : Workspace) : Prop :=
  w.tree.allows (store.directory.place w.directory) .read = true

theorem isListable_iff (hd : w'.directory = w.directory) (ht : w.tree.Within w'.tree) :
    store.IsListable w' ↔ store.IsListable w := by
  rw [IsListable, IsListable, hd, ht.allows]

/-- The directory may be listed, and it is there or may be made under names that no migration
has. -/
structure IsUsable (store : MigrationStore) (w : Workspace) : Prop where
  listable : store.IsListable w
  there : (∃ place, w.tree.Leads w.directory store.directory place) ∨ store.IsPlain w

theorem IsUsable.at (h : store.IsUsable w) (clock : Clock) : store.IsUsable { w with clock } :=
  ⟨h.listable, h.there⟩

theorem hasVersion_fileName (hv : IsStamp version) (hu : IsStamp v)
    (h : hasVersion v (fileName version slug).toList = true) : v = version := by
  simp only [hasVersion, Bool.and_eq_true, List.isPrefixOf_iff_prefix] at h
  obtain ⟨⟨t, ht⟩, -⟩ := h
  rw [toList_fileName, List.append_assoc] at ht
  exact (List.append_inj ht (hu.1.trans hv.1.symm)).1

theorem Prepared.versionsDistinct {u : Workspace} (h : Prepared store w u)
    (hs : store.IsUsable w)
    (hd : VersionsDistinct w.tree place) : VersionsDistinct u.tree place := by
  rcases hs.there with ⟨_, hl⟩ | hs
  · rwa [h.kept _ hl]
  · -- A new name stands on the way to the directory, so it is the name of no migration.
    obtain ⟨made, ht, hm⟩ := h.added.made
    have old {version : List Char} {name : String} (hv : IsStamp version)
        (hn : name ∈ u.tree.namesIn place) (hh : hasVersion version name.toList = true) :
        name ∈ w.tree.namesIn place := by
      rw [FileTree.namesIn_append ht] at hn
      rcases List.mem_append.1 hn with hn | hn
      · exact hn
      · obtain ⟨e, he, hp⟩ := FileTree.mem_namesIn_iff.1 hn
        have hname := (hm e he).2 name (by simp [hp])
        rw [hs name hname version hv] at hh
        cases hh
    intro version hv m hm' n hn' hvm hvn
    exact hd version hv m (old hv hm' hvm) n (old hv hn' hvn) hvm hvn

theorem VersionsDistinct.addsFile {t t' : FileTree} (hd : VersionsDistinct t place)
    (hv : IsStamp version) (hf : ¬ InUse t stored version)
    (ha : t.AddsFile (stored ++ [fileName version slug]) content t') :
    VersionsDistinct t' place := by
  have cases_of_mem {m : String} (hm : m ∈ t'.namesIn place) :
      m ∈ t.namesIn place ∨ place = stored ∧ m = fileName version slug := by
    rw [FileTree.namesIn_append ha.entries] at hm
    rcases List.mem_append.1 hm with hm | hm
    · exact .inl hm
    · obtain ⟨e, he, hp⟩ := FileTree.mem_namesIn_iff.1 hm
      obtain rfl := List.mem_singleton.1 he
      obtain ⟨hplace, hname⟩ := List.append_inj' hp rfl
      exact .inr ⟨hplace.symm, (List.singleton_inj.1 hname).symm⟩
  -- The new file can only clash with a name of its own version, and there was none.
  have fresh {v : List Char} {n : String} (hv' : IsStamp v) (hn : n ∈ t.namesIn stored)
      (hm : hasVersion v (fileName version slug).toList = true)
      (hvn : hasVersion v n.toList = true) : False := by
    obtain rfl := hasVersion_fileName hv hv' hm
    exact hf ⟨n, hn, hvn⟩
  intro v hv' m hm n hn hvm hvn
  rcases cases_of_mem hm with hm | ⟨rfl, rfl⟩
  · rcases cases_of_mem hn with hn | ⟨rfl, rfl⟩
    · exact hd v hv' m hm n hn hvm hvn
    · exact (fresh hv' hm hvn hvm).elim
  · rcases cases_of_mem hn with hn | ⟨-, rfl⟩
    · exact (fresh hv' hn hvm hvn).elim
    · rfl

theorem Prepared.not_inUse {u : Workspace} (h : Prepared store w u) (hs : store.IsListable w)
    (hl : u.tree.Leads w.directory store.directory place) (hf : ¬ Seen u.tree place version) :
    ¬ InUse u.tree place version := by
  intro hu
  refine hf ⟨?_, hu⟩
  rw [h.added.within.allows, FileTree.eq_place_of_locate hl.1]
  exact hs

theorem Written.versionsDistinct (h : Written store artifact flaw w w' result)
    (hc : w.clock = .time moment) (hm : moment.Proper) (hy : 1000 ≤ moment.date.year)
    (hs : store.IsUsable w) (hd : VersionsDistinct w.tree place) :
    VersionsDistinct w'.tree place := by
  cases h with
  | failed hp hd' ht =>
    rw [ht]
    exact hp.versionsDistinct hs hd
  | broken hp hd' hl he hc' hpass hf ha =>
    obtain rfl := Clock.time.inj (hc.symm.trans hc')
    exact (hp.versionsDistinct hs hd).addsFile (hpass.isStamp hm hy)
      (hp.not_inUse hs.listable hl hf) ha
  | stored hp hd' hl he hc' hpass hf ha =>
    obtain rfl := Clock.time.inj (hc.symm.trans hc')
    exact (hp.versionsDistinct hs hd).addsFile (hpass.isStamp hm hy)
      (hp.not_inUse hs.listable hl hf) ha

theorem Written.isUsable (h : Written store artifact flaw w w' result) (hs : store.IsUsable w) :
    store.IsUsable w' := by
  refine ⟨(isListable_iff h.directory h.within).2 hs.listable, ?_⟩
  rcases hs.there with ⟨place, hl⟩ | hs
  · rw [← h.directory] at hl
    exact .inl ⟨place, hl.within h.within⟩
  · rw [IsPlain, ← h.directory] at hs
    exact .inr hs

/-- A call for an assembled artifact, with what keeps its source from being encoded, if anything
does, and with what the clock shows then. -/
structure Call where
  artifact : Artifact
  flaw : Option Flaw
  moment : Moment
  assembled : ∃ (body : List Block) (name : Option String) (frameworkVersion : String),
    (Artifact.assemble body name frameworkVersion).value = some artifact
  shown : ∃ year month day hour minute second : Int,
    Moment.make year month day hour minute second = .ok moment
  fourDigits : 1000 ≤ moment.date.year

theorem Call.plainSlug (call : Call) : '/' ∉ call.artifact.slug.toList := by
  obtain ⟨body, name, frameworkVersion, ha⟩ := call.assembled
  rw [Artifact.value_assemble, Option.ite_none_left_eq_some] at ha
  obtain ⟨-, ha⟩ := ha
  rw [← Option.some.inj ha]
  exact Text.notMem_of_forall (fun _ => Slug.isSlugChar_of_mem_ofName) rfl

theorem Call.proper (call : Call) : call.moment.Proper := by
  obtain ⟨year, month, day, hour, minute, second, hm⟩ := call.shown
  exact Moment.proper_of_make hm

def Call.run (store : MigrationStore) (w : Workspace) (call : Call) :
    Except Failure StoredMigration × Workspace :=
  (store.write call.artifact call.flaw).run.run { w with clock := .time call.moment }

def runAll (store : MigrationStore) (w : Workspace) (calls : List Call) : Workspace :=
  calls.foldl (fun w call => (call.run store w).2) w

theorem Call.written {call : Call} (h : call.run store w = (result, w')) :
    Written store call.artifact call.flaw { w with clock := .time call.moment } w' result :=
  MigrationStore.written call.plainSlug h

theorem runAll_frame (store : MigrationStore) (w : Workspace) (calls : List Call) :
    (store.runAll w calls).directory = w.directory ∧ w.tree.Within (store.runAll w calls).tree := by
  induction calls generalizing w with
  | nil => exact ⟨rfl, .refl _⟩
  | cons call calls ih =>
    have hw := Call.written (Eq.refl (call.run store w))
    obtain ⟨hd, ht⟩ := ih (call.run store w).2
    exact ⟨hd.trans hw.directory, hw.within.trans ht⟩

theorem runAll_versionsDistinct (calls : List Call) (hs : store.IsUsable w) :
    store.IsUsable (store.runAll w calls) ∧
      ∀ place, VersionsDistinct w.tree place →
        VersionsDistinct (store.runAll w calls).tree place := by
  induction calls generalizing w with
  | nil => exact ⟨hs, fun _ hd => hd⟩
  | cons call calls ih =>
    have hw := Call.written (Eq.refl (call.run store w))
    have hs := hs.at (.time call.moment)
    obtain ⟨hu, hrest⟩ := ih (hw.isUsable hs)
    exact ⟨hu, fun place hd =>
      hrest place (hw.versionsDistinct rfl call.proper call.fourDigits hs hd)⟩

/-- One file is added, right in the directory of a store, under a version of fourteen digits that no
name there had, provided that the names there may be listed. -/
structure AddsMigration (store : MigrationStore) (w : Workspace) (place : List String)
    (version : List Char) (slug : String) (content : List UInt8) (t t' : FileTree) : Prop where
  leads : t'.Leads w.directory store.directory place
  stamp : IsStamp version
  fresh : store.IsListable w → ∀ name ∈ t.namesIn place, hasVersion version name.toList = false
  free : t.get? (place ++ [fileName version slug]) = none
  files : ∀ p bytes, t'.get? p = some (.file bytes) ↔ t.get? p = some (.file bytes) ∨
    p = place ++ [fileName version slug] ∧ bytes = content

/-- What is added does not depend on what was done before in the same directory. -/
theorem AddsMigration.since {t t' : FileTree} {u : Workspace}
    (h : AddsMigration store u place version slug content t t') (hd : u.directory = w.directory)
    (ht : w.tree.Within u.tree) : AddsMigration store w place version slug content t t' where
  leads := hd ▸ h.leads
  stamp := h.stamp
  fresh := fun hs => h.fresh ((isListable_iff hd ht).2 hs)
  free := h.free
  files := h.files

theorem Prepared.addsMigration {u : Workspace} (h : Prepared store w u)
    (hl : u.tree.Leads w.directory store.directory place) (hv : IsStamp version)
    (hf : ¬ Seen u.tree place version)
    (ha : u.tree.AddsFile (place ++ [fileName version slug]) content t') :
    AddsMigration store w place version slug content w.tree t' where
  leads := hl.within ha.within
  stamp := hv
  fresh := by
    intro hs name hname
    rw [Bool.eq_false_iff]
    exact fun hv => h.not_inUse hs hl hf ⟨name, h.added.within.namesIn_subset place hname, hv⟩
  free := h.added.within.eq_none ha.free
  files := by
    intro p bytes
    rw [ha.file_iff, h.added.file_iff]

section Cases

variable (hc : w.clock = .time moment) (hm : moment.Proper) (hy : 1000 ≤ moment.date.year)

include hc hm hy

theorem Written.stored_cases (h : Written store artifact flaw w w' (.ok migration)) :
    flaw = none ∧ ∃ place version, migration = store.bound version artifact ∧
      AddsMigration store w place version artifact.slug artifact.content.toUTF8.toList
        w.tree w'.tree := by
  cases h with
  | stored hp hd hl he hc' hpass hf ha =>
    obtain rfl := Clock.time.inj (hc.symm.trans hc')
    exact ⟨he, _, _, rfl, hp.addsMigration hl (hpass.isStamp hm hy) hf ha⟩

theorem Written.broken_cases (h : Written store artifact flaw w w' (.error (.notEncodable f))) :
    flaw = some f ∧ ∃ place version,
      AddsMigration store w place version artifact.slug [] w.tree w'.tree := by
  cases h with
  | failed hp hd ht hk => exact absurd rfl (hk.encodable f)
  | broken hp hd hl he hc' hpass hf ha =>
    obtain rfl := Clock.time.inj (hc.symm.trans hc')
    exact ⟨he, _, _, hp.addsMigration hl (hpass.isStamp hm hy) hf ha⟩

end Cases

/-- Whatever was called before, a call leaves every file as it is. If it succeeds, it adds one file,
under a version of fourteen digits that no name in the directory had, if these may be listed; if it
fails, it adds none, unless its source cannot be encoded: then it adds an empty one. So versions
that are distinct at the start of a run stay distinct. A directory that is yet to be made must not be
reached through a name of a migration: that name would come into being with it. -/
theorem runAll_then_call {calls : List Call} {call : Call}
    (hb : store.runAll w calls = before) (h : call.run store before = (result, after)) :
    (∀ place bytes, before.tree.get? place = some (.file bytes) →
      after.tree.get? place = some (.file bytes)) ∧
    (∀ migration, result = .ok migration → call.flaw = none ∧ ∃ place version,
      migration = ⟨.ofList version, ⟨store.directory.slashes,
        store.directory.names ++ [fileName version call.artifact.slug]⟩, call.artifact⟩ ∧
      AddsMigration store w place version call.artifact.slug
        call.artifact.content.toUTF8.toList before.tree after.tree) ∧
    (∀ f, result = .error (.notEncodable f) → call.flaw = some f ∧ ∃ place version,
      AddsMigration store w place version call.artifact.slug [] before.tree after.tree) ∧
    (∀ fault, result = .error fault → (∀ f, fault ≠ .notEncodable f) →
      ∀ p bytes, after.tree.get? p = some (.file bytes) ↔
        before.tree.get? p = some (.file bytes)) ∧
    (store.IsUsable w → ∀ place, VersionsDistinct w.tree place →
      VersionsDistinct before.tree place ∧ VersionsDistinct after.tree place) := by
  have hw := Call.written h
  obtain ⟨hdir, hwithin⟩ := hb ▸ store.runAll_frame w calls
  refine ⟨fun place bytes => hw.within.entries place _, ?_, ?_, ?_, ?_⟩
  · rintro migration rfl
    obtain ⟨he, place, version, hm, ha⟩ := hw.stored_cases rfl call.proper call.fourDigits
    exact ⟨he, place, version, hm, ha.since hdir hwithin⟩
  · rintro f rfl
    obtain ⟨he, place, version, ha⟩ := hw.broken_cases rfl call.proper call.fourDigits
    exact ⟨he, place, version, ha.since hdir hwithin⟩
  · rintro fault rfl hk
    exact hw.file_iff_of_failed hk
  · intro hs place hd
    obtain ⟨hu, hrun⟩ := store.runAll_versionsDistinct calls hs
    rw [hb] at hu hrun
    exact ⟨hrun place hd,
      hw.versionsDistinct rfl call.proper call.fourDigits (hu.at _) (hrun place hd)⟩

end SchemaPlan.MigrationStore

namespace SchemaPlan

def handWritten : Workspace where
  tree := { entries := [(["m"], .directory), (["m", "20240229120000_by_hand.rb"], .file [])] }
  directory := []
  assignments := []
  clock := .time ⟨⟨2024, 2, 29⟩, 12, 0, 0⟩

def callAtNoon (name : String) : MigrationStore.Call where
  artifact := .ofBody [⟨["drop_table :t"], false⟩] (Artifact.nameOrDefault (some name)) "8.0"
  flaw := none
  moment := ⟨⟨2024, 2, 29⟩, 12, 0, 0⟩
  assembled := ⟨[⟨["drop_table :t"], false⟩], some name, "8.0", rfl⟩
  shown := ⟨2024, 2, 29, 12, 0, 0, rfl⟩
  fourDigits := by decide

theorem callAtNoon_versions : ∃ migration after,
    (callAtNoon "Drop posts").run ⟨⟨0, ["m"]⟩⟩
      (MigrationStore.runAll ⟨⟨0, ["m"]⟩⟩ handWritten [callAtNoon "Drop users"]) =
        (.ok migration, after) ∧
    migration.version = "20240229120002" ∧ MigrationStore.VersionsDistinct after.tree ["m"] := by
  have hv : ((callAtNoon "Drop posts").run ⟨⟨0, ["m"]⟩⟩
      (MigrationStore.runAll ⟨⟨0, ["m"]⟩⟩ handWritten
        [callAtNoon "Drop users"])).1.toOption.map (·.version) =
      some "20240229120002" := by decide +kernel
  cases hr : (callAtNoon "Drop posts").run ⟨⟨0, ["m"]⟩⟩
      (MigrationStore.runAll ⟨⟨0, ["m"]⟩⟩ handWritten [callAtNoon "Drop users"]) with
  | mk result after =>
    rw [hr] at hv
    cases result with
    | error fault => cases hv
    | ok migration =>
      obtain ⟨-, -, -, -, hd⟩ := MigrationStore.runAll_then_call rfl hr
      have hs : MigrationStore.IsUsable ⟨⟨0, ["m"]⟩⟩ handWritten :=
        ⟨rfl, .inl ⟨["m"], rfl, rfl⟩⟩
      refine ⟨migration, after, rfl, Option.some.inj hv, (hd hs ["m"] ?_).2⟩
      intro version _ m hm n hn _ _
      have hnames : handWritten.tree.namesIn ["m"] = ["20240229120000_by_hand.rb"] := rfl
      rw [hnames] at hm hn
      exact (List.mem_singleton.1 hm).trans (List.mem_singleton.1 hn).symm

/-- A mapping to half of a surrogate pair. -/
def halfMapping : TypeMapping := .ofRules [("citext", ⟨⟨[.half 0xd83d]⟩, []⟩)]

def halfColumn : Statement := ⟨1, "ALTER TABLE users ADD COLUMN nick citext", Nat.one_pos⟩

def halfAtNoon : MigrationStore.Call where
  artifact := .ofBody [⟨["add_column :users, :nick, :\"\ufffd\""], false⟩] "schema_update" "8.0"
  flaw := some ⟨("class SchemaUpdate < ActiveRecord::Migration[8.0]\n  def up\n" ++
    "    add_column :users, :nick, :\"").toList, 0xd83d, 0⟩
  moment := ⟨⟨2024, 2, 29⟩, 12, 0, 0⟩
  assembled := ⟨[⟨["add_column :users, :nick, :\"\ufffd\""], false⟩], none, "8.0", rfl⟩
  shown := ⟨2024, 2, 29, 12, 0, 0, rfl⟩
  fourDigits := by decide

/-- The call is for what is compiled; it fails, and still leaves a file. -/
theorem halfAtNoon_adds : ∃ flaw,
    (compile halfMapping "8.0" [halfColumn]).run.value.toOption.map
      (fun compilation => (compilation.artifact, compilation.flaw)) =
        some (some halfAtNoon.artifact, some flaw) ∧
    (halfAtNoon.run ⟨⟨0, ["m"]⟩⟩ handWritten).1 = .error (.notEncodable flaw) ∧
    (halfAtNoon.run ⟨⟨0, ["m"]⟩⟩ handWritten).2.tree.get?
      ["m", "20240229120001_schema_update.rb"] = some (.file []) ∧
    handWritten.tree.get? ["m", "20240229120001_schema_update.rb"] = none := by
  refine ⟨⟨("class SchemaUpdate < ActiveRecord::Migration[8.0]\n  def up\n" ++
    "    add_column :users, :nick, :\"").toList, 0xd83d, 0⟩, ?_, ?_, ?_, ?_⟩
  all_goals decide +kernel

end SchemaPlan
