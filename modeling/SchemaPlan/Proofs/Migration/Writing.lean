import SchemaPlan.Migration.Store
import SchemaPlan.Proofs.Calendar
import SchemaPlan.Proofs.FileTree
import SchemaPlan.Proofs.Session

namespace SchemaPlan.MigrationStore

variable {store : MigrationStore} {artifact : Artifact} {flaw : Option Flaw} {w w' : Workspace}
  {t t' : FileTree}

def fileName (version : List Char) (slug : String) : String :=
  .ofList version ++ "_" ++ slug ++ .ofList ending

theorem toList_fileName (version : List Char) (slug : String) :
    (fileName version slug).toList = version ++ '_' :: (slug.toList ++ ending) := by
  simp [fileName]

theorem underscore_mem_fileName (version : List Char) (slug : String) :
    '_' ∈ (fileName version slug).toList := by
  simp [toList_fileName]

theorem fileName_ne_dots (version : List Char) (slug : String) :
    fileName version slug ≠ ".." := by
  intro h
  have hm := underscore_mem_fileName version slug
  rw [h] at hm
  revert hm
  decide

theorem pathFor_eq (hv : '/' ∉ version) (hs : '/' ∉ slug.toList) :
    store.pathFor (.ofList version) slug =
      ⟨store.directory.slashes, store.directory.names ++ [fileName version slug]⟩ := by
  have hf := toList_fileName version slug
  have hu := underscore_mem_fileName version slug
  have hp : Path.ofString (fileName version slug) = ⟨0, [fileName version slug]⟩ := by
    apply Path.ofString_name
    · rw [hf]
      intro hm
      rcases List.mem_append.1 hm with hm | hm
      · exact hv hm
      · rcases List.mem_append.1 (List.mem_of_ne_of_mem (by decide) hm) with hm | hm
        · exact hs hm
        · exact absurd hm (by decide)
    · exact List.ne_nil_of_mem hu
    · intro hd
      rw [hd] at hu
      exact absurd hu (by decide)
  rw [pathFor]
  change (Path.ofString (fileName version slug)).within store.directory = _
  rw [hp]
  rfl

theorem hasVersion_fileName_self (version : List Char) (slug : String) :
    hasVersion version (fileName version slug).toList = true := by
  rw [toList_fileName]
  simp [hasVersion]

/-- Some name in a directory is that of a migration of a version. -/
def InUse (t : FileTree) (place : List String) (version : List Char) : Prop :=
  ∃ name ∈ t.namesIn place, hasVersion version name.toList = true

theorem InUse.within (h : InUse t place version) (ht : t.Within t') : InUse t' place version := by
  obtain ⟨name, hn, hv⟩ := h
  exact ⟨name, ht.namesIn_subset place hn, hv⟩

/-- A migration of a version can be seen in a directory: a name there is that of one, and the names
there may be listed. -/
def Seen (t : FileTree) (place : List String) (version : List Char) : Prop :=
  t.allows place .read = true ∧ InUse t place version

theorem isTaken_iff (hl : w.tree.Leads w.directory store.directory place) :
    store.isTaken w version = true ↔ Seen w.tree place version := by
  rw [isTaken, hl.list, Seen, InUse]
  cases w.tree.allows place .read with
  | false => simp
  | true => simp [List.any_eq_true]

/-- A version is passed over: a migration of it can be seen, or its file is there already. -/
def Busy (store : MigrationStore) (slug : String) (t : FileTree) (directory place : List String)
    (version : List Char) : Prop :=
  Seen t place version ∨
    t.create directory (store.pathFor (.ofList version) slug) [] = .error .alreadyThere

theorem Busy.inUse {directory : List String} {slug : String}
    (h : Busy store slug t directory place version)
    (hl : t.Leads directory store.directory place) (hv : '/' ∉ version) (hs : '/' ∉ slug.toList) :
    InUse t place version := by
  rcases h with h | h
  · exact h.2
  · rw [pathFor_eq hv hs] at h
    exact ⟨_, hl.mem_of_alreadyThere (fileName_ne_dots _ _) h, hasVersion_fileName_self _ _⟩

def bound (store : MigrationStore) (version : List Char) (artifact : Artifact) : StoredMigration :=
  ⟨.ofList version, ⟨store.directory.slashes,
    store.directory.names ++ [fileName version artifact.slug]⟩, artifact⟩

/-- How a try of a version in a directory may end: without a change to the tree, or with the file of
a version that was not seen. A source that cannot be encoded leaves that file empty. -/
inductive Tried (store : MigrationStore) (artifact : Artifact) (flaw : Option Flaw)
    (place : List String) (version : List Char) (w w' : Workspace) :
    Except Failure (Option StoredMigration) → Prop
  | busy (hd : w'.directory = w.directory) (ht : w'.tree = w.tree)
    (hb : Busy store artifact.slug w.tree w.directory place version) :
    Tried store artifact flaw place version w w' (.ok none)
  | failed (hd : w'.directory = w.directory) (ht : w'.tree = w.tree)
    (hk : fault.Plain) :
    Tried store artifact flaw place version w w' (.error fault)
  | broken (hd : w'.directory = w.directory) (he : flaw = some f)
    (hf : ¬ Seen w.tree place version)
    (ha : w.tree.AddsFile (place ++ [fileName version artifact.slug]) [] w'.tree) :
    Tried store artifact flaw place version w w' (.error (.notEncodable f))
  | stored (hd : w'.directory = w.directory) (he : flaw = none)
    (hf : ¬ Seen w.tree place version)
    (ha : w.tree.AddsFile (place ++ [fileName version artifact.slug])
      artifact.content.toUTF8.toList w'.tree) :
    Tried store artifact flaw place version w w' (.ok (some (store.bound version artifact)))

theorem slash_not_mem_stamp (moment : Moment) : '/' ∉ moment.stamp :=
  Text.notMem_of_forall (fun _ => Moment.isDigit_of_mem_stamp) rfl

theorem tried {moment : Moment} (hl : w.tree.Leads w.directory store.directory place)
    (hs : '/' ∉ artifact.slug.toList)
    (h : (store.tryVersion artifact moment flaw).run.run w = (result, w')) :
    Tried store artifact flaw place moment.stamp w w' result := by
  have hv := slash_not_mem_stamp moment
  have hn := fileName_ne_dots moment.stamp artifact.slug
  simp only [tryVersion, Session.run_get_bind] at h
  split at h
  · next ht =>
    cases h
    exact .busy rfl rfl (.inl ((isTaken_iff hl).1 ht))
  · next ht =>
    rw [isTaken_iff hl] at ht
    split at h
    · next tree hc =>
      rw [pathFor_eq hv hs] at hc
      have ha := hl.create_eq_ok hn hc
      cases flaw with
      | none =>
        cases h
        rw [pathFor_eq hv hs]
        exact .stored rfl rfl ht ha
      | some flaw =>
        cases h
        exact .broken rfl rfl ht ha
    · next hc =>
      cases h
      exact .busy rfl rfl (.inr (FileTree.create_alreadyThere hc _))
    · cases h
      exact .failed rfl rfl ⟨nofun, nofun⟩
    · cases h
      exact .failed rfl rfl ⟨nofun, nofun⟩

/-- From one moment second by second to another, over versions that are in use. -/
inductive Passes (t : FileTree) (place : List String) : Moment → Moment → Prop
  | refl : Passes t place m m
  | step (hu : InUse t place m.stamp) (hn : m.next? = some m') (h : Passes t place m' m'') :
    Passes t place m m''

theorem Passes.proper {m m' : Moment} (h : Passes t place m m') (hm : m.Proper) :
    m'.Proper ∧ m.date.year ≤ m'.date.year := by
  induction h with
  | refl => exact ⟨hm, Nat.le_refl _⟩
  | step _ hn _ ih =>
    obtain ⟨hp, hy⟩ := hm.next hn
    obtain ⟨hp', hy'⟩ := ih hp
    exact ⟨hp', hy.trans hy'⟩

theorem Passes.isStamp {m m' : Moment} (h : Passes t place m m') (hm : m.Proper)
    (hy : 1000 ≤ m.date.year) : IsStamp m'.stamp := by
  obtain ⟨hp, hy'⟩ := h.proper hm
  exact hp.isStamp (hy.trans hy')

inductive Searched (store : MigrationStore) (artifact : Artifact) (flaw : Option Flaw)
    (place : List String) (moment : Moment) (w w' : Workspace) :
    Except Failure StoredMigration → Prop
  | failed (hd : w'.directory = w.directory) (ht : w'.tree = w.tree)
    (hk : fault.Plain) :
    Searched store artifact flaw place moment w w' (.error fault)
  | broken {m : Moment} (hd : w'.directory = w.directory) (he : flaw = some f)
    (hp : Passes w.tree place moment m) (hf : ¬ Seen w.tree place m.stamp)
    (ha : w.tree.AddsFile (place ++ [fileName m.stamp artifact.slug]) [] w'.tree) :
    Searched store artifact flaw place moment w w' (.error (.notEncodable f))
  | stored {m : Moment} (hd : w'.directory = w.directory) (he : flaw = none)
    (hp : Passes w.tree place moment m) (hf : ¬ Seen w.tree place m.stamp)
    (ha : w.tree.AddsFile (place ++ [fileName m.stamp artifact.slug])
      artifact.content.toUTF8.toList w'.tree) :
    Searched store artifact flaw place moment w w' (.ok (store.bound m.stamp artifact))

theorem Searched.of_inUse {u : Workspace} {m m' : Moment} (hd : u.directory = w.directory)
    (ht : u.tree = w.tree) (hu : InUse w.tree place m.stamp) (hn : m.next? = some m')
    (h : Searched store artifact flaw place m' u w' result) :
    Searched store artifact flaw place m w w' result := by
  cases h with
  | failed hd' ht' hk => exact .failed (hd'.trans hd) (ht'.trans ht) hk
  | broken hd' he hp hf ha =>
    rw [ht] at hp hf ha
    exact .broken (hd'.trans hd) he (.step hu hn hp) hf ha
  | stored hd' he hp hf ha =>
    rw [ht] at hp hf ha
    exact .stored (hd'.trans hd) he (.step hu hn hp) hf ha

theorem searched {attempts : Nat} {moment : Moment}
    (hl : w.tree.Leads w.directory store.directory place) (hs : '/' ∉ artifact.slug.toList)
    (h : (store.writeFrom artifact flaw attempts moment).run.run w = (result, w')) :
    Searched store artifact flaw place moment w w' result := by
  induction attempts generalizing moment w with
  | zero =>
    cases h
    exact .failed rfl rfl ⟨nofun, nofun⟩
  | succ attempts ih =>
    rw [writeFrom] at h
    cases hr : (store.tryVersion artifact moment flaw).run.run w with
    | mk tried u =>
      cases MigrationStore.tried hl hs hr with
      | failed hd ht hk =>
        rw [Session.run_bind_error hr] at h
        cases h
        exact .failed hd ht hk
      | broken hd he hf ha =>
        rw [Session.run_bind_error hr] at h
        cases h
        exact .broken hd he .refl hf ha
      | stored hd he hf ha =>
        rw [Session.run_bind_ok hr] at h
        cases h
        exact .stored hd he .refl hf ha
      | busy hd ht hb =>
        have hu := hb.inUse hl (slash_not_mem_stamp moment) hs
        rw [Session.run_bind_ok hr] at h
        cases hn : moment.next? with
        | none =>
          simp only [hn] at h
          cases h
          exact .failed hd ht ⟨nofun, nofun⟩
        | some next =>
          simp only [hn] at h
          rw [← hd, ← ht] at hl
          exact .of_inUse hd ht hu hn (ih hl h)

structure Prepared (store : MigrationStore) (w w' : Workspace) : Prop where
  directory : w'.directory = w.directory
  clock : w'.clock = w.clock
  added : FileTree.AddsDirectories (w.directory ++ store.directory.names) w.tree w'.tree
  kept : ∀ place, w.tree.Leads w.directory store.directory place → w'.tree = w.tree

theorem prepared (h : store.ensureDirectory.run.run w = (result, w')) :
    Prepared store w w' ∧
      (result = .ok () → ∃ place, w'.tree.Leads w.directory store.directory place) ∧
      ∀ fault, result = .error fault → fault.Plain := by
  simp only [ensureDirectory, Session.run_get_bind] at h
  cases he : w.tree.ensureDirectory w.directory store.directory with
  | mk tree rest =>
    obtain ⟨path, fault⟩ := rest
    obtain ⟨ha, hl⟩ := FileTree.ensureDirectory_cases he
    have hk : ∀ place, w.tree.Leads w.directory store.directory place → tree = w.tree := by
      intro place hp
      rw [FileTree.ensureDirectory_of_leads hp] at he
      cases he
      rfl
    rw [he] at h
    simp only at h
    split at h
    · cases h
      exact ⟨⟨rfl, rfl, ha, hk⟩, fun _ => hl rfl, nofun⟩
    all_goals
      cases h
      exact ⟨⟨rfl, rfl, ha, hk⟩, nofun, by rintro _ ⟨⟩; exact ⟨nofun, nofun⟩⟩

/-- How a call may end: with directories added on the way to the one of the store, and, if it
succeeds, with the file of a version that was not seen in that directory. A source that cannot be
encoded leaves that file empty. -/
inductive Written (store : MigrationStore) (artifact : Artifact) (flaw : Option Flaw)
    (w w' : Workspace) : Except Failure StoredMigration → Prop
  | failed {u : Workspace} (hp : Prepared store w u) (hd : w'.directory = w.directory)
    (ht : w'.tree = u.tree) (hk : fault.Plain) :
    Written store artifact flaw w w' (.error fault)
  | broken {u : Workspace} {m : Moment} (hp : Prepared store w u)
    (hd : w'.directory = w.directory) (hl : u.tree.Leads w.directory store.directory place)
    (he : flaw = some f) (hc : w.clock = .time moment) (hm : Passes u.tree place moment m)
    (hf : ¬ Seen u.tree place m.stamp)
    (ha : u.tree.AddsFile (place ++ [fileName m.stamp artifact.slug]) [] w'.tree) :
    Written store artifact flaw w w' (.error (.notEncodable f))
  | stored {u : Workspace} {m : Moment} (hp : Prepared store w u)
    (hd : w'.directory = w.directory) (hl : u.tree.Leads w.directory store.directory place)
    (he : flaw = none) (hc : w.clock = .time moment) (hm : Passes u.tree place moment m)
    (hf : ¬ Seen u.tree place m.stamp)
    (ha : u.tree.AddsFile (place ++ [fileName m.stamp artifact.slug])
      artifact.content.toUTF8.toList w'.tree) :
    Written store artifact flaw w w' (.ok (store.bound m.stamp artifact))

theorem written (hs : '/' ∉ artifact.slug.toList)
    (h : (store.write artifact flaw).run.run w = (result, w')) :
    Written store artifact flaw w w' result := by
  rw [write] at h
  cases hr : store.ensureDirectory.run.run w with
  | mk made u =>
    obtain ⟨hp, hl, hk⟩ := prepared hr
    cases made with
    | error fault =>
      rw [Session.run_bind_error hr] at h
      cases h
      exact .failed hp hp.directory rfl (hk fault rfl)
    | ok _ =>
      obtain ⟨place, hl⟩ := hl rfl
      have hlu := hp.directory ▸ hl
      rw [Session.run_bind_ok hr, Session.now, bind_assoc, Session.run_get_bind, hp.clock] at h
      cases hc : w.clock with
      | wrong fault =>
        rw [hc] at h
        cases h
        exact .failed hp hp.directory rfl ⟨nofun, nofun⟩
      | time moment =>
        rw [hc] at h
        cases searched hlu hs h with
        | failed hd ht hk => exact .failed hp (hd.trans hp.directory) ht hk
        | broken hd he hm hf ha => exact .broken hp (hd.trans hp.directory) hl he hc hm hf ha
        | stored hd he hm hf ha => exact .stored hp (hd.trans hp.directory) hl he hc hm hf ha

namespace Written

theorem directory (h : Written store artifact flaw w w' result) :
    w'.directory = w.directory := by
  cases h with
  | failed hp hd ht => exact hd
  | broken hp hd hl he hc hm hf ha => exact hd
  | stored hp hd hl he hc hm hf ha => exact hd

theorem within (h : Written store artifact flaw w w' result) : w.tree.Within w'.tree := by
  cases h with
  | failed hp hd ht =>
    rw [ht]
    exact hp.added.within
  | broken hp hd hl he hc hm hf ha => exact hp.added.within.trans ha.within
  | stored hp hd hl he hc hm hf ha => exact hp.added.within.trans ha.within

theorem file_iff_of_failed (h : Written store artifact flaw w w' (.error fault))
    (hk : ∀ flaw, fault ≠ .notEncodable flaw) (place : List String) (bytes : List UInt8) :
    w'.tree.get? place = some (.file bytes) ↔ w.tree.get? place = some (.file bytes) := by
  cases h with
  | failed hp hd ht =>
    rw [ht]
    exact hp.added.file_iff place bytes
  | @broken _ flaw => exact absurd rfl (hk flaw)

end Written

section Frame

open Session

variable {view : Workspace → α}

theorem write_closed {P : ∀ {α : Type}, Session α → Prop} (hP : Closed P)
    (hmade : P store.ensureDirectory) (hnow : P now)
    (htry : ∀ moment, P (store.tryVersion artifact moment flaw)) :
    P (store.write artifact flaw) := by
  have hsearch (attempts : Nat) (moment : Moment) :
      P (store.writeFrom artifact flaw attempts moment) := by
    induction attempts generalizing moment with
    | zero => exact hP.throw _
    | succ attempts ih =>
      refine hP.bind (htry moment) fun stored => ?_
      cases stored with
      | some migration => exact hP.pure _
      | none =>
        dsimp only
        split
        · exact hP.throw _
        · exact ih _
  exact hP.bind hmade fun _ => hP.bind hnow fun _ => hsearch _ _

theorem keeps_write (ht : ∀ (w : Workspace) (tree : FileTree), view { w with tree } = view w)
    (hl : ∀ (w : Workspace) (record : LogRecord), view (w.adding [.logged record]) = view w) :
    Keeps view (store.write artifact flaw) := by
  have hlog (severity : Severity) (message : String) : Keeps view (log severity message) :=
    fun w => hl w ⟨severity, message⟩
  refine write_closed (Keeps.closed view) (.get_bind fun w => ?_) (.get_bind fun w => ?_)
    fun moment => .get_bind fun w => ?_
  · dsimp only
    split
    all_goals exact ht w _
  · split <;> rfl
  · split
    · exact (hlog _ _).bind (fun _ => .pure _) w
    · split
      · cases flaw with
        | none => exact ((hlog _ _).bind (fun _ => .pure _) _).trans (ht w _)
        | some flaw => exact ht w _
      · exact (hlog _ _).bind (fun _ => .pure _) w
      · rfl
      · rfl

theorem shown_write (h : (store.write artifact flaw).run.run w = (result, w')) :
    w'.shown = w.shown := by
  have hk : Keeps Workspace.shown (store.write artifact flaw) :=
    keeps_write (fun _ _ => rfl) fun w record => w.shown_logged [record]
  have hw := hk w
  rwa [h] at hw

theorem blind_write : Blind (store.write artifact flaw) := by
  refine write_closed Blind.closed (.get_bind fun w events => ?_) (.get_bind fun w events => ?_)
    fun moment => .get_bind fun w events => ?_
  · simp only [Workspace.tree_after, Workspace.directory_after]
    split <;> rfl
  · rw [Workspace.clock_after]
    split <;> rfl
  · have htaken : store.isTaken (w.after events) moment.stamp = store.isTaken w moment.stamp := rfl
    simp only [htaken, Workspace.tree_after, Workspace.directory_after]
    split
    · exact (Blind.log _ _).bind (fun _ => .pure _) w events
    · split
      · next tree _ =>
        cases flaw with
        | none => exact (Blind.log _ _).bind (fun _ => .pure _) { w with tree } events
        | some flaw => rfl
      · exact (Blind.log _ _).bind (fun _ => .pure _) w events
      · rfl
      · rfl

end Frame

end SchemaPlan.MigrationStore
