import SchemaPlan.Proofs.Breaking

namespace SchemaPlan

open Session

namespace Path

theorem mem_text_iff {path : Path} {c : Char} (hc : c ≠ '/') (hd : c ≠ '.') :
    c ∈ path.text.toList ↔ ∃ name ∈ path.names, c ∈ name.toList := by
  have hnames (names : List String) :
      c ∈ ("/".intercalate names).toList ↔ ∃ name ∈ names, c ∈ name.toList := by
    rw [String.toList_intercalate]
    induction names with
    | nil => simp
    | cons name names ih =>
      cases names with
      | nil => simp
      | cons next names =>
        rw [List.map_cons, List.map_cons, List.intercalate_cons_cons, ← List.map_cons,
          List.mem_append, List.mem_append, ih, List.exists_mem_cons_iff]
        simp [hc]
  rw [text]
  split
  · next h => simp [h.2, hd]
  · rw [String.toList_append, List.mem_append, hnames, String.toList_ofList]
    have hs : c ∉ List.replicate path.slashes '/' := fun hm => hc (List.eq_of_mem_replicate hm)
    simp [hs]

end Path

namespace FileTree

variable {t : FileTree} {directory : List String} {path : Path}

/-- Whether a path cannot be given to any operation on files. -/
def Nul (path : Path) : Prop := '\x00' ∈ path.text.toList

theorem locate_eq_nul_iff (t : FileTree) (directory : List String) :
    t.locate directory path = .error .nulCharacter ↔ Nul path := by
  rw [locate, Nul]
  constructor
  · intro h
    split at h
    · next hn => simpa using hn
    · split at h
      · cases h
      · split at h
        · cases h
        · exact absurd h (walk_ne (by decide))
  · intro h
    rw [if_pos (by simpa using h)]

theorem locate_add_eq_nul_iff : (do t.add (← t.locate directory path) entry) =
    .error .nulCharacter ↔ Nul path := by
  rw [← locate_eq_nul_iff t directory]
  cases t.locate directory path with
  | error fault => exact ⟨fun h => by cases h; rfl, fun h => by cases h; rfl⟩
  | ok place =>
    refine ⟨fun h => ?_, fun h => ?_⟩
    · change t.add place entry = _ at h
      rw [add] at h
      split at h
      · cases h
      · split at h <;> cases h
    · cases h

theorem makeDirectory_eq_nul_iff (t : FileTree) (directory : List String) :
    t.makeDirectory directory path = .error .nulCharacter ↔ Nul path := locate_add_eq_nul_iff

theorem create_eq_nul_iff :
    t.create directory path content = .error .nulCharacter ↔ Nul path := locate_add_eq_nul_iff

theorem isDirectory_ne_nul : t.isDirectory directory path ≠ .error .nulCharacter := by
  rw [isDirectory, denotes]
  cases t.find? directory path with
  | ok entry =>
    intro h
    cases h
  | error fault =>
    intro h
    cases fault <;> cases h

theorem ensureLast_eq_nul_iff :
    (t.ensureLast directory path).2 = some .nulCharacter ↔ Nul path := by
  rw [← makeDirectory_eq_nul_iff t directory, ensureLast]
  cases t.makeDirectory directory path with
  | ok made =>
    refine ⟨fun h => ?_, fun h => ?_⟩
    · cases h
    · cases h
  | error fault =>
    cases hd : t.isDirectory directory path with
    | ok found => cases found <;> cases fault <;> simp
    | error denied =>
      have hn : denied ≠ .nulCharacter := by
        rintro rfl
        exact isDirectory_ne_nul hd
      cases fault <;> simp [hn]

theorem ensureAll_of_nul {outer : List Path} (h : Nul path) :
    t.ensureAll directory nesting path outer = (t, path, some .nulCharacter) := by
  have hm := (makeDirectory_eq_nul_iff t directory).2 h
  have hl : t.ensureLast directory path = (t, some .nulCharacter) := by
    rw [ensureLast, hm]
  rw [ensureAll_of_ne (by simp [hm]), hl]

theorem Ensures.ne_nul (h : Ensures directory t path outer result) (hp : ¬ Nul path)
    (ho : ∀ p ∈ outer, ¬ Nul p) : result.2.2 ≠ some .nulCharacter := by
  have last {t t' : FileTree} {path : Path} {fault : Option Fault} (hp : ¬ Nul path)
      (h : t.ensureLast directory path = (t', fault)) : fault ≠ some .nulCharacter := by
    rintro rfl
    exact hp (ensureLast_eq_nul_iff.1 (congrArg Prod.snd h))
  induction h with
  | last h => exact last hp h
  | tooDeep => nofun
  | behind _ h ih => exact last hp h
  | failed _ ih =>
    obtain ⟨hparent, ho⟩ := List.forall_mem_cons.1 ho
    exact ih hparent ho

theorem ensureDirectory_of_nul (h : Nul path) :
    t.ensureDirectory directory path = (t, path, some .nulCharacter) := ensureAll_of_nul h

theorem ensureDirectory_ne_nul (h : ¬ Nul path) :
    (t.ensureDirectory directory path).2.2 ≠ some .nulCharacter := by
  refine (ensures_ensureAll t directory maxNesting path _).ne_nul h fun p hp hn => h ?_
  obtain ⟨k, -, rfl⟩ := List.mem_map.1 hp
  rw [Nul, Path.mem_text_iff (by decide) (by decide)] at hn ⊢
  obtain ⟨name, hm, hc⟩ := hn
  exact ⟨name, List.mem_of_mem_take hm, hc⟩

theorem Leads.not_nul (h : t.Leads directory path place) : ¬ Nul path := by
  intro hn
  cases h.1.symm.trans ((locate_eq_nul_iff t directory).2 hn)

theorem not_nul_child {slashes : Nat} {names : List String} (h : ¬ Nul ⟨slashes, names⟩)
    (hn : '\x00' ∉ name.toList) : ¬ Nul ⟨slashes, names ++ [name]⟩ := by
  rw [Nul, Path.mem_text_iff (by decide) (by decide)] at h ⊢
  rintro ⟨other, hm, hc⟩
  rcases List.mem_append.1 hm with hm | hm
  · exact h ⟨other, hm, hc⟩
  · exact hn (List.mem_singleton.1 hm ▸ hc)

end FileTree

namespace Session

theorem run_now_wrong {w : Workspace} (hc : w.clock = .wrong fault) :
    now.run.run w = (.error (.clock fault), w) := by
  simp only [now, run_get_bind, hc]
  rfl

theorem run_now_time {w : Workspace} (hc : w.clock = .time moment) :
    now.run.run w = (.ok moment, w) := by
  simp only [now, run_get_bind, hc]
  rfl

end Session

namespace MigrationStore

/-- From one moment second by second to another, over so many versions that are passed over. -/
inductive Skips (store : MigrationStore) (slug : String) (t : FileTree)
    (directory place : List String) : Nat → Moment → Moment → Prop
  | refl : Skips store slug t directory place 0 m m
  | step (hb : Busy store slug t directory place m.stamp) (hn : m.next? = some m')
    (h : Skips store slug t directory place n m' m'') :
    Skips store slug t directory place (n + 1) m m''

/-- What ends a search at a moment: it is the last of the calendar, and its version is passed over,
or the file is made, but the source cannot be encoded. -/
inductive Halts (store : MigrationStore) (artifact : Artifact) (flaw : Option Flaw) (t : FileTree)
    (directory place : List String) (m : Moment) : Failure → Prop
  | calendar (hb : Busy store artifact.slug t directory place m.stamp) (hn : m.next? = none) :
    Halts store artifact flaw t directory place m .calendarEnded
  | encoding (hb : ¬ Busy store artifact.slug t directory place m.stamp)
    (hc : t.create directory (store.pathFor (.ofList m.stamp) artifact.slug) [] = .ok t')
    (hf : flaw = some f) : Halts store artifact flaw t directory place m (.notEncodable f)

/-- How a migration cannot be stored without a report being prepared for it. -/
inductive Unwritable (store : MigrationStore) (artifact : Artifact) (flaw : Option Flaw)
    (t : FileTree) (directory : List String) (clock : Clock) : Failure → Prop
  | nul (hp : FileTree.Nul store.directory) :
    Unwritable store artifact flaw t directory clock (.file store.directory.text .nulCharacter)
  | nested (hm : t.ensureDirectory directory store.directory = (made, path, some .nestedTooDeep)) :
    Unwritable store artifact flaw t directory clock (.file path.text .nestedTooDeep)
  | clock (hm : t.ensureDirectory directory store.directory = (made, path, none))
    (hc : clock = .wrong fault) :
    Unwritable store artifact flaw t directory clock (.clock fault)
  | search {failure : Failure}
    (hm : t.ensureDirectory directory store.directory = (made, path, none))
    (hl : made.Leads directory store.directory place) (hc : clock = .time moment)
    (hn : n < maxAttempts) (hs : Skips store artifact.slug made directory place n moment last)
    (hh : Halts store artifact flaw made directory place last failure) :
    Unwritable store artifact flaw t directory clock failure

variable {store : MigrationStore} {artifact : Artifact} {flaw : Option Flaw} {w : Workspace}
  {failure : Failure} {moment : Moment}

def HaltsWithin (store : MigrationStore) (artifact : Artifact) (flaw : Option Flaw) (t : FileTree)
    (directory place : List String) (attempts : Nat) (m : Moment) (failure : Failure) : Prop :=
  ∃ n last, n < attempts ∧ Skips store artifact.slug t directory place n m last ∧
    Halts store artifact flaw t directory place last failure

section HaltsWithin

variable {t : FileTree} {directory place : List String} {attempts : Nat}

theorem haltsWithin_of_free (hb : ¬ Busy store artifact.slug t directory place moment.stamp) :
    HaltsWithin store artifact flaw t directory place (attempts + 1) moment failure ↔
      Halts store artifact flaw t directory place moment failure := by
  constructor
  · rintro ⟨n, last, -, hskip, hh⟩
    cases hskip with
    | refl => exact hh
    | step hb' => exact absurd hb' hb
  · intro hh
    exact ⟨0, moment, Nat.succ_pos _, .refl, hh⟩

theorem haltsWithin_of_last (hb : Busy store artifact.slug t directory place moment.stamp)
    (hn : moment.next? = none) :
    HaltsWithin store artifact flaw t directory place (attempts + 1) moment failure ↔
      failure = .calendarEnded := by
  constructor
  · rintro ⟨n, last, -, hskip, hh⟩
    cases hskip with
    | step _ hn' _ => cases hn.symm.trans hn'
    | refl =>
      cases hh with
      | calendar => rfl
      | encoding hb' => exact absurd hb hb'
  · rintro rfl
    exact ⟨0, moment, Nat.succ_pos _, .refl, .calendar hb hn⟩

theorem haltsWithin_of_next (hb : Busy store artifact.slug t directory place moment.stamp)
    (hn : moment.next? = some next) :
    HaltsWithin store artifact flaw t directory place (attempts + 1) moment failure ↔
      HaltsWithin store artifact flaw t directory place attempts next failure := by
  constructor
  · rintro ⟨n, last, hlt, hskip, hh⟩
    cases hskip with
    | step _ hn' hskip =>
      obtain rfl := Option.some.inj (hn.symm.trans hn')
      exact ⟨_, last, Nat.lt_of_succ_lt_succ hlt, hskip, hh⟩
    | refl =>
      cases hh with
      | calendar _ hn' => cases hn.symm.trans hn'
      | encoding hb' => exact absurd hb hb'
  · rintro ⟨n, last, hlt, hskip, hh⟩
    exact ⟨n + 1, last, Nat.succ_lt_succ hlt, .step hb hn hskip, hh⟩

end HaltsWithin

section Search

variable {place : List String} (hl : w.tree.Leads w.directory store.directory place)

include hl

theorem not_nul_pathFor (hs : ∀ c ∈ artifact.slug.toList, Slug.isSlugChar c = true)
    (moment : Moment) :
    ¬ FileTree.Nul (store.pathFor (.ofList moment.stamp) artifact.slug) := by
  have hv0 : '\x00' ∉ moment.stamp :=
    Text.notMem_of_forall (fun _ => Moment.isDigit_of_mem_stamp) rfl
  have hs1 : '/' ∉ artifact.slug.toList := Text.notMem_of_forall hs rfl
  have hs0 : '\x00' ∉ artifact.slug.toList := Text.notMem_of_forall hs rfl
  have he : '\x00' ∉ ending := by decide
  rw [pathFor_eq (slash_not_mem_stamp moment) hs1]
  apply FileTree.not_nul_child hl.not_nul
  simp [toList_fileName, hv0, hs0, he]

theorem run_tryVersion (artifact : Artifact) (flaw : Option Flaw)
    (hb : Busy store artifact.slug w.tree w.directory place moment.stamp) :
    ∃ u, (store.tryVersion artifact moment flaw).run.run w = (.ok none, u) ∧
      u.tree = w.tree ∧ u.directory = w.directory := by
  rw [tryVersion, run_get_bind]
  by_cases ht : store.isTaken w moment.stamp = true
  · simp only [ht, if_true]
    exact ⟨_, rfl, rfl, rfl⟩
  · have hc := FileTree.create_alreadyThere
      (hb.resolve_left fun hs => ht ((isTaken_iff hl).2 hs))
      (if flaw.isNone then artifact.content.toUTF8.toList else [])
    simp only [if_neg ht, hc]
    exact ⟨_, rfl, rfl, rfl⟩

theorem breaks_tryVersion (hs : ∀ c ∈ artifact.slug.toList, Slug.isSlugChar c = true)
    (hb : ¬ Busy store artifact.slug w.tree w.directory place moment.stamp) :
    Breaks (store.tryVersion artifact moment flaw) w failure ↔
      Halts store artifact flaw w.tree w.directory place moment failure := by
  have ht : ¬ store.isTaken w moment.stamp = true := fun ht => hb (.inl ((isTaken_iff hl).1 ht))
  have hpath := not_nul_pathFor hl hs moment
  have hcalendar (hh : Halts store artifact none w.tree w.directory place moment failure) :
      False := by
    cases hh with
    | calendar hb' => exact hb hb'
    | encoding _ _ hf => cases hf
  rw [tryVersion, breaks_get_bind]
  simp only [if_neg ht]
  cases hc : w.tree.create w.directory (store.pathFor (.ofList moment.stamp) artifact.slug)
      (if flaw.isNone then artifact.content.toUTF8.toList else []) with
  | error fault =>
    refine iff_of_false ?_ fun hh => ?_
    · cases fault with
      | nulCharacter => exact absurd (FileTree.create_eq_nul_iff.1 hc) hpath
      | alreadyThere => exact absurd (.inr (FileTree.create_alreadyThere hc _)) hb
      | _ =>
        refine Sound.throw (fun hk => ?_) w failure
        cases hk
    · cases hh with
      | calendar hb' => exact hb hb'
      | encoding _ hc' hf =>
        subst hf
        cases hc.symm.trans hc'
  | ok tree =>
    cases flaw with
    | none => exact iff_of_false (not_breaks rfl) hcalendar
    | some flaw =>
      refine (breaks_iff rfl).trans ⟨?_, fun hh => ?_⟩
      · rintro ⟨rfl, -⟩
        exact .encoding hb hc rfl
      · cases hh with
        | calendar hb' => exact absurd hb' hb
        | encoding _ _ hf =>
          cases hf
          exact ⟨rfl, rfl⟩

theorem breaks_writeFrom (hs : ∀ c ∈ artifact.slug.toList, Slug.isSlugChar c = true)
    (attempts : Nat) (moment : Moment) :
    Breaks (store.writeFrom artifact flaw attempts moment) w failure ↔
      HaltsWithin store artifact flaw w.tree w.directory place attempts moment failure := by
  induction attempts generalizing w moment with
  | zero =>
    refine iff_of_false (Sound.throw ?_ w failure) ?_
    · intro hk
      cases hk
    · rintro ⟨n, last, hn, -⟩
      exact Nat.not_lt_zero n hn
  | succ attempts ih =>
    rw [writeFrom]
    by_cases hb : Busy store artifact.slug w.tree w.directory place moment.stamp
    · obtain ⟨u, hrun, htree, hdirectory⟩ := run_tryVersion hl artifact flaw hb
      rw [breaks_bind_ok hrun]
      cases hnext : moment.next? with
      | none =>
        rw [haltsWithin_of_last hb hnext]
        exact breaks_throw.trans (and_iff_left rfl)
      | some next =>
        have ih := ih (w := u) (by rwa [htree, hdirectory]) next
        rw [htree, hdirectory] at ih
        rw [haltsWithin_of_next hb hnext]
        exact ih
    · rw [haltsWithin_of_free hb, ← breaks_tryVersion hl hs hb]
      cases hr : (store.tryVersion artifact moment flaw).run.run w with
      | mk tried u =>
        cases tried with
        | error e => rw [breaks_bind_error hr, breaks_iff hr]
        | ok stored =>
          rw [breaks_bind_ok hr]
          refine iff_of_false ?_ (not_breaks hr)
          cases stored with
          | some migration => exact Sound.pure _ u failure
          | none =>
            have hslug : '/' ∉ artifact.slug.toList := Text.notMem_of_forall hs rfl
            cases MigrationStore.tried hl hslug hr with
            | busy _ _ hb' => exact absurd hb' hb

end Search

theorem run_ensureDirectory_ok
    (hm : w.tree.ensureDirectory w.directory store.directory = (made, path, none)) :
    ∃ u, store.ensureDirectory.run.run w = (.ok (), u) ∧
      u.tree = made ∧ u.directory = w.directory ∧ u.clock = w.clock := by
  refine ⟨{ w with tree := made }, ?_, rfl, rfl, rfl⟩
  simp only [ensureDirectory, run_get_bind, hm]
  rfl

def directoryFailure (store : MigrationStore) (path : Path) : FileTree.Fault → Failure
  | .nulCharacter => .file path.text .nulCharacter
  | .nestedTooDeep => .file path.text .nestedTooDeep
  | fault => .directoryNotMade store.directory.text path.text fault

theorem run_ensureDirectory_error
    (hm : w.tree.ensureDirectory w.directory store.directory = (made, path, some fault)) :
    store.ensureDirectory.run.run w =
      (.error (store.directoryFailure path fault), { w with tree := made }) := by
  simp only [ensureDirectory, run_get_bind, hm]
  cases fault <;> rfl

theorem breaks_ensureDirectory
    (hm : w.tree.ensureDirectory w.directory store.directory = (made, path, some fault)) :
    Breaks store.ensureDirectory w failure ↔
      FileTree.Nul store.directory ∧ failure = .file store.directory.text .nulCharacter ∨
      fault = .nestedTooDeep ∧ failure = .file path.text .nestedTooDeep := by
  rw [breaks_iff (run_ensureDirectory_error hm)]
  by_cases hp : FileTree.Nul store.directory
  · cases hm.symm.trans (FileTree.ensureDirectory_of_nul hp)
    rw [and_iff_right hp, or_iff_left (by nofun)]
    exact and_iff_left rfl
  · have hf : fault ≠ .nulCharacter := by
      rintro rfl
      exact FileTree.ensureDirectory_ne_nul hp (by rw [hm])
    rw [or_iff_right fun h => hp h.1]
    constructor
    · rintro ⟨rfl, hc⟩
      cases fault with
      | nulCharacter => exact absurd rfl hf
      | nestedTooDeep => exact ⟨rfl, rfl⟩
      | _ => cases hc
    · rintro ⟨rfl, rfl⟩
      exact ⟨rfl, rfl⟩

theorem unwritable_iff_of_fault {t : FileTree} {directory : List String} {clock : Clock}
    (hm : t.ensureDirectory directory store.directory = (made, path, some fault)) :
    store.Unwritable artifact flaw t directory clock failure ↔
      FileTree.Nul store.directory ∧ failure = .file store.directory.text .nulCharacter ∨
      fault = .nestedTooDeep ∧ failure = .file path.text .nestedTooDeep := by
  constructor
  · intro h
    cases h with
    | nul hp => exact .inl ⟨hp, rfl⟩
    | nested hm' =>
      cases hm.symm.trans hm'
      exact .inr ⟨rfl, rfl⟩
    | clock hm' => cases hm.symm.trans hm'
    | search hm' => cases hm.symm.trans hm'
  · rintro (⟨hp, rfl⟩ | ⟨rfl, rfl⟩)
    · exact .nul hp
    · exact .nested hm

theorem unwritable_iff_of_made {t : FileTree} {directory place : List String} {clock : Clock}
    (hm : t.ensureDirectory directory store.directory = (made, path, none))
    (hl : made.Leads directory store.directory place) :
    store.Unwritable artifact flaw t directory clock failure ↔
      (∃ fault, clock = .wrong fault ∧ failure = .clock fault) ∨
      ∃ moment, clock = .time moment ∧
        HaltsWithin store artifact flaw made directory place maxAttempts moment failure := by
  constructor
  · intro h
    cases h with
    | nul hp => exact absurd hp hl.not_nul
    | nested hm' => cases hm.symm.trans hm'
    | clock _ hc => exact .inl ⟨_, hc, rfl⟩
    | search hm' hl' hc hn hskip hh =>
      cases hm.symm.trans hm'
      obtain rfl := hl.unique hl'
      exact .inr ⟨_, hc, _, _, hn, hskip, hh⟩
  · rintro (⟨fault, hc, rfl⟩ | ⟨moment, hc, n, last, hn, hskip, hh⟩)
    · exact .clock hm hc
    · exact .search hm hl hc hn hskip hh

theorem breaks_write (hs : ∀ c ∈ artifact.slug.toList, Slug.isSlugChar c = true) :
    Breaks (store.write artifact flaw) w failure ↔
      store.Unwritable artifact flaw w.tree w.directory w.clock failure := by
  rw [write]
  cases hm : w.tree.ensureDirectory w.directory store.directory with
  | mk made rest =>
    obtain ⟨path, fault⟩ := rest
    cases fault with
    | some fault =>
      have he := run_ensureDirectory_error hm
      rw [breaks_bind_error he, ← breaks_iff he, breaks_ensureDirectory hm,
        unwritable_iff_of_fault hm]
    | none =>
      obtain ⟨u, he, htree, hdirectory, hclock⟩ := run_ensureDirectory_ok hm
      obtain ⟨-, hleads⟩ := FileTree.ensureDirectory_cases hm
      obtain ⟨place, hl⟩ := hleads rfl
      rw [breaks_bind_ok he, unwritable_iff_of_made hm hl, ← hclock]
      cases hc : u.clock with
      | wrong fault =>
        rw [breaks_bind_error (run_now_wrong hc)]
        constructor
        · rintro ⟨rfl, -⟩
          exact .inl ⟨fault, rfl, rfl⟩
        · rintro (⟨_, ⟨⟩, rfl⟩ | ⟨_, ⟨⟩, -⟩)
          exact ⟨rfl, rfl⟩
      | time moment =>
        have hlu : u.tree.Leads u.directory store.directory place := by rwa [htree, hdirectory]
        rw [breaks_bind_ok (run_now_time hc), breaks_writeFrom hlu hs maxAttempts moment, htree,
          hdirectory]
        constructor
        · exact fun h => .inr ⟨moment, rfl, h⟩
        · rintro (⟨_, ⟨⟩, -⟩ | ⟨_, ⟨⟩, h⟩)
          exact h

end MigrationStore

end SchemaPlan
