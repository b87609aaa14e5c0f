import SchemaPlan.FileTree
import SchemaPlan.Proofs.Text.Lines

namespace SchemaPlan

/-- The place one name further on; two dots lead back. -/
def Path.step (place : List String) (name : String) : List String :=
  if name = ".." then place.dropLast else place ++ [name]

/-- The place that a path stands for, seen from a directory, whether anything is there or not. -/
def Path.place (path : Path) (directory : List String) : List String :=
  path.names.foldl step (if path.isAbsolute then [] else directory)

theorem Path.mem_foldl_step {names place : List String} {name : String}
    (h : name ∈ names.foldl step place) : name ∈ place ∨ name ∈ names := by
  induction names generalizing place with
  | nil => exact .inl h
  | cons first names ih =>
    rcases ih h with hp | hp
    · rw [step] at hp
      split at hp
      · exact .inl (List.dropLast_subset _ hp)
      · rcases List.mem_append.1 hp with hp | hp
        · exact .inl hp
        · exact .inr (List.mem_singleton.1 hp ▸ List.mem_cons_self)
    · exact .inr (List.mem_cons_of_mem _ hp)

theorem Path.mem_place {path : Path} {name : String} (h : name ∈ path.place directory) :
    name ∈ directory ∨ name ∈ path.names := by
  rcases mem_foldl_step h with hp | hp
  · split at hp
    · cases hp
    · exact .inl hp
  · exact .inr hp

namespace FileTree

variable {t t' : FileTree}

theorem get?_of_entries (ht : t'.entries = t.entries ++ made) (place : List String) :
    t'.get? place = (t.get? place).or (if place = [] then none else made.lookup place) := by
  rw [get?, get?, ht]
  split
  · rfl
  · exact List.lookup_append

/-- All that is in a tree is in the other one too, and the same may be done there. -/
structure Within (t t' : FileTree) : Prop where
  entries : ∀ place entry, t.get? place = some entry → t'.get? place = some entry
  denied : t'.denied = t.denied

theorem Within.refl (t : FileTree) : t.Within t := ⟨fun _ _ he => he, rfl⟩

theorem Within.trans (h : t.Within t') (h' : t'.Within t'') : t.Within t'' :=
  ⟨fun place entry he => h'.entries place entry (h.entries place entry he),
    h'.denied.trans h.denied⟩

theorem allows_of_denied (h : t'.denied = t.denied) (place : List String) (access : Access) :
    t'.allows place access = t.allows place access := by
  rw [allows, allows, h]

theorem Within.allows (h : t.Within t') (place : List String) (access : Access) :
    t'.allows place access = t.allows place access := allows_of_denied h.denied place access

theorem within_of_entries (ht : t'.entries = t.entries ++ made) (hd : t'.denied = t.denied) :
    t.Within t' := by
  refine ⟨fun place entry h => ?_, hd⟩
  rw [get?_of_entries ht, h, Option.some_or]

theorem Within.eq_none (h : t.Within t') (hn : t'.get? place = none) : t.get? place = none := by
  cases hg : t.get? place with
  | none => rfl
  | some entry => rw [h.entries _ _ hg] at hn; cases hn

theorem walk_cons_eq_ok : t.walk place (name :: names) = .ok target ↔
    t.get? place = some .directory ∧ t.allows place .search = true ∧
      (name ≠ ".." → name.utf8ByteSize ≤ maxNameBytes) ∧
      t.walk (Path.step place name) names = .ok target := by
  rw [walk, Path.step]
  cases hg : t.get? place with
  | none => simp
  | some entry =>
    cases entry with
    | file content => simp
    | directory =>
      cases ha : t.allows place .search with
      | false => simp
      | true =>
        by_cases hn : name = ".."
        · simp [hn]
        · by_cases hs : name.utf8ByteSize > maxNameBytes
          · simp [hn, hs, Nat.not_le.2 hs]
          · simp [hn, hs, Nat.le_of_not_lt hs]

theorem Within.walk (h : t.Within t') (hw : t.walk place names = .ok target) :
    t'.walk place names = .ok target := by
  induction names generalizing place with
  | nil => exact hw
  | cons name names ih =>
    obtain ⟨hd, ha, hs, hw⟩ := walk_cons_eq_ok.1 hw
    exact walk_cons_eq_ok.2 ⟨h.entries _ _ hd, (h.allows ..).trans ha, hs, ih hw⟩

theorem locate_eq_ok : t.locate directory path = .ok place ↔
    '\x00' ∉ path.text.toList ∧ path.text.utf8ByteSize ≤ maxPathBytes ∧
      (path.names = [] → path.isAbsolute = false → t.allows directory .search = true) ∧
      t.walk (if path.isAbsolute then [] else directory) path.names = .ok place := by
  rw [locate]
  by_cases hn : '\x00' ∈ path.text.toList
  · simp [hn]
  · by_cases hs : path.text.utf8ByteSize > maxPathBytes
    · simp [hn, hs, Nat.not_le.2 hs]
    · by_cases hd : path.names = [] ∧ !path.isAbsolute ∧ !t.allows directory .search
      · obtain ⟨he, hr, ha⟩ := hd
        rw [Bool.not_eq_true'] at hr ha
        simp [hn, hs, he, hr, ha]
      · have ha (he : path.names = []) (hr : path.isAbsolute = false) :
            t.allows directory .search = true := by
          by_contra ha
          exact hd ⟨he, by simp [hr], by simpa using ha⟩
        simp only [List.contains_eq_mem, hn, decide_false, Bool.false_eq_true, if_false, if_neg hs,
          if_neg hd, not_false_eq_true, true_and]
        exact ⟨fun h => ⟨Nat.le_of_not_lt hs, ha, h⟩, fun h => h.2.2⟩

theorem Within.locate (h : t.Within t') (hl : t.locate directory path = .ok place) :
    t'.locate directory path = .ok place := by
  obtain ⟨hn, hs, hd, hw⟩ := locate_eq_ok.1 hl
  exact locate_eq_ok.2 ⟨hn, hs, fun he hr => (h.allows ..).trans (hd he hr), h.walk hw⟩

theorem eq_foldl_of_walk (h : t.walk place names = .ok target) :
    target = names.foldl Path.step place := by
  induction names generalizing place with
  | nil => exact (Except.ok.inj h).symm
  | cons name names ih => exact ih (walk_cons_eq_ok.1 h).2.2.2

theorem walk_append (names rest : List String) :
    t.walk place (names ++ rest) = t.walk place names >>= fun target => t.walk target rest := by
  induction names generalizing place with
  | nil => rfl
  | cons name names ih =>
    rw [List.cons_append, walk, walk]
    split
    · rfl
    · rfl
    · split
      · rfl
      · split
        · exact ih
        · split
          · rfl
          · exact ih

theorem walk_of_locate (h : t.locate directory path = .ok place) :
    t.walk (if path.isAbsolute then [] else directory) path.names = .ok place :=
  (locate_eq_ok.1 h).2.2.2

theorem eq_place_of_locate (h : t.locate directory path = .ok place) :
    place = path.place directory := eq_foldl_of_walk (walk_of_locate h)

def Leads (t : FileTree) (directory : List String) (path : Path) (place : List String) : Prop :=
  t.locate directory path = .ok place ∧ t.get? place = some .directory

theorem Leads.within (hl : t.Leads directory path place) (h : t.Within t') :
    t'.Leads directory path place :=
  ⟨h.locate hl.1, h.entries _ _ hl.2⟩

theorem Leads.unique (h : t.Leads directory path place) (h' : t.Leads directory path place') :
    place = place' :=
  Except.ok.inj (h.1.symm.trans h'.1)

theorem list_of_locate (h : t.locate directory path = .ok place) :
    t.list directory path =
      match t.get? place with
      | some .directory =>
        if t.allows place .read then .ok (t.namesIn place) else .error .accessDenied
      | some (.file _) => .error .notADirectory
      | none => .error .notFound := by
  rw [FileTree.list, h]
  rfl

theorem Leads.list (h : t.Leads directory path place) :
    t.list directory path =
      if t.allows place .read then .ok (t.namesIn place) else .error .accessDenied := by
  rw [list_of_locate h.1, h.2]

theorem list_eq_ok : t.list directory path = .ok names ↔
    ∃ place, t.Leads directory path place ∧ t.allows place .read = true ∧
      names = t.namesIn place := by
  constructor
  · intro h
    cases hl : t.locate directory path with
    | error fault =>
      rw [FileTree.list, hl] at h
      cases h
    | ok place =>
      rw [list_of_locate hl] at h
      split at h
      · next hd =>
        split at h
        · next ha => exact ⟨place, ⟨hl, hd⟩, ha, (Except.ok.inj h).symm⟩
        · cases h
      · cases h
      · cases h
  · rintro ⟨place, hl, ha, rfl⟩
    rw [hl.list, if_pos ha]

/-- Only directories were added, and only the given names stand on the way to them. -/
structure AddsDirectories (names : List String) (t t' : FileTree) : Prop where
  made : ∃ made, t'.entries = t.entries ++ made ∧
    ∀ e ∈ made, e.2 = .directory ∧ ∀ name ∈ e.1, name ∈ names
  denied : t'.denied = t.denied

theorem AddsDirectories.refl (names : List String) (t : FileTree) : AddsDirectories names t t :=
  ⟨⟨[], (List.append_nil _).symm, fun _ h => absurd h List.not_mem_nil⟩, rfl⟩

theorem AddsDirectories.trans (h : AddsDirectories names t t') (h' : AddsDirectories names t' t'') :
    AddsDirectories names t t'' := by
  obtain ⟨made, ht, hm⟩ := h.made
  obtain ⟨made', ht', hm'⟩ := h'.made
  refine ⟨⟨made ++ made', by rw [ht', ht, List.append_assoc], fun e he => ?_⟩,
    h'.denied.trans h.denied⟩
  rcases List.mem_append.1 he with he | he
  · exact hm e he
  · exact hm' e he

theorem AddsDirectories.within (h : AddsDirectories names t t') : t.Within t' := by
  obtain ⟨made, ht, -⟩ := h.made
  exact within_of_entries ht h.denied

structure Adds (t : FileTree) (place : List String) (entry : Entry) (t' : FileTree) : Prop where
  free : t.get? place = none
  entries : t'.entries = t.entries ++ [(place, entry)]
  denied : t'.denied = t.denied

theorem Adds.within (h : t.Adds place entry t') : t.Within t' :=
  within_of_entries h.entries h.denied

theorem adds_of_add (h : t.add place entry = .ok t') : t.Adds place entry t' := by
  rw [add] at h
  split at h
  · cases h
  · next hn =>
    split at h
    · cases h
      exact ⟨hn, rfl, rfl⟩
    · cases h

theorem add_eq_alreadyThere :
    t.add place entry = .error .alreadyThere ↔ ∃ found, t.get? place = some found := by
  rw [add]
  cases hg : t.get? place with
  | some found => simp
  | none => cases t.allows place.dropLast .add <;> simp

theorem locate_add_eq_ok
    (h : (t.locate directory path >>= fun place => t.add place entry) = .ok t') :
    ∃ place, t.locate directory path = .ok place ∧ t.Adds place entry t' := by
  cases hl : t.locate directory path with
  | error fault => rw [hl] at h; cases h
  | ok place =>
    rw [hl] at h
    exact ⟨place, rfl, adds_of_add h⟩

theorem find?_of_locate (h : t.locate directory path = .ok place) :
    t.find? directory path = .ok (t.get? place) := by
  rw [find?, h]
  rfl

theorem isDirectory_eq_ok (h : t.isDirectory directory path = .ok true) :
    ∃ place, t.Leads directory path place := by
  cases hl : t.locate directory path with
  | error fault =>
    rw [isDirectory, denotes, find?, hl] at h
    cases fault <;> cases h
  | ok place =>
    refine ⟨place, hl, ?_⟩
    rw [isDirectory, denotes, find?_of_locate hl] at h
    cases hg : t.get? place with
    | none => simp [hg] at h
    | some entry =>
      cases entry with
      | directory => rfl
      | file content => simp [hg] at h

theorem addsDirectories_of_makeDirectory (h : t.makeDirectory directory path = .ok t') :
    AddsDirectories (directory ++ path.names) t t' ∧ ∃ place, t'.Leads directory path place := by
  obtain ⟨place, hl, hn, ht, hd⟩ := locate_add_eq_ok h
  have ha : AddsDirectories (directory ++ path.names) t t' := by
    refine ⟨⟨[(place, .directory)], ht, fun e he => ?_⟩, hd⟩
    obtain rfl := List.mem_singleton.1 he
    obtain rfl := eq_place_of_locate hl
    exact ⟨rfl, fun name hm => List.mem_append.2 (Path.mem_place hm)⟩
  refine ⟨ha, place, ha.within.locate hl, ?_⟩
  have hp : place ≠ [] := by
    rintro rfl
    cases hn
  rw [get?_of_entries ht, hn, if_neg hp]
  simp

theorem ensureLast_cases (h : t.ensureLast directory path = (t', fault)) :
    AddsDirectories (directory ++ path.names) t t' ∧
      (fault = none → ∃ place, t'.Leads directory path place) := by
  rw [ensureLast] at h
  split at h
  · next hm =>
    cases h
    obtain ⟨ha, hl⟩ := addsDirectories_of_makeDirectory hm
    exact ⟨ha, fun _ => hl⟩
  · cases h
    exact ⟨.refl _ _, nofun⟩
  · split at h <;> cases h
    · next hd => exact ⟨.refl _ _, fun _ => isDirectory_eq_ok hd⟩
    · exact ⟨.refl _ _, nofun⟩
    · exact ⟨.refl _ _, nofun⟩

theorem AddsDirectories.mono (h : AddsDirectories names t t') (hn : names ⊆ names') :
    AddsDirectories names' t t' := by
  obtain ⟨⟨made, ht, hm⟩, hd⟩ := h
  exact ⟨⟨made, ht, fun e he => ⟨(hm e he).1, fun name hne => hn ((hm e he).2 name hne)⟩⟩, hd⟩

theorem ensureAll_of_ne {outer : List Path}
    (h : t.makeDirectory directory path ≠ .error .notFound) :
    t.ensureAll directory nesting path outer =
      ((t.ensureLast directory path).1, path, (t.ensureLast directory path).2) := by
  rw [ensureAll.eq_3]
  · exact fun _ _ hm => absurd hm h
  · exact fun _ _ _ hm => absurd hm h

/-- How a directory may be made, with those on the way to it. -/
inductive Ensures (directory : List String) :
    FileTree → Path → List Path → FileTree × Path × Option Fault → Prop
  | last {t t' : FileTree} {path : Path} {outer : List Path} {fault : Option Fault}
    (h : t.ensureLast directory path = (t', fault)) :
    Ensures directory t path outer (t', path, fault)
  | tooDeep {t : FileTree} {path : Path} {outer : List Path} :
    Ensures directory t path outer (t, path, some .nestedTooDeep)
  | behind {t u t' : FileTree} {path parent made : Path} {outer : List Path}
    {fault : Option Fault} (hp : Ensures directory t parent outer (u, made, none))
    (h : u.ensureLast directory path = (t', fault)) :
    Ensures directory t path (parent :: outer) (t', path, fault)
  | failed {t u : FileTree} {path parent failed : Path} {outer : List Path} {fault : Fault}
    (hp : Ensures directory t parent outer (u, failed, some fault)) :
    Ensures directory t path (parent :: outer) (u, failed, some fault)

theorem ensures_ensureAll (t : FileTree) (directory : List String) (nesting : Nat) (path : Path)
    (outer : List Path) :
    Ensures directory t path outer (t.ensureAll directory nesting path outer) := by
  induction outer generalizing nesting path with
  | nil =>
    rw [ensureAll]
    · exact .last rfl
    · nofun
    · nofun
  | cons parent outer ih =>
    by_cases hm : t.makeDirectory directory path = .error .notFound
    · cases nesting with
      | zero =>
        rw [ensureAll.eq_1 _ _ _ _ _ hm]
        exact .tooDeep
      | succ nesting =>
        have hp := ih nesting parent
        rw [ensureAll.eq_2 _ _ _ _ _ _ hm]
        cases hr : t.ensureAll directory nesting parent outer with
        | mk u rest =>
          obtain ⟨failed, fault⟩ := rest
          rw [hr] at hp
          cases fault with
          | none => exact .behind hp rfl
          | some fault => exact .failed hp
    · rw [ensureAll_of_ne hm]
      exact .last rfl

theorem Ensures.addsDirectories (h : Ensures directory t path outer result)
    (hp : path.names ⊆ names) (ho : ∀ p ∈ outer, p.names ⊆ names) :
    AddsDirectories (directory ++ names) t result.1 ∧
      (result.2.2 = none → ∃ place, result.1.Leads directory path place) := by
  have behind {path : Path} (hp : path.names ⊆ names) :
      directory ++ path.names ⊆ directory ++ names :=
    List.append_subset.2 ⟨List.subset_append_left .., fun _ hn => List.mem_append_right _ (hp hn)⟩
  induction h with
  | last h =>
    obtain ⟨ha, hl⟩ := ensureLast_cases h
    exact ⟨ha.mono (behind hp), hl⟩
  | tooDeep => exact ⟨.refl _ _, nofun⟩
  | behind _ h ih =>
    obtain ⟨hparent, ho⟩ := List.forall_mem_cons.1 ho
    obtain ⟨ha, hl⟩ := ensureLast_cases h
    exact ⟨(ih hparent ho).1.trans (ha.mono (behind hp)), hl⟩
  | failed _ ih =>
    obtain ⟨hparent, ho⟩ := List.forall_mem_cons.1 ho
    exact ⟨(ih hparent ho).1, nofun⟩

theorem ensureDirectory_cases (h : t.ensureDirectory directory path = (t', failed, fault)) :
    AddsDirectories (directory ++ path.names) t t' ∧
      (fault = none → ∃ place, t'.Leads directory path place) := by
  have he := ensures_ensureAll t directory maxNesting path (outerPaths path)
  rw [ensureDirectory] at h
  rw [h] at he
  refine he.addsDirectories (List.Subset.refl _) fun p hp => ?_
  obtain ⟨k, -, rfl⟩ := List.mem_map.1 hp
  exact List.take_subset _ _

theorem ensureDirectory_of_leads (h : t.Leads directory path place) :
    t.ensureDirectory directory path = (t, path, none) := by
  obtain ⟨hl, hd⟩ := h
  have hm : t.makeDirectory directory path = .error .alreadyThere := by
    rw [makeDirectory, hl]
    exact add_eq_alreadyThere.2 ⟨_, hd⟩
  have hi : t.isDirectory directory path = .ok true := by
    rw [isDirectory, denotes, find?_of_locate hl, hd]
    rfl
  have hlast : t.ensureLast directory path = (t, none) := by
    rw [ensureLast, hm]
    simp only [hi]
  rw [ensureDirectory, ensureAll_of_ne (by simp [hm]), hlast]

theorem AddsDirectories.file_iff (h : AddsDirectories names t t') (place : List String)
    (content : List UInt8) :
    t'.get? place = some (.file content) ↔ t.get? place = some (.file content) := by
  obtain ⟨made, ht, hm⟩ := h.made
  have hg := get?_of_entries ht place
  cases ho : t.get? place with
  | some entry => rw [hg, ho, Option.some_or]
  | none =>
    rw [hg, ho, Option.none_or]
    constructor
    · intro hf
      split at hf
      · cases hf
      · obtain ⟨_, _, rfl, -⟩ := List.lookup_eq_some_iff.1 hf
        cases (hm (place, .file content) (by simp)).1
    · nofun

theorem namesIn_append (h : t'.entries = t.entries ++ made) (place : List String) :
    t'.namesIn place = t.namesIn place ++ namesIn { entries := made } place := by
  rw [namesIn, h, List.filterMap_append]
  rfl

theorem mem_namesIn_iff {place : List String} :
    name ∈ t.namesIn place ↔ ∃ e ∈ t.entries, e.1 = place ++ [name] := by
  rw [namesIn, List.mem_filterMap]
  constructor
  · rintro ⟨e, he, hn⟩
    split at hn
    · next hp => exact ⟨e, he, by rw [← hp, List.dropLast_append_getLast? _ hn]⟩
    · cases hn
  · rintro ⟨e, he, hp⟩
    exact ⟨e, he, by simp [hp]⟩

abbrev AddsFile (t : FileTree) (file : List String) (content : List UInt8) (t' : FileTree) : Prop :=
  t.Adds file (.file content) t'

theorem AddsFile.mem_namesIn {place : List String}
    (h : t.AddsFile (place ++ [name]) content t') : name ∈ t'.namesIn place := by
  refine mem_namesIn_iff.2 ⟨(place ++ [name], .file content), ?_, rfl⟩
  rw [h.entries]
  simp

theorem AddsFile.file_iff {file place : List String} {content bytes : List UInt8}
    (h : t.AddsFile file content t') :
    t'.get? place = some (.file bytes) ↔
      t.get? place = some (.file bytes) ∨ place = file ∧ bytes = content := by
  obtain ⟨hn, ht, -⟩ := h
  have hf : file ≠ [] := by
    rintro rfl
    cases hn
  have hg := get?_of_entries ht place
  by_cases hp : place = file
  · rw [hp, hn, if_neg hf] at hg
    rw [hp, hg, hn]
    simp [eq_comm]
  · have hl : List.lookup place [(file, Entry.file content)] = none := by
      simp [List.lookup, beq_eq_false_iff_ne.2 hp]
    rw [hl, ite_self, Option.or_none] at hg
    rw [hg]
    simp [hp]

/-- One file is added, in the directory that a path leads to, and beside it at most directories. -/
def AddsOneFile (directory : List String) (path : Path) (content : List UInt8)
    (t t' : FileTree) : Prop :=
  ∃ (place : List String) (name : String), t'.Leads directory path place ∧
    t.get? (place ++ [name]) = none ∧
    ∀ p bytes, t'.get? p = some (.file bytes) ↔
      t.get? p = some (.file bytes) ∨ p = place ++ [name] ∧ bytes = content

theorem AddsOneFile.exists_new (h : AddsOneFile directory path content t t') :
    ∃ place bytes, t'.get? place = some (.file bytes) ∧ t.get? place ≠ some (.file bytes) := by
  obtain ⟨place, name, -, hn, hf⟩ := h
  refine ⟨place ++ [name], content, (hf _ _).2 (.inr ⟨rfl, rfl⟩), ?_⟩
  rw [hn]
  nofun

theorem AddsDirectories.addsOneFile {names place : List String} {u : FileTree}
    (h : AddsDirectories names t u) (hl : u.Leads directory path place)
    (ha : u.AddsFile (place ++ [name]) content t') : AddsOneFile directory path content t t' := by
  refine ⟨place, name, hl.within ha.within, h.within.eq_none ha.free, ?_⟩
  intro p bytes
  rw [ha.file_iff, h.file_iff]

theorem mem_namesIn_iff_get? {place : List String} :
    name ∈ t.namesIn place ↔ ∃ entry, t.get? (place ++ [name]) = some entry := by
  have hp : place ++ [name] ≠ [] := by simp
  rw [mem_namesIn_iff, get?, if_neg hp, ← Option.isSome_iff_exists, List.lookup_isSome_iff]
  exact exists_congr fun e => and_congr_right fun _ => by rw [beq_iff_eq, eq_comm]

theorem Within.namesIn_subset (h : t.Within t') (place : List String) :
    t.namesIn place ⊆ t'.namesIn place := by
  intro name hn
  obtain ⟨entry, he⟩ := mem_namesIn_iff_get?.1 hn
  exact mem_namesIn_iff_get?.2 ⟨entry, h.entries _ _ he⟩

theorem Leads.walk_child {slashes : Nat} {names : List String}
    (h : t.Leads directory ⟨slashes, names⟩ place) (name : String) :
    t.walk (if (Path.mk slashes (names ++ [name])).isAbsolute then [] else directory)
      (names ++ [name]) = t.walk place [name] := by
  have ha : (Path.mk slashes (names ++ [name])).isAbsolute = (Path.mk slashes names).isAbsolute :=
    rfl
  rw [ha, walk_append, walk_of_locate h.1]
  rfl

theorem Leads.child {slashes : Nat} {names : List String}
    (h : t.Leads directory ⟨slashes, names⟩ place) (hn : name ≠ "..")
    (hl : t.locate directory ⟨slashes, names ++ [name]⟩ = .ok target) :
    target = place ++ [name] := by
  have hw := eq_foldl_of_walk ((h.walk_child name).symm.trans (walk_of_locate hl))
  rw [hw, List.foldl_cons, List.foldl_nil, Path.step, if_neg hn]

theorem Leads.create_eq_ok {slashes : Nat} {names : List String}
    (h : t.Leads directory ⟨slashes, names⟩ place) (hn : name ≠ "..")
    (hc : t.create directory ⟨slashes, names ++ [name]⟩ content = .ok t') :
    t.AddsFile (place ++ [name]) content t' := by
  obtain ⟨target, hl, ha⟩ := locate_add_eq_ok hc
  rwa [h.child hn hl] at ha

theorem walk_ne {fault : Fault} (hf : fault ≠ .notFound ∧ fault ≠ .notADirectory ∧
    fault ≠ .nameTooLong ∧ fault ≠ .accessDenied) : t.walk place names ≠ .error fault := by
  obtain ⟨h₁, h₂, h₃, h₄⟩ := hf
  induction names generalizing place with
  | nil => nofun
  | cons name names ih =>
    rw [walk]
    split
    · rintro ⟨⟩; exact h₁ rfl
    · rintro ⟨⟩; exact h₂ rfl
    · split
      · rintro ⟨⟩; exact h₄ rfl
      · split
        · exact ih
        · split
          · rintro ⟨⟩; exact h₃ rfl
          · exact ih

theorem locate_ne_alreadyThere : t.locate directory path ≠ .error .alreadyThere := by
  rw [locate]
  split
  · nofun
  · split
    · nofun
    · split
      · nofun
      · exact walk_ne (by decide)

theorem create_alreadyThere (h : t.create directory path content = .error .alreadyThere)
    (content' : List UInt8) : t.create directory path content' = .error .alreadyThere := by
  rw [create] at h ⊢
  cases hl : t.locate directory path with
  | error fault =>
    rw [hl] at h
    exact h
  | ok place =>
    rw [hl] at h
    exact add_eq_alreadyThere.2 (add_eq_alreadyThere.1 h)

theorem Leads.mem_of_alreadyThere {slashes : Nat} {names : List String}
    (h : t.Leads directory ⟨slashes, names⟩ place) (hn : name ≠ "..")
    (hc : t.create directory ⟨slashes, names ++ [name]⟩ content = .error .alreadyThere) :
    name ∈ t.namesIn place := by
  rw [create] at hc
  cases hl : t.locate directory ⟨slashes, names ++ [name]⟩ with
  | error fault =>
    rw [hl] at hc
    cases hc
    exact absurd hl locate_ne_alreadyThere
  | ok target =>
    obtain rfl := h.child hn hl
    rw [hl] at hc
    exact mem_namesIn_iff_get?.2 (add_eq_alreadyThere.1 hc)

end FileTree

end SchemaPlan

namespace SchemaPlan.Path
open Text

theorem ofString_name {name : String} (hs : '/' ∉ name.toList) (he : name.toList ≠ [])
    (hd : name.toList ≠ ['.']) : ofString name = ⟨0, [name]⟩ := by
  have hc : name.toList.takeWhile (· = '/') = [] := by
    apply Stops.takeWhile
    intro c hc
    have hm := List.mem_of_head? hc
    simpa using fun h : c = '/' => hs (h ▸ hm)
  have hp : Text.splitOn '/' name.toList = [name.toList] := by
    rw [splitOn_eq, List.splitOn_eq_singleton hs]
  simp only [ofString, hc, hp]
  simp [he, hd]

end SchemaPlan.Path
