import SchemaPlan.Proofs.Calendar.Order
import SchemaPlan.Proofs.Migration.Store

namespace SchemaPlan

def StoredMigration.number (migration : StoredMigration) : Nat :=
  Nat.ofDigitChars 10 migration.version.toList 0

namespace MigrationStore

variable {store : MigrationStore} {w w' : Workspace} {t : FileTree} {m m' n : Moment}

theorem Passes.seconds_le (h : Passes t place m m') (hm : m.Proper) : m.seconds ≤ m'.seconds := by
  induction h with
  | refl => exact Nat.le_refl _
  | step _ hn _ ih =>
    have hs := hm.seconds_next hn
    have hle := ih (hm.next hn).1
    omega

theorem Passes.inUse (h : Passes t place m m') (hm : m.Proper) (hn : n.Proper)
    (hl : m.seconds ≤ n.seconds) (hu : n.seconds < m'.seconds) : InUse t place n.stamp := by
  induction h with
  | refl => omega
  | @step m _ _ hused hnext _ ih =>
    have hs := hm.seconds_next hnext
    rcases Nat.eq_or_lt_of_le hl with he | hlt
    · rwa [hm.eq_of_seconds hn he] at hused
    · exact ih (hm.next hnext).1 (by omega) hu

/-- What a call that was given the version of a moment leaves: all seconds from its clock's on up to
that moment are in use. -/
structure Occupied (store : MigrationStore) (w : Workspace) (call : Call) (m : Moment) : Prop where
  proper : m.Proper
  fourDigits : 1000 ≤ m.date.year
  leads : ∃ place, w.tree.Leads w.directory store.directory place
  inUse : ∀ place, w.tree.Leads w.directory store.directory place → ∀ n : Moment, n.Proper →
    call.moment.seconds ≤ n.seconds → n.seconds ≤ m.seconds → InUse w.tree place n.stamp

theorem Occupied.within {call : Call} (h : Occupied store w call m)
    (hd : w'.directory = w.directory) (ht : w.tree.Within w'.tree) :
    Occupied store w' call m := by
  obtain ⟨hm, hy, ⟨place, hl⟩, hu⟩ := h
  have hl' : w'.tree.Leads w'.directory store.directory place := hd ▸ hl.within ht
  refine ⟨hm, hy, ⟨place, hl'⟩, ?_⟩
  intro place' hp n hn hle hge
  obtain rfl := hl'.unique hp
  exact (hu place hl n hn hle hge).within ht

/-- A call that succeeds occupies all seconds up to the one that it is given. Where the directory
may be listed, this one is later than any that is occupied since an earlier clock. -/
theorem Call.occupied {call : Call} {migration : StoredMigration}
    (h : call.run store w = (.ok migration, w')) :
    ∃ m, migration.version = .ofList m.stamp ∧ Occupied store w' call m ∧
      (store.IsListable w → ∀ (earlier : Call) (m₀ : Moment), Occupied store w earlier m₀ →
        earlier.moment.seconds ≤ call.moment.seconds → m₀.seconds < m.seconds) := by
  cases call.written h with
  | @stored place _ u m hp hd hl he hc hpass hf ha =>
    obtain rfl := Clock.time.inj hc
    obtain ⟨hm, hy⟩ := hpass.proper call.proper
    have hle := hpass.seconds_le call.proper
    have hl' : w'.tree.Leads w'.directory store.directory place := hd ▸ hl.within ha.within
    refine ⟨m, rfl, ⟨hm, call.fourDigits.trans hy, ⟨place, hl'⟩, ?_⟩, ?_⟩
    · intro place' hplace n hn hfrom hto
      obtain rfl := hl'.unique hplace
      rcases Nat.eq_or_lt_of_le hto with he | hlt
      · rw [hn.eq_of_seconds hm he]
        exact ⟨_, ha.mem_namesIn, hasVersion_fileName_self _ _⟩
      · exact (hpass.inUse call.proper hn hfrom hlt).within ha.within
    · intro hs earlier m₀ ho hclock
      -- Otherwise the second that was found free is among those that the earlier call left in use.
      by_contra hlt
      obtain ⟨place', hplace⟩ := ho.leads
      have hfree := hp.not_inUse hs hl hf
      rw [hp.kept place' hplace] at hl hfree
      obtain rfl := hl.unique hplace
      exact hfree (ho.inUse place hl m hm (hclock.trans hle) (by omega))

/-- The directory of a store holds the file of a migration. -/
def Holds (store : MigrationStore) (w : Workspace) (migration : StoredMigration) : Prop :=
  ∃ place, w.tree.Leads w.directory store.directory place ∧
    migration.fileName ∈ w.tree.namesIn place

theorem Holds.within (h : store.Holds w migration) (hd : w'.directory = w.directory)
    (ht : w.tree.Within w'.tree) : store.Holds w' migration := by
  obtain ⟨place, hl, hn⟩ := h
  exact ⟨place, hd ▸ hl.within ht, ht.namesIn_subset place hn⟩

theorem Call.holds {call : Call} {migration : StoredMigration}
    (h : call.run store w = (.ok migration, w')) : store.Holds w' migration := by
  cases call.written h with
  | @stored place _ u m hp hd hl he hc hpass hf ha =>
    refine ⟨place, hd ▸ hl.within ha.within, ?_⟩
    rw [bound, StoredMigration.fileName, Path.name, List.getLast?_concat]
    exact ha.mem_namesIn

/-- What may happen around a directory of migrations: calls that succeed, with what they gave, and
between them changes that only add to the tree. -/
inductive History (store : MigrationStore) (start : Workspace) :
    List (Call × StoredMigration) → Workspace → Prop
  | start : History store start [] start
  | changed {w w' : Workspace} (h : History store start calls w) (hd : w'.directory = w.directory)
    (ht : w.tree.Within w'.tree) : History store start calls w'
  | called {w w' : Workspace} (h : History store start calls w)
    (hr : call.run store w = (.ok migration, w')) :
    History store start (calls ++ [(call, migration)]) w'

variable {start : Workspace} {calls : List (Call × StoredMigration)}

theorem History.frame (h : History store start calls w) :
    w.directory = start.directory ∧ start.tree.Within w.tree := by
  induction h with
  | start => exact ⟨rfl, .refl _⟩
  | changed _ hd ht ih => exact ⟨hd.trans ih.1, ih.2.trans ht⟩
  | called _ hr ih =>
    have hw := Call.written hr
    exact ⟨hw.directory.trans ih.1, ih.2.trans hw.within⟩

theorem History.occupied (h : History store start calls w) :
    ∀ p ∈ calls, store.Holds w p.2 ∧
      ∃ m, p.2.version = .ofList m.stamp ∧ Occupied store w p.1 m := by
  induction h with
  | start => exact fun p hp => absurd hp List.not_mem_nil
  | changed _ hd ht ih =>
    intro p hp
    obtain ⟨hin, m, hv, ho⟩ := ih p hp
    exact ⟨hin.within hd ht, m, hv, ho.within hd ht⟩
  | called _ hr ih =>
    intro p hp
    rcases List.mem_append.1 hp with hp | hp
    · obtain ⟨hin, m, hv, ho⟩ := ih p hp
      have hw := Call.written hr
      exact ⟨hin.within hw.directory hw.within, m, hv, ho.within hw.directory hw.within⟩
    · obtain rfl := List.mem_singleton.1 hp
      obtain ⟨m, hv, ho, -⟩ := Call.occupied hr
      exact ⟨Call.holds hr, m, hv, ho⟩

/-- Where the directory may be listed, every call is given a version of its own, later than those
given before. -/
theorem History.later (h : History store start calls w) (hs : store.IsListable start)
    (ht : calls.Pairwise fun p q => p.1.moment.seconds ≤ q.1.moment.seconds) :
    calls.Pairwise fun p q => p.2.version < q.2.version ∧ p.2.number < q.2.number := by
  induction h with
  | start => exact .nil
  | changed _ _ _ ih => exact ih ht
  | called h hr ih =>
    obtain ⟨hcalls, -, hclock⟩ := List.pairwise_append.1 ht
    refine List.pairwise_append.2 ⟨ih hcalls, List.pairwise_singleton .., ?_⟩
    intro p hp q hq
    obtain ⟨hdir, hwithin⟩ := h.frame
    have hs := (isListable_iff hdir hwithin).2 hs
    obtain ⟨-, m₀, hv₀, ho₀⟩ := h.occupied p hp
    obtain ⟨m, hv, ho, hlater⟩ := Call.occupied hr
    have hle := hclock p hp q hq
    obtain rfl := List.mem_singleton.1 hq
    have hlt := hlater hs p.1 m₀ ho₀ hle
    obtain ⟨hs, hn⟩ := ho₀.proper.stamp_lt ho.proper ho₀.fourDigits ho.fourDigits hlt
    rw [StoredMigration.number, StoredMigration.number, hv₀, hv, String.lt_iff_toList_lt,
      String.toList_ofList, String.toList_ofList]
    exact ⟨hs, hn⟩

end MigrationStore

end SchemaPlan
