import SchemaPlan.Proofs.Classification

namespace SchemaPlan
open Text

theorem countP_le_one {p : α → Bool} {as : List α}
    (h : as.Pairwise fun a b => p a = true → p b = false) : as.countP p ≤ 1 := by
  induction h with
  | nil => exact Nat.zero_le 1
  | @cons a as ha _ ih =>
    cases hp : p a with
    | false => rwa [List.countP_cons_of_neg (by simp [hp])]
    | true =>
      have hn : as.countP p = 0 := List.countP_eq_zero.2 fun b hb => by simp [ha b hb hp]
      rw [List.countP_cons_of_pos hp, hn]

namespace Form
open Grammar

/-- The place of the reader that a form comes from. -/
def place : Form → Nat
  | createTable .. => 0
  | dropTable .. => 1
  | addColumn .. => 2
  | dropColumn .. => 3
  | createIndex unique .. => if unique then 4 else 5
  | dropIndex .. => 6

theorem place_createIndex (h : createIndex? unique s = some f) :
    f.place = if unique then 4 else 5 := by
  simp only [createIndex?, Option.bind_eq_bind, Option.bind_eq_some_iff, Prod.exists,
    Option.guard_eq_some', Option.pure_def, Option.some.injEq] at h
  obtain ⟨_, -, _, _, -, _, -, _, -, _, _, -, _, -, _, _, -, _, -, _, -, rfl⟩ := h
  rfl

theorem place_dropIndex (h : dropIndex? s = some f) : f.place = 6 := by
  simp only [dropIndex?, Option.bind_eq_bind, Option.bind_eq_some_iff, Prod.exists,
    Option.pure_def] at h
  obtain ⟨_, -, _, _, -, h⟩ := h
  split at h <;>
    simp only [Option.bind_eq_some_iff, Option.guard_eq_some', Option.some.injEq] at h <;>
    obtain ⟨_, -, rfl⟩ := h <;>
    rfl

theorem places : List.Forall₂ (fun reader n => ∀ s f, reader s = some f → f.place = n) readers
    (List.range 7) := by
  change List.Forall₂ _ readers [0, 1, 2, 3, 4, 5, 6]
  simp only [readers, List.forall₂_cons, List.forall₂_nil_left_iff, createTable?, dropTable?,
    addColumn?, dropColumn?, Option.bind_eq_bind, Option.bind_eq_some_iff, Prod.exists,
    Option.guard_eq_some', Option.pure_def, Option.some.injEq]
  refine ⟨?_, ?_, ?_, ?_, fun _ _ => place_createIndex, fun _ _ => place_createIndex,
    fun _ _ => place_dropIndex, trivial⟩
  · rintro s f ⟨_, -, _, _, -, _, -, rfl⟩
    rfl
  · rintro s f ⟨_, -, _, _, -, _, -, rfl⟩
    rfl
  · rintro s f ⟨_, -, _, _, -, _, -, _, -, _, _, -, _, -, _, _, -, _, -, rfl⟩
    rfl
  · rintro s f ⟨_, -, _, _, -, _, -, _, -, _, _, -, _, -, rfl⟩
    rfl

theorem place_of_reads {i : Nat} (hi : i < readers.length) (h : readers[i] s = some f) :
    f.place = i := by
  have hp := places.get hi (by simpa [readers] using hi)
  simpa using hp s f h

section
variable {p q : List Char → Option Form} {order : List (List Char → Option Form)}

theorem read?_of_reads (hp : p ∈ readers) (h : p s = some f) : Form.read? s = some f := by
  obtain ⟨r, rfl, rfl⟩ := exists_reading hp h
  exact r.read

theorem readers_apart (s : List Char) :
    readers.Pairwise fun p q => (p s).isSome = true → (q s).isSome = false := by
  rw [List.pairwise_iff_getElem]
  intro i j hi hj hij hp
  rw [Option.isSome_eq_false_iff, Option.isNone_iff_eq_none, Option.eq_none_iff_forall_ne_some]
  intro g hg
  obtain ⟨f, hf⟩ := Option.isSome_iff_exists.1 hp
  have hr := read?_of_reads (List.getElem_mem hi) hf
  rw [read?_of_reads (List.getElem_mem hj) hg, Option.some.injEq] at hr
  have hpi := place_of_reads hi hf
  have hpj := place_of_reads hj hg
  rw [hr] at hpj
  omega

theorem findSome?_perm (h : order.Perm readers) (s : List Char) :
    order.findSome? (· s) = Form.read? s := by
  cases hf : order.findSome? (· s) with
  | none =>
    rw [List.findSome?_eq_none_iff] at hf
    exact (List.findSome?_eq_none_iff.2 fun reader hr => hf reader (h.mem_iff.2 hr)).symm
  | some f =>
    obtain ⟨reader, hr, hf⟩ := List.exists_of_findSome?_eq_some hf
    exact (read?_of_reads (h.mem_iff.1 hr) hf).symm

end

end Form

namespace Statement

/-- What a statement is classified as when the readers are tried in the given order. -/
def classifyIn (order : List (List Char → Option Form)) (statement : Statement) :
    Logged Operation :=
  match order.findSome? (· (trim statement.text.toList)) with
  | none => do
    Logged.info (unrecognizedNotice statement.position)
    return ⟨statement, .unclassified⟩
  | some form =>
    match form.change with
    | .ok change => pure ⟨statement, change⟩
    | .error fault => do
      Logged.warning (unreadableNotice statement.position form fault)
      return ⟨statement, .unclassified⟩

theorem classifyIn_readers (statement : Statement) :
    statement.classifyIn Form.readers = statement.classify := rfl

/-- At most one of the readers reads a text. In whatever order they are tried, a statement becomes
the same operation, and the same is logged. -/
theorem classifyIn_perm :
    (∀ s, Form.readers.countP (fun reader => (reader s).isSome) ≤ 1) ∧
    ∀ {order : List (List Char → Option Form)}, order.Perm Form.readers →
      ∀ statement : Statement, statement.classifyIn order = statement.classify := by
  refine ⟨fun s => countP_le_one (Form.readers_apart s), fun {order} h statement => ?_⟩
  have hr : order.findSome? (· (trim statement.text.toList)) =
      Form.readers.findSome? (· (trim statement.text.toList)) := Form.findSome?_perm h _
  rw [← classifyIn_readers, classifyIn, classifyIn, hr]

/-- A unique index whose names are keywords. -/
def uniqueIndex : Statement := ⟨1, "CREATE UNIQUE INDEX unique ON index (add);", Nat.one_pos⟩

theorem uniqueIndex_reversed :
    Form.readers.reverse.Perm Form.readers ∧
    uniqueIndex.classifyIn Form.readers.reverse =
      pure ⟨uniqueIndex, .createIndex "unique" "index" "add" true⟩ := by
  have h := List.reverse_perm Form.readers
  exact ⟨h, (classifyIn_perm.2 h uniqueIndex).trans (by decide +kernel)⟩

end Statement

end SchemaPlan
