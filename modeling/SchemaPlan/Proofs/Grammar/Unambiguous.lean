import SchemaPlan.Proofs.Grammar.Reading

namespace SchemaPlan.Grammar
open Form Text

theorem after?_eq_some_iff : after? c s = some t ↔ s = c :: t := by
  cases s with
  | nil => simp [after?]
  | cons d s => simp only [after?]; split <;> simp_all

theorem exists_parenthesis (h : after? c (skipBlanks s) = some t) :
    ∃ b : Blanks, s = b.text ++ c :: t := by
  obtain ⟨b, hb, -⟩ := exists_blanks s
  exact ⟨b, by rw [hb, after?_eq_some_iff.1 h]⟩

theorem exists_createTable (h : createTable? s = some f) :
    ∃ r : Reading, r.text = s ∧ r.form = f := by
  simp only [createTable?, Option.bind_eq_bind, Option.bind_eq_some_iff, Prod.exists,
    Option.pure_def, Option.some.injEq] at h
  obtain ⟨_, hl, _, _, ht, rest, hp, rfl⟩ := h
  obtain ⟨lead, rfl⟩ := exists_phrase hl
  obtain ⟨table, rfl, rfl⟩ := exists_identifier ht
  obtain ⟨blanks, rfl⟩ := exists_parenthesis hp
  exact ⟨.createTable lead table blanks rest, rfl, rfl⟩

theorem exists_dropTable (h : dropTable? s = some f) : ∃ r : Reading, r.text = s ∧ r.form = f := by
  simp only [dropTable?, Option.bind_eq_bind, Option.bind_eq_some_iff, Prod.exists,
    Option.guard_eq_some', Option.pure_def, Option.some.injEq] at h
  obtain ⟨_, hl, _, _, ht, _, he, rfl⟩ := h
  obtain ⟨lead, rfl⟩ := exists_phrase hl
  obtain ⟨table, rfl, rfl⟩ := exists_identifier ht
  obtain ⟨ending, rfl⟩ := exists_ending he
  exact ⟨.dropTable lead table ending, rfl, rfl⟩

theorem exists_addColumn (h : addColumn? s = some f) : ∃ r : Reading, r.text = s ∧ r.form = f := by
  simp only [addColumn?, Option.bind_eq_bind, Option.bind_eq_some_iff, Prod.exists,
    Option.guard_eq_some', Option.pure_def, Option.some.injEq] at h
  obtain ⟨_, hl, _, _, ht, _, hg, _, hv, _, _, hc, _, hb, _, s', hy, _, he, rfl⟩ := h
  obtain ⟨lead, rfl⟩ := exists_phrase hl
  obtain ⟨table, rfl, rfl⟩ := exists_identifier ht
  obtain ⟨gap, rfl, -⟩ := exists_gap hg
  obtain ⟨verb, rfl⟩ := exists_phrase hv
  obtain ⟨column, rfl, rfl⟩ := exists_identifier hc
  obtain ⟨between, rfl, -⟩ := exists_gap hb
  obtain ⟨type, rfl, rfl⟩ := exists_typeToken hy
  obtain ⟨clause, hs, hn⟩ :=
    exists_nullClause (s := s') (v := (nullability s').1) (t := (nullability s').2) rfl
  obtain ⟨ending, he⟩ := exists_ending he
  refine ⟨.addColumn lead table gap verb column between type clause ending, ?_, ?_⟩
  · rw [Reading.text, he, ← hs]
  · rw [Reading.form, hn]

theorem exists_dropColumn (h : dropColumn? s = some f) :
    ∃ r : Reading, r.text = s ∧ r.form = f := by
  simp only [dropColumn?, Option.bind_eq_bind, Option.bind_eq_some_iff, Prod.exists,
    Option.guard_eq_some', Option.pure_def, Option.some.injEq] at h
  obtain ⟨_, hl, _, _, ht, _, hg, _, hv, _, _, hc, _, he, rfl⟩ := h
  obtain ⟨lead, rfl⟩ := exists_phrase hl
  obtain ⟨table, rfl, rfl⟩ := exists_identifier ht
  obtain ⟨gap, rfl, -⟩ := exists_gap hg
  obtain ⟨verb, rfl⟩ := exists_phrase hv
  obtain ⟨column, rfl, rfl⟩ := exists_identifier hc
  obtain ⟨ending, rfl⟩ := exists_ending he
  exact ⟨.dropColumn lead table gap verb column ending, rfl, rfl⟩

theorem exists_createIndex (h : createIndex? unique s = some f) :
    ∃ r : Reading, r.text = s ∧ r.form = f := by
  simp only [createIndex?, Option.bind_eq_bind, Option.bind_eq_some_iff, Prod.exists,
    Option.guard_eq_some', Option.pure_def, Option.some.injEq] at h
  obtain ⟨_, hl, _, _, hn, _, hg, _, ho, _, _, ht, s', hp, _, _, hc, _, hq, _, he, rfl⟩ := h
  obtain ⟨lead, rfl⟩ : ∃ lead : Phrase (indexKeywords unique), s = lead.text ++ _ :=
    exists_phrase hl
  obtain ⟨name, rfl, rfl⟩ := exists_identifier hn
  obtain ⟨gap, rfl, -⟩ := exists_gap hg
  obtain ⟨on, rfl⟩ := exists_phrase ho
  obtain ⟨table, rfl, rfl⟩ := exists_identifier ht
  obtain ⟨before, rfl⟩ := exists_parenthesis hp
  obtain ⟨inside, hi, -⟩ := exists_blanks s'
  obtain ⟨column, hs, rfl⟩ := exists_identifier hc
  obtain ⟨behind, rfl⟩ := exists_parenthesis hq
  obtain ⟨ending, rfl⟩ := exists_ending he
  refine ⟨.createIndex unique lead name gap on table before inside column behind ending, ?_, rfl⟩
  rw [Reading.text, ← hs, ← hi]

theorem exists_dropIndex (h : dropIndex? s = some f) : ∃ r : Reading, r.text = s ∧ r.form = f := by
  simp only [dropIndex?, Option.bind_eq_bind, Option.bind_eq_some_iff, Prod.exists] at h
  obtain ⟨_, hl, _, s', hn, h⟩ := h
  obtain ⟨lead, rfl⟩ := exists_phrase hl
  obtain ⟨name, rfl, rfl⟩ := exists_identifier hn
  split at h
  · next table rest ho =>
    simp only [Option.bind_eq_some_iff] at ho
    obtain ⟨_, ⟨_, hg, ho⟩, ht⟩ := ho
    simp only [Option.bind_eq_some_iff, Option.guard_eq_some', Option.pure_def,
      Option.some.injEq] at h
    obtain ⟨_, he, rfl⟩ := h
    obtain ⟨gap, rfl, -⟩ := exists_gap hg
    obtain ⟨on, rfl⟩ := exists_phrase ho
    obtain ⟨table, rfl, rfl⟩ := exists_identifier ht
    obtain ⟨ending, rfl⟩ := exists_ending he
    exact ⟨.dropIndexOn lead name gap on table ending, rfl, rfl⟩
  · simp only [Option.bind_eq_some_iff, Option.guard_eq_some', Option.pure_def,
      Option.some.injEq] at h
    obtain ⟨_, he, rfl⟩ := h
    obtain ⟨ending, rfl⟩ := exists_ending he
    exact ⟨.dropIndex lead name ending, rfl, rfl⟩

theorem exists_reading (hr : reader ∈ readers) (h : reader s = some f) :
    ∃ r : Reading, r.text = s ∧ r.form = f := by
  simp only [readers, List.mem_cons, List.not_mem_nil, or_false] at hr
  rcases hr with rfl | rfl | rfl | rfl | rfl | rfl | rfl
  · exact exists_createTable h
  · exact exists_dropTable h
  · exact exists_addColumn h
  · exact exists_dropColumn h
  · exact exists_createIndex h
  · exact exists_createIndex h
  · exact exists_dropIndex h

theorem read?_eq_some_iff : Form.read? s = some f ↔ ∃ r : Reading, r.text = s ∧ r.form = f := by
  constructor
  · intro h
    obtain ⟨reader, hm, hr⟩ := List.exists_of_findSome?_eq_some h
    exact exists_reading hm hr
  · rintro ⟨r, rfl, rfl⟩
    exact r.read

theorem Blanks.cons_inj {a b : Blanks} (h : a.text ++ c :: s = b.text ++ c :: t)
    (hc : isBlank c = false) : a = b ∧ s = t := by
  obtain ⟨hb, h⟩ := Blanks.append_inj h (stops_cons_iff.2 hc) (stops_cons_iff.2 hc)
  exact ⟨hb, (List.cons.inj h).2⟩

theorem Identifier.phrase_inj {i j : Identifier} {g g' : Gap} {p q : Phrase ks}
    (h : i.text ++ (g.text ++ (p.text ++ s)) = j.text ++ (g'.text ++ (q.text ++ t)))
    (hk : ks.all isKeyword = true) (hs : Stops isBlank s) (ht : Stops isBlank t) :
    i = j ∧ g = g' ∧ p = q ∧ s = t := by
  obtain ⟨hi, h⟩ := Identifier.append_inj h (g.stops_name _) (g'.stops_name _)
  obtain ⟨hg, h⟩ := Gap.append_inj h (p.stops hk hs) (q.stops hk ht)
  obtain ⟨hp, h⟩ := Phrase.append_inj hk h hs ht
  exact ⟨hi, hg, hp, h⟩

theorem Identifier.ending_inj {i j : Identifier} {e f : Ending}
    (h : i.text ++ e.text = j.text ++ f.text) (ht : EndsTight (i.text ++ e.text)) :
    i = j ∧ e = f := by
  obtain ⟨hi, h⟩ := Identifier.append_inj h e.stops_name f.stops_name
  exact ⟨hi, Ending.text_inj h ht.of_append⟩

/-- A text that does not end in a blank is taken apart in one way at most. -/
theorem Reading.text_inj {r q : Reading} (h : r.text = q.text) (ht : EndsTight r.text) : r = q := by
  have hf : some r.form = some q.form := by rw [← r.read, h, q.read]
  rw [Option.some.injEq] at hf
  -- Equal forms leave readings of one kind, which are compared piece by piece from the left.
  cases r <;> cases q <;> simp only [form, reduceCtorEq] at hf
  case createTable.createTable lead table blanks rest lead' table' blanks' rest' =>
    obtain ⟨hl, h⟩ := Phrase.append_inj (by decide) h (table.stops _) (table'.stops _)
    obtain ⟨hn, h⟩ := Identifier.append_inj h (blanks.stops_name (by decide) _)
      (blanks'.stops_name (by decide) _)
    obtain ⟨hb, hr⟩ := Blanks.cons_inj h (by decide)
    rw [hl, hn, hb, hr]
  case dropTable.dropTable lead table ending lead' table' ending' =>
    obtain ⟨hl, h⟩ := Phrase.append_inj (by decide) h (table.stops _) (table'.stops _)
    obtain ⟨hn, he⟩ := Identifier.ending_inj h ht.of_append
    rw [hl, hn, he]
  case addColumn.addColumn lead table gap verb column between type clause ending
      lead' table' gap' verb' column' between' type' clause' ending' =>
    obtain ⟨hl, h⟩ := Phrase.append_inj (by decide) h (table.stops _) (table'.stops _)
    obtain ⟨hn, hg, hv, h⟩ :=
      Identifier.phrase_inj h (by decide) (column.stops _) (column'.stops _)
    obtain ⟨hc, h⟩ := Identifier.append_inj h (between.stops_name _) (between'.stops_name _)
    obtain ⟨hb, h⟩ := Gap.append_inj h (type.stops _) (type'.stops _)
    obtain ⟨hy, h⟩ := TypeToken.append_inj h (clause.stops_word ending)
      (clause.stops_parenthesis ending) (clause'.stops_word ending')
      (clause'.stops_parenthesis ending')
    obtain ⟨hc', h⟩ := NullClause.append_inj h
    have he := ht.of_append.of_append.of_append.of_append.of_append.of_append.of_append.of_append
    rw [hl, hn, hg, hv, hc, hb, hy, hc', Ending.text_inj h he]
  case dropColumn.dropColumn lead table gap verb column ending
      lead' table' gap' verb' column' ending' =>
    obtain ⟨hl, h⟩ := Phrase.append_inj (by decide) h (table.stops _) (table'.stops _)
    obtain ⟨hn, hg, hv, h⟩ :=
      Identifier.phrase_inj h (by decide) (column.stops _) (column'.stops _)
    obtain ⟨hc, he⟩ := Identifier.ending_inj h ht.of_append.of_append.of_append.of_append
    rw [hl, hn, hg, hv, hc, he]
  case createIndex.createIndex unique lead name gap on table before inside column behind ending
      unique' lead' name' gap' on' table' before' inside' column' behind' ending' =>
    obtain ⟨rfl, -⟩ := Form.createIndex.inj hf
    have hk : (indexKeywords unique).all isKeyword = true := by cases unique <;> decide
    obtain ⟨hl, h⟩ := Phrase.append_inj hk h (name.stops _) (name'.stops _)
    obtain ⟨hn, hg, ho, h⟩ := Identifier.phrase_inj h (by decide) (table.stops _) (table'.stops _)
    obtain ⟨ht', h⟩ := Identifier.append_inj h (before.stops_name (by decide) _)
      (before'.stops_name (by decide) _)
    obtain ⟨hb, h⟩ := Blanks.cons_inj h (by decide)
    obtain ⟨hi, h⟩ := Blanks.append_inj h (column.stops _) (column'.stops _)
    obtain ⟨hc, h⟩ := Identifier.append_inj h (behind.stops_name (by decide) _)
      (behind'.stops_name (by decide) _)
    obtain ⟨hb', h⟩ := Blanks.cons_inj h (by decide)
    have hp := ht.of_append.of_append.of_append.of_append.of_append.of_append
    have hq := (hp.of_append (s := ['('])).of_append.of_append.of_append
    rw [hl, hn, hg, ho, ht', hb, hi, hc, hb', Ending.text_inj h (hq.of_append (s := [')']))]
  case dropIndex.dropIndex lead name ending lead' name' ending' =>
    obtain ⟨hl, h⟩ := Phrase.append_inj (by decide) h (name.stops _) (name'.stops _)
    obtain ⟨hn, he⟩ := Identifier.ending_inj h ht.of_append
    rw [hl, hn, he]
  case dropIndex.dropIndexOn => simp at hf
  case dropIndexOn.dropIndex => simp at hf
  case dropIndexOn.dropIndexOn lead name gap on table ending lead' name' gap' on' table' ending' =>
    obtain ⟨hl, h⟩ := Phrase.append_inj (by decide) h (name.stops _) (name'.stops _)
    obtain ⟨hn, hg, ho, h⟩ := Identifier.phrase_inj h (by decide) (table.stops _) (table'.stops _)
    obtain ⟨ht', he⟩ := Identifier.ending_inj h ht.of_append.of_append.of_append.of_append
    rw [hl, hn, hg, ho, ht', he]

end SchemaPlan.Grammar
