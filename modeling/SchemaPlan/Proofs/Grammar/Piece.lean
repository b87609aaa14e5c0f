import SchemaPlan.Proofs.Grammar.Cut

namespace SchemaPlan.Grammar
open Form Text

def isNameChar (c : Char) : Bool := isWordChar c || quotationMarks.contains c

theorem not_isWordChar_of_mark (h : c ∈ quotationMarks) : isWordChar c = false := by
  have hm : quotationMarks.all (fun c => !isWordChar c) = true := by decide
  simpa using List.all_eq_true.1 hm c h

theorem isNameChar_of_isBlank (h : isBlank c = true) : isNameChar c = false := by
  have hm : ¬ c ∈ quotationMarks := by
    intro hc
    have hb : quotationMarks.all (fun c => !isBlank c) = true := by decide
    have hn := List.all_eq_true.1 hb c hc
    rw [h] at hn
    cases hn
  simp [isNameChar, isWordChar_of_isBlank h, hm]

theorem Stops.mono (h : Stops p s) (hp : ∀ c, p c = false → q c = false) : Stops q s :=
  fun c hc => hp c (h c hc)

theorem Stops.word (h : Stops isNameChar s) : Stops isWordChar s :=
  Stops.mono h fun c hc => by simp only [isNameChar, Bool.or_eq_false_iff] at hc; exact hc.1

theorem Stops.mark (h : Stops isNameChar s) : Stops (quotationMarks.contains ·) s :=
  Stops.mono h fun c hc => by simp only [isNameChar, Bool.or_eq_false_iff] at hc; exact hc.2

theorem Blanks.stops (b : Blanks) (hp : ∀ c, isBlank c = true → p c = false) (hs : Stops p s) :
    Stops p (b.text ++ s) := by
  obtain ⟨text, hb⟩ := b
  cases text with
  | nil => exact hs
  | cons c text => simpa using hp c (hb c (by simp))

theorem Word.read (w : Word) (hs : Stops isWordChar s) :
    word? (w.text ++ s) = some (w.text, s) := by
  rw [word?, takeWhile_run w.word hs, dropWhile_run w.word hs]
  have hn := w.nonempty
  split
  · contradiction
  · rfl

theorem exists_word (h : word? s = some (v, t)) : ∃ w : Word, s = w.text ++ t ∧ w.text = v := by
  rw [word?] at h
  split at h
  · cases h
  · next hn =>
    cases h
    exact ⟨⟨s.takeWhile isWordChar, hn, fun _ => List.mem_takeWhile_imp⟩,
      List.takeWhile_append_dropWhile.symm, rfl⟩

theorem Mark.read (m : Mark) (hs : Stops (quotationMarks.contains ·) s) :
    skipMark (m.text ++ s) = s := by
  obtain ⟨text, rfl | ⟨c, hc, rfl⟩⟩ := m
  · cases s with
    | nil => rfl
    | cons c s =>
      rw [stops_cons_iff] at hs
      simp only [List.nil_append, skipMark, hs, Bool.false_eq_true, if_false]
  · simp [skipMark, hc]

theorem exists_mark (s : List Char) : ∃ m : Mark, s = m.text ++ skipMark s := by
  cases s with
  | nil => exact ⟨⟨[], .inl rfl⟩, rfl⟩
  | cons c s =>
    by_cases hc : c ∈ quotationMarks
    · exact ⟨⟨[c], .inr ⟨c, hc, rfl⟩⟩, by simp [skipMark, hc]⟩
    · exact ⟨⟨[], .inl rfl⟩, by simp [skipMark, hc]⟩

theorem Mark.stops (m : Mark) (hs : Stops isWordChar s) : Stops isWordChar (m.text ++ s) := by
  obtain ⟨text, rfl | ⟨c, hc, rfl⟩⟩ := m
  · exact hs
  · simpa using not_isWordChar_of_mark hc

theorem Word.stops_mark (w : Word) (s : List Char) :
    Stops (quotationMarks.contains ·) (w.text ++ s) := by
  refine w.stops (fun c hc => ?_) s
  by_contra hm
  rw [not_isWordChar_of_mark (by simpa using hm)] at hc
  cases hc

theorem Identifier.read (i : Identifier) (hs : Stops isNameChar s) :
    identifier? (i.text ++ s) = some (i.word.text, s) := by
  simp only [identifier?, Identifier.text, List.append_assoc, i.opening.read (i.word.stops_mark _),
    i.word.read (i.closing.stops (Stops.word hs)), i.closing.read (Stops.mark hs),
    Option.bind_eq_bind, Option.bind_some, Option.pure_def]

theorem exists_identifier (h : identifier? s = some (v, t)) :
    ∃ i : Identifier, s = i.text ++ t ∧ i.word.text = v := by
  simp only [identifier?, Option.bind_eq_bind, Option.bind_eq_some_iff, Option.pure_def,
    Option.some.injEq, Prod.mk.injEq, Prod.exists] at h
  obtain ⟨v', t', hw, rfl, rfl⟩ := h
  obtain ⟨opening, ho⟩ := exists_mark s
  obtain ⟨word, hs, rfl⟩ := exists_word hw
  obtain ⟨closing, hc⟩ := exists_mark t'
  refine ⟨⟨opening, word, closing⟩, ?_, rfl⟩
  rw [Identifier.text, List.append_assoc, List.append_assoc, ← hc, ← hs, ← ho]

theorem Identifier.append_inj {i j : Identifier} (he : i.text ++ s = j.text ++ t)
    (hs : Stops isNameChar s) (ht : Stops isNameChar t) : i = j ∧ s = t := by
  have hr := i.read hs
  rw [he, j.read ht] at hr
  simp only [Option.some.injEq, Prod.mk.injEq] at hr
  obtain ⟨hw, rfl⟩ := hr
  refine ⟨?_, rfl⟩
  have ho := congrArg skipMark he
  simp only [Identifier.text, List.append_assoc] at ho he
  rw [i.opening.read (i.word.stops_mark _), j.opening.read (j.word.stops_mark _), hw,
    List.append_cancel_left_eq, List.append_cancel_right_eq] at ho
  rw [← hw, ← ho, List.append_cancel_right_eq] at he
  exact Identifier.ext (Mark.ext he) (Word.ext hw.symm) (Mark.ext ho)

def Ending.rest (e : Ending) : List Char := if e.semicolon then ';' :: e.after.text else []

theorem Ending.skipBlanks_text (e : Ending) : skipBlanks e.text = e.rest := by
  obtain ⟨before, semicolon, after⟩ := e
  cases semicolon with
  | true => exact before.read (s := ';' :: after.text) (stops_cons_iff.2 (by decide))
  | false =>
    have h : ∀ c ∈ before.text ++ after.text, isBlank c = true := by
      intro c hc
      exact (List.mem_append.1 hc).elim (before.blank c) (after.blank c)
    have hr := dropWhile_run h stops_nil
    rw [List.append_nil] at hr
    exact hr

theorem Ending.stops_rest (e : Ending) (hp : p ';' = false) : Stops p e.rest := by
  obtain ⟨before, _ | _, after⟩ := e
  · exact stops_nil
  · exact stops_cons_iff.2 hp

theorem Ending.stops (e : Ending) (hb : ∀ c, isBlank c = true → p c = false) (hp : p ';' = false) :
    Stops p e.text := by
  obtain ⟨before, _ | _, after⟩ := e
  · apply before.stops hb
    rw [← List.append_nil (_ ++ _)]
    exact after.stops hb stops_nil
  · exact before.stops hb (stops_cons_iff.2 hp)

theorem Ending.stops_name (e : Ending) : Stops isNameChar e.text :=
  e.stops (fun _ => isNameChar_of_isBlank) (by decide)

theorem Ending.read (e : Ending) : isEnd e.text = true := by
  rw [isEnd, e.skipBlanks_text]
  obtain ⟨before, _ | _, after⟩ := e
  · rfl
  · have ha := after.read stops_nil
    rw [List.append_nil] at ha
    simp [Ending.rest, ha]

theorem exists_ending (h : isEnd s = true) : ∃ e : Ending, e.text = s := by
  obtain ⟨before, hs, -⟩ := exists_blanks s
  rw [isEnd] at h
  split at h
  · next hn => exact ⟨⟨before, false, ⟨[], by simp⟩⟩, by rw [hs, hn]; rfl⟩
  · next c t ht =>
    simp only [Bool.and_eq_true, decide_eq_true_eq, List.isEmpty_iff] at h
    obtain ⟨rfl, hn⟩ := h
    obtain ⟨after, ha, -⟩ := exists_blanks t
    rw [hn, List.append_nil] at ha
    exact ⟨⟨before, true, after⟩, by rw [hs, ht, ha]; rfl⟩

theorem Ending.tight (e : Ending) (h : EndsTight e.text) :
    e.after.text = [] ∧ (e.semicolon = false → e.before.text = []) := by
  have ha : e.after.text = [] := by
    rw [Ending.text, ← List.append_assoc] at h
    exact h.of_append.eq_nil e.after.blank
  refine ⟨ha, fun hs => ?_⟩
  rw [Ending.text, hs, ha] at h
  simp only [Bool.false_eq_true, if_false, List.append_nil] at h
  exact h.eq_nil e.before.blank

theorem Ending.text_inj {e f : Ending} (he : e.text = f.text) (h : EndsTight e.text) : e = f := by
  obtain ⟨hea, heb⟩ := e.tight h
  obtain ⟨hfa, hfb⟩ := f.tight (he ▸ h)
  have hr := e.skipBlanks_text
  rw [he, f.skipBlanks_text, Ending.rest, Ending.rest, hea, hfa] at hr
  have hs : e.semicolon = f.semicolon := by
    cases h₁ : e.semicolon <;> cases h₂ : f.semicolon <;> simp_all
  refine Ending.ext ?_ hs (Blanks.ext (hea.trans hfa.symm))
  rw [Ending.text, Ending.text, hea, hfa, hs, List.append_cancel_right_eq] at he
  exact Blanks.ext he

theorem Parameters.stops (p : Parameters) (s : List Char) : Stops isWordChar (p.text ++ s) := by
  rw [Parameters.text, List.append_assoc]
  exact p.before.stops (fun _ => isWordChar_of_isBlank) (stops_cons_iff.2 (by decide))

theorem Parameters.skipBlanks_text (p : Parameters) (s : List Char) :
    skipBlanks (p.text ++ s) = '(' :: (p.inner ++ ')' :: s) := by
  have hb : Stops isBlank ('(' :: (p.inner ++ [')']) ++ s) := stops_cons_iff.2 (by decide)
  rw [Parameters.text, List.append_assoc, p.before.read hb]
  simp

theorem Parameters.inner_run (p : Parameters) : ∀ c ∈ p.inner, decide (c ≠ ')') = true := by
  intro c hc
  simp only [ne_eq, decide_eq_true_eq]
  rintro rfl
  exact p.closed hc

theorem TypeToken.read (t : TypeToken) (hs : Stops isWordChar s)
    (hp : t.parameters = none → Stops (· = '(') (skipBlanks s)) :
    typeToken? (t.text ++ s) = some (t.text, s) := by
  obtain ⟨name, _ | p⟩ := t
  · have hp := hp rfl
    simp only [TypeToken.text, Option.map_none, Option.getD_none, List.append_nil, typeToken?,
      name.read hs, Option.bind_eq_bind, Option.bind_some]
    split
    · next hb => simp [hb] at hp
    · rfl
  · have hd : Stops (fun c => decide (c ≠ ')')) (')' :: s) := stops_cons_iff.2 (by decide)
    have hb : Stops isBlank ('(' :: (p.inner ++ [')']) ++ s) := stops_cons_iff.2 (by decide)
    have ht := takeWhile_run p.before.blank hb
    simp only [TypeToken.text, Option.map_some, Option.getD_some, List.append_assoc, typeToken?,
      name.read (p.stops s), Option.bind_eq_bind, Option.bind_some, p.skipBlanks_text,
      dropWhile_run p.inner_run hd, takeWhile_run p.inner_run hd]
    rw [Parameters.text, List.append_assoc, ht]
    simp

theorem exists_typeToken (h : typeToken? s = some (v, t)) :
    ∃ u : TypeToken, s = u.text ++ t ∧ u.text = v := by
  simp only [typeToken?, Option.bind_eq_bind, Option.bind_eq_some_iff, Prod.exists] at h
  obtain ⟨w, s', hw, h⟩ := h
  obtain ⟨name, rfl, rfl⟩ := exists_word hw
  have plain (h : some (name.text, s') = some (v, t)) :
      ∃ u : TypeToken, name.text ++ s' = u.text ++ t ∧ u.text = v := by
    simp only [Option.some.injEq, Prod.mk.injEq] at h
    obtain ⟨rfl, rfl⟩ := h
    exact ⟨⟨name, none⟩, by simp [TypeToken.text], by simp [TypeToken.text]⟩
  split at h
  · next body hb =>
    split at h
    · exact plain h
    · next c rest hd =>
      simp only [Option.pure_def, Option.some.injEq, Prod.mk.injEq] at h
      obtain ⟨rfl, rfl⟩ := h
      have hs := stops_dropWhile (fun c => decide (c ≠ ')')) body
      rw [hd, stops_cons_iff, decide_eq_false_iff_not, not_not] at hs
      have hn : ')' ∉ body.takeWhile (fun c => decide (c ≠ ')')) := by
        intro hc
        simpa using List.mem_takeWhile_imp hc
      refine ⟨⟨name, some ⟨⟨s'.takeWhile isBlank, fun _ => List.mem_takeWhile_imp⟩,
        body.takeWhile (fun c => decide (c ≠ ')')), hn⟩⟩, ?_, ?_⟩
      · have hbody := List.takeWhile_append_dropWhile (p := fun c => decide (c ≠ ')')) (l := body)
        have hs' := List.takeWhile_append_dropWhile (p := isBlank) (l := s')
        rw [hd, hs] at hbody
        rw [show s'.dropWhile isBlank = '(' :: body from hb, ← hbody] at hs'
        simpa [TypeToken.text, Parameters.text] using hs'.symm
      · simp [TypeToken.text, Parameters.text]
  · exact plain h

theorem TypeToken.text_inj {t u : TypeToken} (h : t.text = u.text) : t = u := by
  have stops (v : TypeToken) :
      Stops isWordChar ((v.parameters.map Parameters.text).getD []) := by
    cases v.parameters with
    | none => exact stops_nil
    | some p => simpa using p.stops []
  obtain ⟨hn, hp⟩ := run_append_inj h t.name.word u.name.word (stops t) (stops u)
  refine TypeToken.ext (Word.ext hn) ?_
  cases ht : t.parameters <;> cases hu : u.parameters <;>
    simp only [ht, hu, Option.map_none, Option.map_some, Option.getD_none, Option.getD_some] at hp
  case none.none => rfl
  case none.some => exact absurd hp (by simp [Parameters.text])
  case some.none => exact absurd hp (by simp [Parameters.text])
  case some.some p q =>
    obtain ⟨hb, hi⟩ := Blanks.append_inj (a := p.before) (b := q.before) hp
      (stops_cons_iff.2 (by decide)) (stops_cons_iff.2 (by decide))
    rw [List.cons.injEq, List.append_cancel_right_eq] at hi
    rw [Parameters.ext hb hi.2]

theorem TypeToken.append_inj {t u : TypeToken} (he : t.text ++ s = u.text ++ s')
    (hs : Stops isWordChar s) (hp : Stops (· = '(') (skipBlanks s))
    (hs' : Stops isWordChar s') (hp' : Stops (· = '(') (skipBlanks s')) : t = u ∧ s = s' := by
  have hr := t.read hs fun _ => hp
  rw [he, u.read hs' fun _ => hp'] at hr
  simp only [Option.some.injEq, Prod.mk.injEq] at hr
  exact ⟨text_inj hr.1.symm, hr.2.symm⟩

theorem eq_skipBlanks_of_afterGap? (h : afterGap? s = some t) : t = skipBlanks s := by
  obtain ⟨g, rfl, ht⟩ := exists_gap h
  exact (dropWhile_run g.blank ht).symm

theorem afterKeywords?_stops (hk : isKeyword k = true) (hs : Stops isWordChar s) :
    afterKeywords? (k :: ks) s = none := by
  rw [afterKeywords?, afterKeyword?_stops hk hs]
  rfl

theorem NullClause.read (n : NullClause) (e : Ending) :
    nullability (n.text ++ e.text) = (n.nullable, e.text) := by
  have hnot : isKeyword "not" = true := by decide
  have hnull : isKeyword "null" = true := by decide
  cases n with
  | unstated =>
    simp only [NullClause.text, List.nil_append, nullability, NullClause.nullable]
    split
    · rfl
    · next body hb =>
      have hs : Stops isWordChar body := by
        rw [eq_skipBlanks_of_afterGap? hb, e.skipBlanks_text]
        exact e.stops_rest (by decide)
      rw [afterKeywords?_stops hnot hs, afterKeyword?_stops hnull hs]
      rfl
  | null gap word =>
    have hn := afterKeyword?_apart (s := e.text) (lower_of_isKeyword hnot)
      (lower_of_isKeyword hnull) (by decide) word.spelled
    simp only [NullClause.text, List.append_assoc, nullability, gap.read (word.stops hnull _),
      afterKeywords?, hn, word.read hnull, Option.bind_eq_bind, Option.bind_none,
      NullClause.nullable]
  | notNull gap negation between word =>
    simp only [NullClause.text, List.append_assoc, nullability, gap.read (negation.stops hnot _),
      afterKeywords?, negation.read hnot, between.read (word.stops hnull _), word.read hnull,
      Option.bind_eq_bind, Option.bind_some, NullClause.nullable]

theorem exists_nullClause (h : nullability s = (v, t)) :
    ∃ n : NullClause, s = n.text ++ t ∧ n.nullable = v := by
  rw [nullability] at h
  split at h
  · cases h
    exact ⟨.unstated, rfl, rfl⟩
  · next body hb =>
    obtain ⟨gap, rfl, -⟩ := exists_gap hb
    split at h
    · next rest hr =>
      cases h
      rw [Option.bind_eq_bind, Option.bind_eq_some_iff] at hr
      obtain ⟨s₁, hp, hw⟩ := hr
      obtain ⟨phrase, rfl⟩ := exists_phrase hp
      obtain ⟨word, rfl⟩ := exists_keyword hw
      cases phrase with
      | cons negation between more =>
        cases more
        exact ⟨.notNull gap negation between word, by simp [NullClause.text, Phrase.text], rfl⟩
    · split at h
      · next rest hr =>
        cases h
        obtain ⟨word, rfl⟩ := exists_keyword hr
        exact ⟨.null gap word, by simp [NullClause.text], rfl⟩
      · cases h
        exact ⟨.unstated, rfl, rfl⟩

theorem NullClause.append_inj {m n : NullClause} {e f : Ending}
    (h : m.text ++ e.text = n.text ++ f.text) : m = n ∧ e.text = f.text := by
  have hr := m.read e
  rw [h, n.read f, Prod.mk.injEq] at hr
  obtain ⟨hn, he⟩ := hr
  refine ⟨?_, he.symm⟩
  cases m <;> cases n <;> cases hn
  case unstated => rfl
  case null gap word gap' word' =>
    simp only [NullClause.text, List.append_assoc] at h
    obtain ⟨hg, h⟩ := Gap.append_inj h (word.stops (by decide) _) (word'.stops (by decide) _)
    obtain ⟨hw, -⟩ := Keyword.append_inj h
    rw [hg, hw]
  case notNull gap negation between word gap' negation' between' word' =>
    simp only [NullClause.text, List.append_assoc] at h
    obtain ⟨hg, h⟩ := Gap.append_inj h (negation.stops (by decide) _)
      (negation'.stops (by decide) _)
    obtain ⟨hn, h⟩ := Keyword.append_inj h
    obtain ⟨hb, h⟩ := Gap.append_inj h (word.stops (by decide) _) (word'.stops (by decide) _)
    obtain ⟨hw, -⟩ := Keyword.append_inj h
    rw [hg, hn, hb, hw]

end SchemaPlan.Grammar
