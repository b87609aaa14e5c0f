import SchemaPlan.Proofs.Grammar.Token

namespace SchemaPlan.Grammar
open Form Text

/-- Keywords are written in small letters, at least one. -/
def isKeyword (k : String) : Bool := !k.toList.isEmpty && k.toList.all Char.isLower

theorem lower_of_isKeyword (hk : isKeyword k = true) : ∀ l ∈ k.toList, l.isLower = true := by
  simp only [isKeyword, Bool.and_eq_true, List.all_eq_true] at hk
  exact hk.2

theorem afterKeyword?_append (hk : ∀ l ∈ k, l.isLower = true) (h : List.Forall₂ SameLetter k w) :
    afterKeyword? k (w ++ s) = some s := by
  induction h with
  | nil => cases s <;> rfl
  | cons hl _ ih =>
    rw [List.cons_append, afterKeyword?, if_pos (isLetter_of_sameLetter (hk _ (by simp)) hl)]
    exact ih fun l hl => hk l (by simp [hl])

theorem exists_spelling (h : afterKeyword? k s = some t) :
    ∃ w, List.Forall₂ SameLetter k w ∧ s = w ++ t := by
  induction k generalizing s with
  | nil =>
    cases s <;> exact ⟨[], .nil, by simpa [afterKeyword?] using h⟩
  | cons l k ih =>
    cases s with
    | nil => cases h
    | cons c s =>
      rw [afterKeyword?] at h
      split at h
      · next hl =>
        obtain ⟨w, hw, rfl⟩ := ih h
        exact ⟨c :: w, .cons (sameLetter_of_isLetter hl) hw, rfl⟩
      · cases h

theorem Keyword.read (hk : isKeyword k = true) (w : Keyword k) (s : List Char) :
    afterKeyword? k.toList (w.text ++ s) = some s :=
  afterKeyword?_append (lower_of_isKeyword hk) w.spelled

theorem exists_keyword (h : afterKeyword? k.toList s = some t) :
    ∃ w : Keyword k, s = w.text ++ t := by
  obtain ⟨w, hw, hs⟩ := exists_spelling h
  exact ⟨⟨w, hw⟩, hs⟩

theorem exists_letter (h : List.Forall₂ SameLetter k w) (hc : c ∈ w) :
    ∃ l ∈ k, SameLetter l c := by
  induction h with
  | nil => cases hc
  | cons hl _ ih =>
    rcases List.mem_cons.1 hc with rfl | hc
    · exact ⟨_, by simp, hl⟩
    · obtain ⟨l, hk, hl⟩ := ih hc
      exact ⟨l, by simp [hk], hl⟩

def Keyword.toWord (hk : isKeyword k = true) (w : Keyword k) : Word where
  text := w.text
  nonempty := by
    intro hn
    have hs := w.spelled
    rw [hn, List.forall₂_nil_right_iff] at hs
    simp [isKeyword, hs] at hk
  word := by
    intro c hc
    obtain ⟨l, hl, hs⟩ := exists_letter w.spelled hc
    exact isWordChar_of_sameLetter (lower_of_isKeyword hk l hl) hs

theorem Word.stops (w : Word) (hp : ∀ c, isWordChar c = true → p c = false) (s : List Char) :
    Stops p (w.text ++ s) :=
  stops_append w.nonempty fun c hc => hp c (w.word c (List.mem_of_head? hc))

theorem Keyword.stops (hk : isKeyword k = true) (w : Keyword k) (s : List Char) :
    Stops isBlank (w.text ++ s) :=
  (w.toWord hk).stops (fun _ => isBlank_of_isWordChar) s

theorem afterKeyword?_stops (hk : isKeyword k = true) (hs : Stops isWordChar s) :
    afterKeyword? k.toList s = none := by
  cases h : afterKeyword? k.toList s with
  | none => rfl
  | some t =>
    obtain ⟨w, rfl⟩ := exists_keyword h
    have hw : (w.text ++ t).takeWhile isWordChar = w.text ++ t.takeWhile isWordChar :=
      List.takeWhile_append_of_pos (w.toWord hk).word
    rw [hs.takeWhile] at hw
    exact absurd (List.append_eq_nil_iff.1 hw.symm).1 (w.toWord hk).nonempty

theorem Keyword.append_inj {v w : Keyword k} (h : v.text ++ s = w.text ++ t) : v = w ∧ s = t := by
  have hl : v.text.length = w.text.length := v.spelled.length_eq.symm.trans w.spelled.length_eq
  exact (List.append_inj h hl).imp_left Keyword.ext

/-- Two keywords differ at a place where both have a letter. -/
def apart : List Char → List Char → Bool
  | l :: k, l' :: k' => l ≠ l' || apart k k'
  | _, _ => false

theorem afterKeyword?_apart (hk : ∀ l ∈ k, l.isLower = true) (hj : ∀ l ∈ j, l.isLower = true)
    (h : apart k j = true) (hw : List.Forall₂ SameLetter j w) :
    afterKeyword? k (w ++ s) = none := by
  induction hw generalizing k with
  | nil => cases k <;> cases h
  | @cons l c j w hl _ ih =>
    cases k with
    | nil => cases h
    | cons l' k =>
      rw [List.cons_append, afterKeyword?]
      split
      · next hl' =>
        have he := (sameLetter_of_isLetter hl').eq_smallLetter (hk l' (by simp))
        rw [← hl.eq_smallLetter (hj l (by simp))] at he
        simp only [apart, he, ne_eq, not_true, decide_false, Bool.false_or] at h
        exact ih (fun l hl => hk l (by simp [hl])) (fun l hl => hj l (by simp [hl])) h
      · rfl

theorem Gap.stops (g : Gap) (hp : ∀ c, isBlank c = true → p c = false) (s : List Char) :
    Stops p (g.text ++ s) := by
  refine stops_append g.nonempty fun c hc => hp c (g.blank c (List.mem_of_head? hc))

theorem Gap.read (g : Gap) (hs : Stops isBlank s) : afterGap? (g.text ++ s) = some s := by
  obtain ⟨text, hn, hb⟩ := g
  cases text with
  | nil => exact absurd rfl hn
  | cons c text =>
    rw [List.cons_append, afterGap?, if_pos (hb c (by simp)), skipBlanks,
      dropWhile_run (fun d hd => hb d (by simp [hd])) hs]

theorem exists_gap (h : afterGap? s = some t) : ∃ g : Gap, s = g.text ++ t ∧ Stops isBlank t := by
  cases s with
  | nil => cases h
  | cons c s =>
    rw [afterGap?] at h
    split at h
    · next hc =>
      obtain rfl := Option.some.inj h
      refine ⟨⟨c :: s.takeWhile isBlank, by simp, ?_⟩, by simp [skipBlanks], stops_dropWhile _ _⟩
      intro d hd
      rcases List.mem_cons.1 hd with rfl | hd
      · exact hc
      · exact List.mem_takeWhile_imp hd
    · cases h

theorem Gap.append_inj {g h : Gap} (he : g.text ++ s = h.text ++ t) (hs : Stops isBlank s)
    (ht : Stops isBlank t) : g = h ∧ s = t :=
  (run_append_inj he g.blank h.blank hs ht).imp_left Gap.ext

theorem Blanks.read (b : Blanks) (hs : Stops isBlank s) : skipBlanks (b.text ++ s) = s :=
  dropWhile_run b.blank hs

theorem exists_blanks (s : List Char) :
    ∃ b : Blanks, s = b.text ++ skipBlanks s ∧ Stops isBlank (skipBlanks s) :=
  ⟨⟨s.takeWhile isBlank, fun _ => List.mem_takeWhile_imp⟩,
    List.takeWhile_append_dropWhile.symm, stops_dropWhile _ _⟩

theorem Blanks.append_inj {a b : Blanks} (he : a.text ++ s = b.text ++ t) (hs : Stops isBlank s)
    (ht : Stops isBlank t) : a = b ∧ s = t :=
  (run_append_inj he a.blank b.blank hs ht).imp_left Blanks.ext

theorem Phrase.stops (hk : ks.all isKeyword = true) (p : Phrase ks) (hs : Stops isBlank s) :
    Stops isBlank (p.text ++ s) := by
  cases p with
  | nil => exact hs
  | cons word gap more =>
    simp only [List.all_cons, Bool.and_eq_true] at hk
    rw [Phrase.text, List.append_assoc]
    exact word.stops hk.1 _

theorem Phrase.read (hk : ks.all isKeyword = true) (p : Phrase ks) (hs : Stops isBlank s) :
    afterKeywords? ks (p.text ++ s) = some s := by
  induction p with
  | nil => rfl
  | cons word gap more ih =>
    simp only [List.all_cons, Bool.and_eq_true] at hk
    simp only [Phrase.text, List.append_assoc, afterKeywords?, word.read hk.1,
      gap.read (more.stops hk.2 hs), Option.bind_eq_bind, Option.bind_some, ih hk.2]

theorem exists_phrase (h : afterKeywords? ks s = some t) : ∃ p : Phrase ks, s = p.text ++ t := by
  induction ks generalizing s with
  | nil => exact ⟨.nil, Option.some.inj h⟩
  | cons k ks ih =>
    simp only [afterKeywords?, Option.bind_eq_bind, Option.bind_eq_some_iff] at h
    obtain ⟨s₁, h₁, s₂, h₂, h⟩ := h
    obtain ⟨word, rfl⟩ := exists_keyword h₁
    obtain ⟨gap, rfl, -⟩ := exists_gap h₂
    obtain ⟨more, rfl⟩ := ih h
    exact ⟨.cons word gap more, by simp [Phrase.text]⟩

theorem Phrase.append_inj (hk : ks.all isKeyword = true) {p q : Phrase ks}
    (he : p.text ++ s = q.text ++ t) (hs : Stops isBlank s) (ht : Stops isBlank t) :
    p = q ∧ s = t := by
  induction p with
  | nil => cases q; exact ⟨rfl, he⟩
  | cons word gap more ih =>
    cases q with
    | cons word' gap' more' =>
      simp only [List.all_cons, Bool.and_eq_true] at hk
      simp only [Phrase.text, List.append_assoc] at he
      obtain ⟨hw, he⟩ := Keyword.append_inj he
      obtain ⟨hg, he⟩ := Gap.append_inj he (more.stops hk.2 hs) (more'.stops hk.2 ht)
      obtain ⟨hm, he⟩ := ih hk.2 he
      exact ⟨by rw [hw, hg, hm], he⟩

/-- Two phrases begin with the same keywords, and then with keywords that differ. -/
def phrasesApart : List String → List String → Bool
  | k :: ks, j :: js => apart k.toList j.toList || (k = j && phrasesApart ks js)
  | _, _ => false

theorem Phrase.read_apart (hk : ks.all isKeyword = true) (hj : js.all isKeyword = true)
    (h : phrasesApart ks js = true) (p : Phrase js) (hs : Stops isBlank s) :
    afterKeywords? ks (p.text ++ s) = none := by
  induction p generalizing ks with
  | nil => cases ks <;> cases h
  | @cons j js word gap more ih =>
    cases ks with
    | nil => cases h
    | cons k ks =>
      simp only [List.all_cons, Bool.and_eq_true] at hk hj
      simp only [phrasesApart, Bool.or_eq_true, Bool.and_eq_true, decide_eq_true_eq] at h
      simp only [Phrase.text, List.append_assoc, afterKeywords?, Option.bind_eq_bind]
      rcases h with h | ⟨rfl, h⟩
      · rw [afterKeyword?_apart (lower_of_isKeyword hk.1) (lower_of_isKeyword hj.1) h word.spelled]
        rfl
      · rw [word.read hk.1, Option.bind_some, gap.read (more.stops hj.2 hs), Option.bind_some]
        exact ih hk.2 hj.2 h

end SchemaPlan.Grammar
