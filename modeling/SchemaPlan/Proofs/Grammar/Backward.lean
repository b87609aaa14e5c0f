import SchemaPlan.Proofs.Grammar.Reading

namespace SchemaPlan.Grammar
open Form Text

variable {s t : List Char}

theorem Word.endsOutside (w : Word) (hp : ∀ c, isWordChar c = true → p c = false) :
    EndsOutside p (s ++ w.text) :=
  endsOutside_append_run w.nonempty fun c hc => hp c (w.word c hc)

theorem Gap.endsOutside (g : Gap) (hp : ∀ c, isBlank c = true → p c = false) :
    EndsOutside p (s ++ g.text) :=
  endsOutside_append_run g.nonempty fun c hc => hp c (g.blank c hc)

theorem Gap.endsOutside_word (g : Gap) : EndsOutside isWordChar (s ++ g.text) :=
  g.endsOutside fun _ => isWordChar_of_isBlank

theorem Word.last_inj {v w : Word} (h : s ++ v.text = t ++ w.text) (hs : EndsOutside isWordChar s)
    (ht : EndsOutside isWordChar t) : s = t ∧ v = w :=
  (append_run_inj h v.word w.word hs ht).imp_right Word.ext

theorem Gap.last_inj {g h : Gap} (he : s ++ g.text = t ++ h.text) (hs : EndsOutside isBlank s)
    (ht : EndsOutside isBlank t) : s = t ∧ g = h :=
  (append_run_inj he g.blank h.blank hs ht).imp_right Gap.ext

theorem Phrase.endsOutside (p : Phrase (k :: ks)) :
    EndsOutside isWordChar (s ++ p.text) := by
  induction ks generalizing k s with
  | nil =>
    cases p with
    | cons word gap more =>
      cases more
      rw [Phrase.text, Phrase.text, List.append_nil, ← List.append_assoc]
      exact gap.endsOutside_word
  | cons j ks ih =>
    cases p with
    | cons word gap more =>
      rw [Phrase.text, ← List.append_assoc, ← List.append_assoc]
      exact ih more

def isEndChar (c : Char) : Bool := isBlank c || c = ';'

theorem isEndChar_of_isWordChar (h : isWordChar c = true) : isEndChar c = false := by
  rw [isEndChar, isBlank_of_isWordChar h, Bool.false_or, decide_eq_false_iff_not]
  rintro rfl
  exact absurd h (by decide)

theorem Ending.isEndChar (e : Ending) : ∀ c ∈ e.text, isEndChar c = true := by
  intro c hc
  rw [Ending.text, List.mem_append, List.mem_append] at hc
  rcases hc with hc | hc | hc
  · rw [Grammar.isEndChar, e.before.blank c hc, Bool.true_or]
  · split at hc
    · rw [List.mem_singleton.1 hc]
      decide
    · cases hc
  · rw [Grammar.isEndChar, e.after.blank c hc, Bool.true_or]

theorem Ending.last_inj {e f : Ending} (h : s ++ e.text = t ++ f.text)
    (hs : EndsOutside Grammar.isEndChar s) (ht : EndsOutside Grammar.isEndChar t) :
    s = t ∧ e.text = f.text :=
  append_run_inj h e.isEndChar f.isEndChar hs ht

theorem outside_marks {p : Char → Bool} (h : quotationMarks.all (fun c => !p c) = true) :
    ∀ c ∈ quotationMarks, p c = false := by
  intro c hc
  simpa using List.all_eq_true.1 h c hc

theorem Mark.endsOutside (m : Mark) (hp : ∀ c ∈ quotationMarks, p c = false)
    (hs : EndsOutside p s) : EndsOutside p (s ++ m.text) := by
  obtain ⟨text, rfl | ⟨c, hc, rfl⟩⟩ := m
  · rwa [List.append_nil]
  · apply endsOutside_append (List.cons_ne_nil c [])
    intro d hd
    obtain rfl := Option.some.inj hd
    exact hp c hc

theorem Identifier.endsOutside (i : Identifier) (hw : ∀ c, isWordChar c = true → p c = false)
    (hm : ∀ c ∈ quotationMarks, p c = false) : EndsOutside p (s ++ i.text) := by
  rw [Identifier.text, ← List.append_assoc, ← List.append_assoc]
  exact i.closing.endsOutside hm (i.word.endsOutside hw)

theorem Identifier.endsOutside_end (i : Identifier) : EndsOutside isEndChar (s ++ i.text) :=
  i.endsOutside (fun _ => isEndChar_of_isWordChar) (outside_marks (by decide))

theorem Mark.text_eq_nil {m : Mark} (h : s ++ m.text = t) (hm : ∀ c ∈ quotationMarks, p c = true)
    (ht : EndsOutside p t) : m.text = [] := by
  obtain ⟨text, rfl | ⟨c, hc, rfl⟩⟩ := m
  · rfl
  · have hp := ht c (by rw [← h, List.getLast?_concat]; rfl)
    rw [hm c hc] at hp
    cases hp

theorem Word.endsOutside_mark (w : Word) :
    EndsOutside (quotationMarks.contains ·) (s ++ w.text) := by
  apply w.endsOutside
  intro c hc
  by_contra hm
  rw [not_isWordChar_of_mark (by simpa using hm)] at hc
  cases hc

theorem Gap.endsOutside_mark (g : Gap) :
    EndsOutside (quotationMarks.contains ·) (s ++ g.text) := by
  apply g.endsOutside
  intro c hc
  have hn := isNameChar_of_isBlank hc
  rw [isNameChar, Bool.or_eq_false_iff] at hn
  exact hn.2

theorem Identifier.last_inj {i : Identifier} {w : Word} (h : s ++ i.text = t ++ w.text)
    (hs : EndsOutside isWordChar s) (ht : EndsOutside isWordChar t) :
    i.closing.text = [] ∧ i.word = w ∧ s ++ i.opening.text = t := by
  rw [Identifier.text, ← List.append_assoc, ← List.append_assoc] at h
  have hc : i.closing.text = [] :=
    Mark.text_eq_nil h (fun c hc => by simpa using hc) w.endsOutside_mark
  rw [hc, List.append_nil] at h
  have ho : EndsOutside isWordChar (s ++ i.opening.text) :=
    i.opening.endsOutside (fun c => not_isWordChar_of_mark) hs
  obtain ⟨hl, hw⟩ := Word.last_inj h ho ht
  exact ⟨hc, hw, hl⟩

theorem TypeToken.exists_closed (name : Word) (p : Parameters) :
    ∃ u, TypeToken.text ⟨name, some p⟩ = u ++ [')'] :=
  ⟨name.text ++ (p.before.text ++ '(' :: p.inner), by simp [TypeToken.text, Parameters.text]⟩

theorem TypeToken.text_plain (name : Word) : TypeToken.text ⟨name, none⟩ = name.text :=
  List.append_nil _

theorem TypeToken.endsOutside (y : TypeToken) (hw : ∀ c, isWordChar c = true → p c = false)
    (hc : p ')' = false) : EndsOutside p (s ++ y.text) := by
  obtain ⟨name, _ | parameters⟩ := y
  · rw [text_plain]
    exact name.endsOutside hw
  · obtain ⟨u, hu⟩ := exists_closed name parameters
    rw [hu, ← List.append_assoc]
    exact endsOutside_concat hc

theorem TypeToken.endsOutside_end (y : TypeToken) : EndsOutside isEndChar (s ++ y.text) :=
  y.endsOutside (fun _ => isEndChar_of_isWordChar) (by decide)

theorem Keyword.endsOutside_end (w : Keyword k) (hk : isKeyword k = true) :
    EndsOutside isEndChar (s ++ w.text) :=
  (w.toWord hk).endsOutside fun _ => isEndChar_of_isWordChar

theorem NullClause.endsOutside_end (n : NullClause) (hs : EndsOutside isEndChar s) :
    EndsOutside isEndChar (s ++ n.text) := by
  cases n with
  | unstated => rwa [NullClause.text, List.append_nil]
  | null gap word =>
    rw [NullClause.text, ← List.append_assoc]
    exact word.endsOutside_end (by decide)
  | notNull gap negation between word =>
    rw [NullClause.text, ← List.append_assoc, ← List.append_assoc, ← List.append_assoc]
    exact word.endsOutside_end (by decide)

theorem TypeToken.last_inj {y : TypeToken} {w : Word} (h : s ++ y.text = t ++ w.text)
    (hs : EndsOutside isWordChar s) (ht : EndsOutside isWordChar t) :
    y = ⟨w, none⟩ ∧ s = t := by
  obtain ⟨name, _ | parameters⟩ := y
  · rw [text_plain] at h
    obtain ⟨hl, rfl⟩ := Word.last_inj h hs ht
    exact ⟨rfl, hl⟩
  · -- The text would end in a parenthesis.
    obtain ⟨u, hu⟩ := exists_closed name parameters
    have hw : EndsOutside (· = ')') (t ++ w.text) := by
      apply w.endsOutside
      intro c hc
      rw [decide_eq_false_iff_not]
      rintro rfl
      exact absurd hc (by decide)
    have hp := hw ')' (by rw [← h, hu, ← List.append_assoc, List.getLast?_concat]; rfl)
    exact absurd hp (by decide)

end SchemaPlan.Grammar
