import SchemaPlan.Form
import SchemaPlan.Proofs.Text.LetterCase

namespace SchemaPlan
open Text

namespace Form

theorem isLetter_toLower (letter c : Char) : isLetter letter c.toLower = isLetter letter c := by
  have hl : c.toLower.toLower = c.toLower := blind (f := Char.toLower) (by decide) c
  have hn (n : Nat) (h : ∀ m < 128, (Char.ofNat m).toLower.toNat = n ↔ (Char.ofNat m).toNat = n) :
      c.toLower.toNat = n ↔ c.toNat = n := by
    simpa using blind (f := fun c => decide (c.toNat = n)) (fun m hm => by simpa using h m hm) c
  rw [isLetter, isLetter, hl, decide_eq_decide.2 (hn 0x130 (by decide)),
    decide_eq_decide.2 (hn 0x131 (by decide))]

theorem afterKeyword?_fold (k s : List Char) :
    afterKeyword? k (fold s) = (afterKeyword? k s).map fold := by
  induction k generalizing s with
  | nil => cases s <;> rfl
  | cons l k ih =>
    cases s with
    | nil => rfl
    | cons c s =>
      rw [fold_cons, afterKeyword?, afterKeyword?, isLetter_toLower, ih]
      split <;> rfl

theorem skipBlanks_fold (s : List Char) : skipBlanks (fold s) = fold (skipBlanks s) :=
  dropWhile_fold isBlank_toLower s

theorem afterGap?_fold (s : List Char) : afterGap? (fold s) = (afterGap? s).map fold := by
  cases s with
  | nil => rfl
  | cons c s =>
    rw [fold_cons, afterGap?, afterGap?, isBlank_toLower, skipBlanks_fold]
    split <;> rfl

theorem afterKeywords?_fold (ks : List String) (s : List Char) :
    afterKeywords? ks (fold s) = (afterKeywords? ks s).map fold := by
  induction ks generalizing s with
  | nil => rfl
  | cons k ks ih =>
    simp only [afterKeywords?, afterKeyword?_fold, Option.bind_eq_bind]
    cases afterKeyword? k.toList s with
    | none => rfl
    | some t =>
      simp only [Option.map_some, Option.bind_some, afterGap?_fold]
      cases afterGap? t with
      | none => rfl
      | some u => exact ih u

theorem after?_fold (hd : ∀ c : Char, c.toLower = d ↔ c = d) (s : List Char) :
    after? d (fold s) = (after? d s).map fold := by
  cases s with
  | nil => rfl
  | cons c s =>
    simp only [fold_cons, after?, hd]
    split <;> rfl

theorem isMark_toLower (c : Char) :
    quotationMarks.contains c.toLower = quotationMarks.contains c := blind (by decide) c

theorem skipMark_fold (s : List Char) : skipMark (fold s) = fold (skipMark s) := by
  cases s with
  | nil => rfl
  | cons c s =>
    rw [fold_cons, skipMark, skipMark, isMark_toLower]
    split <;> rfl

theorem word?_fold (s : List Char) : word? (fold s) = (word? s).map (Prod.map fold fold) := by
  rw [word?, word?, takeWhile_fold isWordChar_toLower, dropWhile_fold isWordChar_toLower]
  cases s.takeWhile isWordChar <;> rfl

theorem identifier?_fold (s : List Char) :
    identifier? (fold s) = (identifier? s).map (Prod.map fold fold) := by
  simp only [identifier?, skipMark_fold, word?_fold, Option.bind_eq_bind]
  cases word? (skipMark s) with
  | none => rfl
  | some p => simp [skipMark_fold]

theorem isEnd_fold (s : List Char) : isEnd (fold s) = isEnd s := by
  rw [isEnd, isEnd, skipBlanks_fold]
  cases skipBlanks s with
  | nil => rfl
  | cons c t =>
    have hc := toLower_eq_iff (d := ';') (by decide) c
    simp only [fold_cons, hc, skipBlanks_fold, isEmpty_fold]

theorem typeToken?_fold (s : List Char) :
    typeToken? (fold s) = (typeToken? s).map (Prod.map fold fold) := by
  have ho (c : Char) : c.toLower = '(' ↔ c = '(' := toLower_eq_iff (by decide) c
  have hc (c : Char) : decide (c.toLower ≠ ')') = decide (c ≠ ')') :=
    blind (f := fun c => decide (c ≠ ')')) (by decide) c
  simp only [typeToken?, word?_fold, Option.bind_eq_bind]
  cases word? s with
  | none => rfl
  | some p =>
    obtain ⟨name, t⟩ := p
    simp only [Option.map_some, Option.bind_some, Prod.map_apply, skipBlanks_fold]
    cases skipBlanks t with
    | nil => rfl
    | cons c body =>
      by_cases hp : c = '('
      · subst hp
        have hd := dropWhile_fold (p := fun c => decide (c ≠ ')')) hc body
        have ht := takeWhile_fold (p := fun c => decide (c ≠ ')')) hc body
        have hb := takeWhile_fold isBlank_toLower t
        simp only [fold_cons, (ho '(').2 rfl, hd, ht, hb]
        cases body.dropWhile (fun c => decide (c ≠ ')')) with
        | nil => rfl
        | cons d rest => simp [(ho '(').2 rfl]
      · simp [hp, ho c]

theorem nullability_fold (s : List Char) :
    nullability (fold s) = Prod.map id fold (nullability s) := by
  rw [nullability, nullability, afterGap?_fold]
  cases afterGap? s with
  | none => rfl
  | some body =>
    have hn : ((afterKeywords? ["not"] body).map fold).bind (afterKeyword? "null".toList) =
        ((afterKeywords? ["not"] body).bind (afterKeyword? "null".toList)).map fold := by
      cases afterKeywords? ["not"] body with
      | none => rfl
      | some t => exact afterKeyword?_fold _ t
    simp only [Option.map_some, afterKeywords?_fold, afterKeyword?_fold, Option.bind_eq_bind, hn]
    cases (afterKeywords? ["not"] body).bind (afterKeyword? "null".toList) with
    | some rest => rfl
    | none => cases afterKeyword? "null".toList body <;> rfl

def fold : Form → Form
  | createTable table => .createTable (Text.fold table)
  | dropTable table => .dropTable (Text.fold table)
  | addColumn table column typeToken nullable =>
    .addColumn (Text.fold table) (Text.fold column) (Text.fold typeToken) nullable
  | dropColumn table column => .dropColumn (Text.fold table) (Text.fold column)
  | createIndex unique name table column =>
    .createIndex unique (Text.fold name) (Text.fold table) (Text.fold column)
  | dropIndex name table => .dropIndex (Text.fold name) (table.map Text.fold)

theorem dropIndex?_fold (s : List Char) : dropIndex? (Text.fold s) = (dropIndex? s).map fold := by
  have hon (u : List Char) :
      ((afterGap? (Text.fold u)).bind (afterKeywords? ["on"])).bind identifier? =
        (((afterGap? u).bind (afterKeywords? ["on"])).bind identifier?).map
          (Prod.map Text.fold Text.fold) := by
    rw [afterGap?_fold]
    cases afterGap? u with
    | none => rfl
    | some body =>
      simp only [Option.map_some, Option.bind_some, afterKeywords?_fold]
      cases afterKeywords? ["on"] body with
      | none => rfl
      | some rest => exact identifier?_fold rest
  simp only [dropIndex?, afterKeywords?_fold, identifier?_fold, Option.bind_eq_bind,
    Option.bind_map, Option.map_bind, Function.comp_def]
  congr 2
  funext t
  congr 2
  funext ⟨name, u⟩
  simp only [Prod.map_apply, hon, isEnd_fold]
  cases ((afterGap? u).bind (afterKeywords? ["on"])).bind identifier? with
  | none => cases isEnd u <;> rfl
  | some p =>
    obtain ⟨table, rest⟩ := p
    simp only [Option.map_some, Prod.map_apply, isEnd_fold]
    cases isEnd rest <;> rfl

theorem reader_fold {reader : List Char → Option Form} (hr : reader ∈ readers) (s : List Char) :
    reader (Text.fold s) = (reader s).map fold := by
  have ho := after?_fold (toLower_eq_iff (d := '(') (by decide))
  have hc := after?_fold (toLower_eq_iff (d := ')') (by decide))
  simp only [readers, List.mem_cons, List.not_mem_nil, or_false] at hr
  rcases hr with rfl | rfl | rfl | rfl | rfl | rfl | rfl
  case inr.inr.inr.inr.inr.inr => exact dropIndex?_fold s
  all_goals
    simp only [createTable?, dropTable?, addColumn?, dropColumn?, createIndex?,
      afterKeywords?_fold, identifier?_fold, afterGap?_fold, typeToken?_fold, nullability_fold,
      skipBlanks_fold, ho, hc, isEnd_fold, Option.bind_eq_bind, Option.bind_map, Option.map_bind,
      Function.comp_def, Option.pure_def, Option.map_some, Prod.map_fst, Prod.map_snd, fold, id]

theorem read?_fold (s : List Char) : Form.read? (Text.fold s) = (Form.read? s).map fold := by
  have h (order : List (List Char → Option Form)) (ho : order ⊆ readers) :
      order.findSome? (· (Text.fold s)) = (order.findSome? (· s)).map fold := by
    induction order with
    | nil => rfl
    | cons reader order ih =>
      obtain ⟨hr, ho⟩ := List.cons_subset.1 ho
      rw [List.findSome?_cons, List.findSome?_cons, reader_fold hr, ih ho]
      cases reader s <;> rfl
  exact h readers (List.Subset.refl _)

end Form

end SchemaPlan
