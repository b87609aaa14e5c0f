import SchemaPlan.Proofs.Text.Lines

namespace SchemaPlan.Text

variable {a d : Char} {p : Char → Bool}

/-- The text with its ASCII letters in small letters and all other characters as they are. -/
def fold (s : List Char) : List Char := s.map Char.toLower

@[simp] theorem fold_nil : fold [] = [] := rfl

@[simp] theorem fold_cons (c : Char) (s : List Char) : fold (c :: s) = c.toLower :: fold s := rfl

@[simp] theorem fold_append (s t : List Char) : fold (s ++ t) = fold s ++ fold t :=
  List.map_append

@[simp] theorem isEmpty_fold (s : List Char) : (fold s).isEmpty = s.isEmpty := List.isEmpty_map

theorem reverse_fold (s : List Char) : (fold s).reverse = fold s.reverse :=
  List.map_reverse.symm

/-- What does not tell the cases of a letter apart in ASCII never does. -/
theorem blind {f : Char → α} (h : ∀ n < 128, f (Char.ofNat n).toLower = f (Char.ofNat n))
    (c : Char) : f c.toLower = f c := by
  by_cases hc : c.toNat < 128
  · exact ascii_cases (P := fun c => f c.toLower = f c) h hc
  · rw [toLower_of_not_ascii hc]

theorem toLower_eq_iff (hd : ∀ n < 128, (Char.ofNat n).toLower = d ↔ Char.ofNat n = d) (c : Char) :
    c.toLower = d ↔ c = d := by
  have h := blind (f := fun c => decide (c = d)) (fun n hn => by simpa using hd n hn) c
  simpa using h

theorem isBlank_toLower (c : Char) : isBlank c.toLower = isBlank c := blind (by decide) c

theorem isWordChar_toLower (c : Char) : isWordChar c.toLower = isWordChar c := blind (by decide) c

theorem isDigitChar_toLower (c : Char) : isDigitChar c.toLower = isDigitChar c :=
  blind (by decide +kernel) c

theorem isCased_toLower (c : Char) : isCased c.toLower = isCased c := blind (by decide +kernel) c

theorem isCaseIgnorable_toLower (c : Char) : isCaseIgnorable c.toLower = isCaseIgnorable c :=
  blind (by decide +kernel) c

theorem lowerChar_toLower (c : Char) : lowerChar c.toLower = lowerChar c := blind (by decide) c

theorem takeWhile_fold (hp : ∀ c : Char, p c.toLower = p c) (s : List Char) :
    (fold s).takeWhile p = fold (s.takeWhile p) := by
  rw [fold, List.takeWhile_map, funext (f := p ∘ Char.toLower) hp, fold]

theorem dropWhile_fold (hp : ∀ c : Char, p c.toLower = p c) (s : List Char) :
    (fold s).dropWhile p = fold (s.dropWhile p) := by
  rw [fold, List.dropWhile_map, funext (f := p ∘ Char.toLower) hp, fold]

theorem all_fold (hp : ∀ c : Char, p c.toLower = p c) (s : List Char) :
    (fold s).all p = s.all p := by
  rw [fold, List.all_map, funext (f := p ∘ Char.toLower) hp]

theorem trim_fold (s : List Char) : trim (fold s) = fold (trim s) := by
  have hr (s : List Char) : (fold s).rdropWhile isBlank = fold (s.rdropWhile isBlank) := by
    rw [List.rdropWhile, List.rdropWhile, reverse_fold, dropWhile_fold isBlank_toLower,
      reverse_fold]
  rw [trim, trim, trimEnd_eq_rdropWhile, trimEnd_eq_rdropWhile, trimStart, trimStart,
    dropWhile_fold isBlank_toLower, hr]

theorem stripChars_fold {marks : List Char}
    (hm : ∀ c : Char, marks.contains c.toLower = marks.contains c) (s : List Char) :
    stripChars marks (fold s) = fold (stripChars marks s) := by
  have hd (s : List Char) : (fold s).dropWhile (fun c => marks.contains c) =
      fold (s.dropWhile fun c => marks.contains c) := dropWhile_fold hm s
  simp only [stripChars, hd, reverse_fold]

theorem splitOn_fold (ha : ∀ c : Char, c.toLower = a ↔ c = a) (s : List Char) :
    splitOn a (fold s) = (splitOn a s).map fold := by
  induction s with
  | nil => rfl
  | cons c s ih =>
    rw [fold_cons, splitOn, splitOn, ih]
    by_cases hc : c = a
    · rw [if_pos ((ha c).2 hc), if_pos hc]
      rfl
    · rw [if_neg (fun h => hc ((ha c).1 h)), if_neg hc]
      cases splitOn a s <;> rfl

theorem beforeCased_fold (s : List Char) : beforeCased (fold s) = beforeCased s := by
  induction s with
  | nil => rfl
  | cons c s ih =>
    rw [fold_cons, beforeCased, beforeCased, isCaseIgnorable_toLower, isCased_toLower, ih]

/-- A letter has a case, whichever it is, so the form of a sigma does not depend on it. -/
theorem lowerAfter_fold (cased : Bool) (s : List Char) :
    lowerAfter cased (fold s) = lowerAfter cased s := by
  induction s generalizing cased with
  | nil => rfl
  | cons c s ih =>
    have hs := toLower_eq_iff (d := 'Σ') (by decide) c
    simp only [fold_cons, lowerAfter, hs, beforeCased_fold, lowerChar_toLower,
      isCaseIgnorable_toLower, isCased_toLower, ih]

theorem lower_fold (s : List Char) : lower (fold s) = lower s := lowerAfter_fold false s

theorem fold_digits (h : s.all isDigitChar = true) : fold s = s := by
  have hd (c : Char) (hc : isDigitChar c = true) : c.toLower = c := by
    by_cases ha : c.toNat < 128
    · revert hc
      exact ascii_cases (P := fun c => isDigitChar c = true → c.toLower = c) (by decide +kernel) ha
    · exact toLower_of_not_ascii ha
  rw [fold, List.map_congr_left fun c hc => hd c (List.all_eq_true.1 h c hc), List.map_id']

end SchemaPlan.Text
