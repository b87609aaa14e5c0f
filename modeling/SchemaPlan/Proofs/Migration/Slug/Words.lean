import SchemaPlan.Proofs.Migration.Slug.Parted

namespace SchemaPlan.Slug

variable {prev : Option Char}

abbrev Pattern := List Char → Option (List Char × List Char)

/-- Puts an underscore between the parts of each match, from left to right; `taken` tells how many
characters still belong to the last match. -/
def partMatches (pattern : Pattern) : Nat → List Char → List Char
  | _, [] => []
  | taken + 1, _ :: rest => partMatches pattern taken rest
  | 0, c :: rest =>
    match pattern (c :: rest) with
    | some (before, behind) =>
      before ++ '_' :: behind ++ partMatches pattern (before.length + behind.length - 1) rest
    | none => c :: partMatches pattern 0 rest

def titleStart : List Char → Option (List Char)
  | a :: b :: _ => if isCapital a && isSmall b then some [a, b] else none
  | _ => none

/-- Capitals and digits, as many as can be but at least one, and a capital and a small letter. -/
def acronymPattern : Pattern
  | [] => none
  | c :: rest =>
    if isCapitalOrDigit c then
      match acronymPattern rest with
      | some (before, behind) => some (c :: before, behind)
      | none => (titleStart rest).map fun behind => ([c], behind)
    else none

def wordPattern : Pattern
  | a :: b :: _ => if isSmallOrDigit a && isCapital b then some ([a], [b]) else none
  | _ => none

theorem partMatches_taken (pattern : Pattern) (taken : Nat) (s : List Char) :
    partMatches pattern taken s = partMatches pattern 0 (s.drop taken) := by
  induction s generalizing taken with
  | nil => cases taken <;> rfl
  | cons c rest ih =>
    cases taken with
    | zero => rfl
    | succ taken => rw [partMatches, ih, List.drop_succ_cons]

theorem partMatches_none {pattern : Pattern} (h : pattern (c :: rest) = none) :
    partMatches pattern 0 (c :: rest) = c :: partMatches pattern 0 rest := by
  rw [partMatches, h]

theorem partMatches_some {pattern : Pattern}
    (h : pattern (before ++ (behind ++ rest)) = some (before, behind)) (hn : before ≠ []) :
    partMatches pattern 0 (before ++ (behind ++ rest)) =
      before ++ '_' :: behind ++ partMatches pattern 0 rest := by
  cases before with
  | nil => exact absurd rfl hn
  | cons c before =>
    have hdrop : (before ++ (behind ++ rest)).drop (before.length + behind.length) = rest := by
      rw [← List.append_assoc, ← List.length_append, List.drop_left]
    have hlen : (c :: before).length + behind.length - 1 = before.length + behind.length := by
      rw [List.length_cons]
      omega
    rw [List.cons_append] at h ⊢
    rw [partMatches, h]
    dsimp only
    rw [hlen, partMatches_taken, hdrop]

theorem acronymPattern_of_not (h : isCapitalOrDigit c = false) (rest : List Char) :
    acronymPattern (c :: rest) = none := by
  rw [acronymPattern, h]
  rfl

theorem acronymPattern_ne_none (hp : isCapitalOrDigit p = true) (hc : isCapital c = true)
    (hs : isSmall b = true) (rest : List Char) : acronymPattern (p :: c :: b :: rest) ≠ none := by
  rw [acronymPattern, if_pos hp]
  cases acronymPattern (c :: b :: rest) with
  | some parts => exact Option.some_ne_none _
  | none => simp [titleStart, hc, hs]

/-- A run of capitals and digits, and a capital and a small letter. -/
structure IsAcronym (before behind : List Char) : Prop where
  nonempty : before ≠ []
  run : ∀ c ∈ before, isCapitalOrDigit c = true
  title : ∃ a b, behind = [a, b] ∧ isCapital a = true ∧ isSmall b = true

theorem titleStart_eq_some (h : titleStart s = some behind) :
    (∃ a b, behind = [a, b] ∧ isCapital a = true ∧ isSmall b = true) ∧ behind <+: s := by
  rw [titleStart.eq_def] at h
  split at h
  · next a b rest =>
    split at h
    · next hab =>
      cases h
      rw [Bool.and_eq_true] at hab
      exact ⟨⟨a, b, rfl, hab⟩, rest, rfl⟩
    · cases h
  · cases h

theorem isAcronym_of_pattern (h : acronymPattern s = some (before, behind)) :
    IsAcronym before behind ∧ ∃ rest, s = before ++ (behind ++ rest) := by
  fun_induction acronymPattern s generalizing before with
  | case1 => cases h
  | case2 c rest hc before' behind' hm ih =>
    cases h
    obtain ⟨⟨hn, hrun, htitle⟩, after, rfl⟩ := ih hm
    exact ⟨⟨List.cons_ne_nil _ _, List.forall_mem_cons.2 ⟨hc, hrun⟩, htitle⟩, after, rfl⟩
  | case3 c rest hc _ _ =>
    obtain ⟨_, ht, ⟨⟩⟩ := Option.map_eq_some_iff.1 h
    obtain ⟨htitle, after, rfl⟩ := titleStart_eq_some ht
    exact ⟨⟨List.cons_ne_nil _ _, by simpa using hc, htitle⟩, after, rfl⟩
  | case4 => cases h

theorem acronymRule_of_none (h : ∀ p ∈ prev, acronymPattern (p :: c :: rest) = none) :
    acronymRule prev c rest.head? = false := by
  by_contra hr
  simp only [Bool.not_eq_false, acronymRule, Bool.and_eq_true, Option.any_eq_true] at hr
  obtain ⟨⟨⟨p, hp, hrun⟩, hc⟩, b, hb, hs⟩ := hr
  obtain ⟨after, rfl⟩ := List.head?_eq_some_iff.1 hb
  exact acronymPattern_ne_none hrun hc hs after (h p hp)

/-- A match of the greedy pass has its underscore where the rule puts one, and no other. -/
theorem IsAcronym.parted (h : IsAcronym before behind) (prev : Option Char) (after : List Char) :
    ∃ b, isSmall b = true ∧ parted acronymRule prev (before ++ (behind ++ after)) =
      before ++ '_' :: behind ++ Slug.parted acronymRule (some b) after := by
  obtain ⟨hn, hrun, a, b, rfl, ha, hb⟩ := h
  refine ⟨b, hb, ?_⟩
  have hcapital : isCapitalOrDigit a = true := by rw [isCapitalOrDigit, ha, Bool.true_or]
  have hlast : isCapitalOrDigit (before.getLast hn) = true := hrun _ (List.getLast_mem hn)
  have hbreak : acronymRule (some (before.getLast hn)) a (b :: after).head? = true := by
    rw [acronymRule, Option.any_some, hlast, ha, List.head?_cons, Option.any_some, hb]
    rfl
  have hkeep : acronymRule (some a) b after.head? = false := by
    have hsmall : isCapital b = false := by
      have hrun := isCapitalOrDigit_of_isSmall hb
      rw [isCapitalOrDigit, Bool.or_eq_false_iff] at hrun
      exact hrun.1
    rw [acronymRule, hsmall, Bool.and_false, Bool.false_and]
  change Slug.parted acronymRule prev (before ++ a :: b :: after) = _
  rw [parted_front hrun hcapital, List.getLast?_eq_some_getLast hn, Option.some_or,
    parted_break hbreak, parted_keep hkeep]
  simp

theorem partMatches_acronym (h : ∀ p ∈ prev, acronymPattern (p :: s) = none) :
    partMatches acronymPattern 0 s = parted acronymRule prev s := by
  induction hl : s.length using Nat.strong_induction_on generalizing s prev with
  | h n ih =>
    subst hl
    cases s with
    | nil => rfl
    | cons c rest =>
      cases hm : acronymPattern (c :: rest) with
      | none =>
        have hrest := @ih rest.length (Nat.lt_succ_self _) (some c) rest
        rw [partMatches_none hm, parted_keep (acronymRule_of_none h), hrest _ rfl]
        rintro p ⟨⟩
        exact hm
      | some parts =>
        obtain ⟨before, behind⟩ := parts
        obtain ⟨hacronym, after, hs⟩ := isAcronym_of_pattern hm
        have hlen : after.length < (c :: rest).length := by
          have hn := List.length_pos_iff.2 hacronym.nonempty
          rw [hs, List.length_append, List.length_append]
          omega
        obtain ⟨b, hb, hparted⟩ := hacronym.parted prev after
        have hafter := @ih after.length hlen (some b) after
        rw [hs] at hm ⊢
        rw [partMatches_some hm hacronym.nonempty, hparted, hafter _ rfl]
        rintro p ⟨⟩
        exact acronymPattern_of_not (isCapitalOrDigit_of_isSmall hb) after

theorem splitAcronyms_eq_partMatches (s : List Char) :
    splitAcronyms s = partMatches acronymPattern 0 s := by
  have hparted : splitAcronyms s = parted acronymRule none s :=
    splitAcronyms_eq_parted fun h => absurd h Bool.false_ne_true
  have hmatches : partMatches acronymPattern 0 s = parted acronymRule none s :=
    partMatches_acronym fun p hp => absurd hp (Option.not_mem_none p)
  rw [hparted, hmatches]

theorem splitWords_eq_partMatches (s : List Char) :
    splitWords s = partMatches wordPattern 0 s := by
  fun_induction splitWords s with
  | case1 a b rest hb ih =>
    have hm : wordPattern ([a] ++ ([b] ++ rest)) = some ([a], [b]) := if_pos hb
    exact (congrArg (fun t => a :: '_' :: b :: t) ih).trans
      (partMatches_some hm (List.cons_ne_nil _ _)).symm
  | case2 a b rest hb ih =>
    have hm : wordPattern (a :: b :: rest) = none := if_neg hb
    rw [partMatches_none hm, ih]
  | case3 s hs =>
    cases s with
    | nil => rfl
    | cons a rest =>
      cases rest with
      | nil => rfl
      | cons b rest => exact absurd rfl (hs a b rest)

def before? (s : List Char) : Nat → Option Char
  | 0 => none
  | i + 1 => s[i]?

/-- A capital at an index starts a word if a small letter or digit is in front of it, or if
a capital or digit is and a small letter is behind it. -/
def startsWord (s : List Char) (i : Nat) : Bool :=
  s[i]?.any isCapital && ((before? s i).any isSmallOrDigit ||
    (before? s i).any isCapitalOrDigit && s[i + 1]?.any isSmall)

theorem startsWord_append (front : List Char) (c : Char) (rest : List Char) :
    startsWord (front ++ c :: rest) front.length = eitherRule front.getLast? c rest.head? := by
  have hprev : before? (front ++ c :: rest) front.length = front.getLast? := by
    rcases List.eq_nil_or_concat front with rfl | ⟨front, prev, rfl⟩
    · rfl
    · simp [before?]
  have hc : (front ++ c :: rest)[front.length]? = some c := by
    rw [List.getElem?_append_right (Nat.le_refl _), Nat.sub_self, List.getElem?_cons_zero]
  have hnext : (front ++ c :: rest)[front.length + 1]? = rest.head? := by
    rw [List.getElem?_append_right (Nat.le_add_right _ 1), Nat.add_sub_cancel_left,
      List.getElem?_cons_succ, List.head?_eq_getElem?]
  rw [startsWord, hprev, hc, hnext, Option.any_some, eitherRule, acronymRule, wordRule]
  cases isCapital c with
  | false => simp
  | true => simp [Bool.or_comm]

/-- A text with an underscore before each character that starts a word in it. -/
def wordsApart (s : List Char) : List Char :=
  s.zipIdx.flatMap fun p => if startsWord s p.2 then ['_', p.1] else [p.1]

theorem parted_eq_flatMap (front s : List Char) :
    parted eitherRule front.getLast? s =
      (s.zipIdx front.length).flatMap fun p =>
        if startsWord (front ++ s) p.2 then ['_', p.1] else [p.1] := by
  induction s generalizing front with
  | nil => rfl
  | cons c rest ih =>
    have hrest := ih (front ++ [c])
    rw [List.getLast?_concat, List.length_append, List.length_singleton, List.append_assoc,
      List.singleton_append] at hrest
    rw [List.zipIdx_cons, List.flatMap_cons, ← hrest, startsWord_append]
    cases h : eitherRule front.getLast? c rest.head? with
    | true => exact parted_break h
    | false => exact parted_keep h

/-- To part all acronyms and then all words in a name puts an underscore before each character that
starts a word in the name, and does nothing else. A name that is parted stays as it is. -/
theorem underscore_eq_wordsApart (name : List Char) :
    underscore name = partMatches wordPattern 0 (partMatches acronymPattern 0 name) ∧
    underscore name = wordsApart name ∧ underscore (underscore name) = underscore name := by
  refine ⟨?_, ?_, ?_⟩
  · rw [underscore, splitWords_eq_partMatches, splitAcronyms_eq_partMatches]
  · exact (underscore_eq_parted name).trans (parted_eq_flatMap [] name)
  · rw [underscore_eq_parted, underscore_eq_parted, parted_eitherRule]

example : wordsApart "parseHTML5Page2GoX".toList = "parse_HTML5_Page2_Go_X".toList := by decide

end SchemaPlan.Slug
