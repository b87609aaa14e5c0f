import SchemaPlan.Proofs.Migration.Slug.Cut

namespace SchemaPlan.Slug
open Text

theorem isAscii_of_between {last : Char} (hl : last.toNat < 128)
    (h : (decide (first ≤ c) && decide (c ≤ last)) = true) : c.toNat < 128 :=
  isAscii_of_le hl (of_decide_eq_true (Bool.and_eq_true_iff.1 h).2)

theorem isSmallOrDigit_of_isCapital (h : isCapital c = true) : isSmallOrDigit c = false :=
  ascii_cases (P := fun c => isCapital c = true → isSmallOrDigit c = false) (by decide)
    (isAscii_of_between (by decide) h) h

theorem isCapitalOrDigit_of_isSmall (h : isSmall c = true) : isCapitalOrDigit c = false :=
  ascii_cases (P := fun c => isSmall c = true → isCapitalOrDigit c = false) (by decide)
    (isAscii_of_between (by decide) h) h

theorem isSmall_of_isCapitalOrDigit (h : isCapitalOrDigit c = true) : isSmall c = false := by
  cases hs : isSmall c with
  | false => rfl
  | true => exact absurd h (Bool.eq_false_iff.1 (isCapitalOrDigit_of_isSmall hs))

/-- A test of a character between its two neighbours. -/
abbrev Rule := Option Char → Char → Option Char → Bool

/-- A text behind a character, with an underscore before each of its characters that a rule
picks. -/
def parted (rule : Rule) (prev : Option Char) : List Char → List Char
  | [] => []
  | c :: rest =>
    if rule prev c rest.head? then '_' :: c :: parted rule (some c) rest
    else c :: parted rule (some c) rest

/-- A capital between a capital or digit and a small letter. -/
def acronymRule : Rule := fun prev c next =>
  prev.any isCapitalOrDigit && isCapital c && next.any isSmall

def wordRule : Rule := fun prev c _ => prev.any isSmallOrDigit && isCapital c

def eitherRule : Rule := fun prev c next => acronymRule prev c next || wordRule prev c next

section Parted

variable {rule first second both : Rule} {prev : Option Char}

theorem parted_keep (h : rule prev c rest.head? = false) :
    parted rule prev (c :: rest) = c :: parted rule (some c) rest := by
  rw [parted, h]
  rfl

theorem parted_break (h : rule prev c rest.head? = true) :
    parted rule prev (c :: rest) = '_' :: c :: parted rule (some c) rest := by
  rw [parted, h]
  rfl

theorem head?_parted (rule : Rule) (prev : Option Char) (s : List Char) :
    (parted rule prev s).head? = s.head? ∨ (parted rule prev s).head? = some '_' := by
  cases s with
  | nil => exact .inl rfl
  | cons c rest =>
    cases h : rule prev c rest.head? with
    | false => exact .inl (by rw [parted_keep h]; rfl)
    | true => exact .inr (by rw [parted_break h]; rfl)

theorem filter_parted {p : Char → Bool} (hp : p '_' = false) (rule : Rule) (prev : Option Char)
    (s : List Char) : (parted rule prev s).filter p = s.filter p := by
  induction s generalizing prev with
  | nil => rfl
  | cons c rest ih =>
    cases h : rule prev c rest.head? with
    | true =>
      have hu : ¬ p '_' = true := by simp [hp]
      rw [parted_break h, List.filter_cons_of_neg hu, List.filter_cons, ih, ← List.filter_cons]
    | false => rw [parted_keep h, List.filter_cons, ih, ← List.filter_cons]

theorem parted_of_never (h : ∀ c ∈ s, ∀ prev next, rule prev c next = false) (prev : Option Char) :
    parted rule prev s = s := by
  induction s generalizing prev with
  | nil => rfl
  | cons c rest ih =>
    obtain ⟨hc, hrest⟩ := List.forall_mem_cons.1 h
    rw [parted_keep (hc prev _), ih hrest]

/-- One pass after another is one pass by either rule, if the second puts nothing next to
an underscore of the first. -/
theorem parted_parted (hu : ∀ prev next, second prev '_' next = false)
    (hb : ∀ c next, second (some '_') c next = false)
    (hs : ∀ prev c next next', next' = next ∨ next' = some '_' →
      (first prev c next || second prev c next') = both prev c next)
    (prev : Option Char) (s : List Char) :
    parted second prev (parted first prev s) = parted both prev s := by
  induction s generalizing prev with
  | nil => rfl
  | cons c rest ih =>
    have heither := hs prev c _ _ (head?_parted first (some c) rest)
    cases hf : first prev c rest.head? with
    | true =>
      rw [hf, Bool.true_or] at heither
      rw [parted_break hf, parted_break heither.symm, parted_keep (hu _ _), parted_keep (hb _ _), ih]
    | false =>
      rw [hf, Bool.false_or] at heither
      rw [parted_keep hf]
      cases hsecond : second prev c (parted first (some c) rest).head? with
      | true => rw [parted_break hsecond, parted_break (heither.symm.trans hsecond), ih]
      | false => rw [parted_keep hsecond, parted_keep (heither.symm.trans hsecond), ih]

theorem not_capital_behind {p : Char → Bool}
    (h : prev.any p = true → Stops isCapital (c :: rest)) : (prev.any p && isCapital c) = false := by
  cases hp : prev.any p with
  | false => rfl
  | true => exact stops_cons_iff.1 (h hp)

theorem parted_front (hf : ∀ c ∈ front, isCapitalOrDigit c = true)
    (hl : isCapitalOrDigit last = true) (prev : Option Char) (after : List Char) :
    parted acronymRule prev (front ++ last :: after) =
      front ++ parted acronymRule (front.getLast?.or prev) (last :: after) := by
  induction front generalizing prev with
  | nil => rfl
  | cons c front ih =>
    obtain ⟨hc, hf⟩ := List.forall_mem_cons.1 hf
    have hnext : (front ++ last :: after).head?.any isSmall = false := by
      cases front with
      | nil => exact isSmall_of_isCapitalOrDigit hl
      | cons d front => exact isSmall_of_isCapitalOrDigit (hf d List.mem_cons_self)
    have hkeep : acronymRule prev c (front ++ last :: after).head? = false := by
      rw [acronymRule, hnext, Bool.and_false]
    rw [List.cons_append, parted_keep hkeep, ih hf, List.cons_append, List.getLast?_cons]
    cases front.getLast? with
    | none => rfl
    | some d => rfl

end Parted

section Passes

variable {prev : Option Char}

theorem breakRun_singleton (c : Char) (after : List Char) : breakRun [c] after = [c] := by
  cases after with
  | nil => rfl
  | cons next after => rfl

theorem breakRun_concat (hf : front ≠ []) (last : Char) (after : List Char) :
    breakRun (front ++ [last]) after =
      if isCapital last && after.head?.any isSmall then front ++ ['_', last]
      else front ++ [last] := by
  have hn : 1 ≤ front.length := List.length_pos_iff.2 hf
  rw [breakRun, List.getLast?_concat, List.dropLast_concat]
  cases after with
  | nil => simp
  | cons next after => simp [hn]

theorem parted_run (hn : run ≠ []) (hr : ∀ c ∈ run, isCapitalOrDigit c = true)
    (hp : prev.any isCapitalOrDigit = true → Stops isCapital run) (after : List Char) :
    parted acronymRule prev (run ++ after) =
      breakRun run after ++ parted acronymRule run.getLast? after := by
  rcases List.eq_nil_or_concat run with rfl | ⟨front, last, rfl⟩
  · exact absurd rfl hn
  · rw [List.concat_eq_append] at hr hp ⊢
    obtain ⟨hfront, hlast⟩ := List.forall_mem_append.1 hr
    rw [List.getLast?_concat, List.append_assoc, List.singleton_append,
      parted_front hfront (hlast last (List.mem_singleton_self last))]
    rcases List.eq_nil_or_concat front with rfl | ⟨front, before, rfl⟩
    · have hkeep : acronymRule prev last after.head? = false := by
        rw [acronymRule, not_capital_behind hp, Bool.false_and]
      rw [List.getLast?_nil, Option.none_or, parted_keep hkeep, List.nil_append,
        List.nil_append, breakRun_singleton, List.singleton_append]
    · rw [List.concat_eq_append] at hfront ⊢
      have hbefore : isCapitalOrDigit before = true := hfront before (by simp)
      have hrule : acronymRule (some before) last after.head? =
          (isCapital last && after.head?.any isSmall) := by
        rw [acronymRule, Option.any_some, hbefore, Bool.true_and]
      rw [breakRun_concat (by simp), List.getLast?_concat, Option.some_or]
      cases h : isCapital last && after.head?.any isSmall with
      | true => rw [parted_break (hrule.trans h)]; simp
      | false => rw [parted_keep (hrule.trans h)]; simp

theorem splitAcronyms_eq_parted (h : prev.any isCapitalOrDigit = true → Stops isCapital s) :
    splitAcronyms s = parted acronymRule prev s := by
  fun_induction splitAcronyms s generalizing prev with
  | case1 => rfl
  | case2 c rest hc ih =>
    have hrun : ∀ d ∈ c :: rest.takeWhile isCapitalOrDigit, isCapitalOrDigit d = true :=
      List.forall_mem_cons.2 ⟨hc, fun d hd => List.mem_takeWhile_imp hd⟩
    have hafter : Stops isCapital (rest.dropWhile isCapitalOrDigit) := by
      intro d hd
      have hstop := stops_dropWhile isCapitalOrDigit rest d hd
      rw [isCapitalOrDigit, Bool.or_eq_false_iff] at hstop
      exact hstop.1
    have hsplit : c :: rest = (c :: rest.takeWhile isCapitalOrDigit) ++
        rest.dropWhile isCapitalOrDigit := by
      rw [List.cons_append, List.takeWhile_append_dropWhile]
    have hparted := parted_run (List.cons_ne_nil _ _) hrun
      (fun hp => stops_cons_iff.2 (stops_cons_iff.1 (h hp))) (rest.dropWhile isCapitalOrDigit)
    rw [← hsplit] at hparted
    rw [hparted, ih fun _ => hafter]
  | case3 c rest hc ih =>
    have hkeep : acronymRule prev c rest.head? = false := by
      rw [acronymRule, not_capital_behind h, Bool.false_and]
    have hrest : splitAcronyms rest = parted acronymRule (some c) rest := ih fun hp => absurd hp hc
    rw [parted_keep hkeep, hrest]

theorem splitWords_eq_parted (h : prev.any isSmallOrDigit = true → Stops isCapital s) :
    splitWords s = parted wordRule prev s := by
  fun_induction splitWords s generalizing prev with
  | case1 a b rest hb ih =>
    have hkeep : wordRule prev a (b :: rest).head? = false := not_capital_behind h
    have hsmall : isSmallOrDigit b = false :=
      isSmallOrDigit_of_isCapital (Bool.and_eq_true_iff.1 hb).2
    have hrest : splitWords rest = parted wordRule (some b) rest := by
      apply ih
      intro hs
      rw [Option.any_some, hsmall] at hs
      cases hs
    rw [parted_keep hkeep, parted_break hb, hrest]
  | case2 a b rest hb ih =>
    have hkeep : wordRule prev a (b :: rest).head? = false := not_capital_behind h
    have hrest : splitWords (b :: rest) = parted wordRule (some a) (b :: rest) := by
      apply ih
      intro ha
      rw [Option.any_some] at ha
      rw [ha, Bool.true_and] at hb
      exact stops_cons_iff.2 (Bool.eq_false_iff.2 hb)
    rw [parted_keep hkeep, hrest]
  | case3 s hs =>
    cases s with
    | nil => rfl
    | cons a rest =>
      cases rest with
      | nil =>
        have hkeep : wordRule prev a [].head? = false := not_capital_behind h
        exact (parted_keep hkeep).symm
      | cons b rest => exact absurd rfl (hs a b rest)

theorem underscore_eq_parted (name : List Char) : underscore name = parted eitherRule none name := by
  have hfirst : splitAcronyms name = parted acronymRule none name :=
    splitAcronyms_eq_parted fun h => absurd h Bool.false_ne_true
  have hsecond : splitWords (splitAcronyms name) = parted wordRule none (splitAcronyms name) :=
    splitWords_eq_parted fun h => absurd h Bool.false_ne_true
  rw [underscore, hsecond, hfirst]
  apply parted_parted
  · exact fun prev _ => Bool.and_false _
  · exact fun c _ => Bool.false_and _
  · exact fun prev c next next' _ => rfl

theorem underscore_of_noCapital (h : ∀ c ∈ s, isCapital c = false) : underscore s = s := by
  rw [underscore_eq_parted]
  apply parted_of_never
  intro c hc prev next
  simp [eitherRule, acronymRule, wordRule, h c hc]

theorem parted_eitherRule (prev : Option Char) (s : List Char) :
    parted eitherRule prev (parted eitherRule prev s) = parted eitherRule prev s := by
  apply parted_parted
  · intro prev next
    have hc : isCapital '_' = false := by decide
    simp [eitherRule, acronymRule, wordRule, hc]
  · intro c next
    have hs : isSmallOrDigit '_' = false := by decide
    have hc : isCapitalOrDigit '_' = false := by decide
    simp [eitherRule, acronymRule, wordRule, hs, hc]
  · rintro prev c next next' (rfl | rfl)
    · exact Bool.or_self _
    · have hs : isSmall '_' = false := by decide
      simp [eitherRule, acronymRule, wordRule, hs]

end Passes

end SchemaPlan.Slug
