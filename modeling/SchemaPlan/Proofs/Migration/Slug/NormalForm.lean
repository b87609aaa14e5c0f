import SchemaPlan.Proofs.Migration.Slug.Parted
import SchemaPlan.Proofs.Text.LowerCase

namespace SchemaPlan.Slug
open Text

theorem replaceRuns_of_isSlugChar (h : ∀ c ∈ s, isSlugChar c = true) : replaceRuns false s = s := by
  induction s with
  | nil => rfl
  | cons c s ih =>
    obtain ⟨hc, hs⟩ := List.forall_mem_cons.1 h
    rw [replaceRuns, if_pos hc, ih hs]

theorem IsSlug.stops (h : IsSlug s) : Stops (· = '_') s := by
  intro c hc
  obtain ⟨d, hd, hs⟩ := h.head
  obtain rfl := Option.some.inj ((Option.mem_def.1 hc).symm.trans hd)
  revert hs
  exact slugChar_cases (P := fun c => isSmall c = true → decide (c = '_') = false) (by decide)
    (h.chars c (List.mem_of_head? hc))

theorem small_of_isSlugChar (h : isSlugChar c = true) : Small c :=
  slugChar_cases (P := Small) (by decide) h

theorem IsSlug.stem_eq (h : IsSlug s) : stem s = s.rdropWhile (· = '_') := by
  have hcapital : ∀ c ∈ s, isCapital c = false := fun c hc =>
    slugChar_cases (P := fun c => isCapital c = false) (by decide) (h.chars c hc)
  have hsmall : ∀ c ∈ s, Small c := fun c hc => small_of_isSlugChar (h.chars c hc)
  rw [Slug.stem_eq, underscore_of_noCapital hcapital, lower, lowerAfter_of_small false hsmall,
    replaceRuns_of_isSlugChar h.chars, h.stops.dropWhile]

theorem IsSlug.trimmed (h : IsSlug s) : IsSlug (s.rdropWhile (· = '_')) := by
  refine h.of_leading (List.rdropWhile_prefix _ s) ?_
  intro hn
  obtain ⟨c, hc, -⟩ := h.head
  rw [List.rdropWhile_eq_nil_iff] at hn
  have hu := hn c (List.mem_of_head? hc)
  exact absurd ((h.stops c hc).symm.trans hu) (by decide)

theorem IsSlug.whole_eq (h : IsSlug s) : whole (.ofList s) = s.rdropWhile (· = '_') := by
  obtain ⟨c, hc, hs⟩ := h.trimmed.head
  obtain ⟨rest, hr⟩ := List.head?_eq_some_iff.1 hc
  have hd : isDigitChar c = false := by
    revert hs
    exact slugChar_cases (P := fun c => isSmall c = true → isDigitChar c = false)
      (by decide) (h.trimmed.chars c (List.mem_of_head? hc))
  rw [whole, uncut, String.toList_ofList, h.stem_eq, hr, lead, hd]
  rfl

theorem IsSlug.value_ofName (h : IsSlug s) (hl : s.length ≤ 222) :
    (ofName (.ofList s)).value = .ofList (s.rdropWhile (· = '_')) := by
  have hl' : ¬ 222 < (s.rdropWhile (· = '_')).length :=
    Nat.not_lt.2 ((List.rdropWhile_prefix _ s).length_le.trans hl)
  rw [Slug.value_ofName, h.whole_eq, if_neg hl']

theorem endsOutside_whole (name : String) : EndsOutside (· = '_') (whole name) := by
  have hstem : EndsOutside (· = '_') (stem name.toList) := by
    rw [Slug.stem_eq]
    exact endsOutside_rdropWhile _ _
  rw [whole, uncut]
  cases hs : stem name.toList with
  | nil =>
    intro c hc
    obtain rfl : 'n' = c := Option.some.inj hc
    rfl
  | cons c rest =>
    rw [hs] at hstem
    rw [lead]
    split
    · exact endsOutside_append (List.cons_ne_nil _ _) hstem
    · exact hstem

/-- Two underscores or more, where a slug of more than 222 characters is cut. -/
def CutInRun (s : List Char) : Prop :=
  ∃ front back rest, s = front ++ '_' :: '_' :: (back ++ rest) ∧ '_' ∉ back ∧ rest ≠ [] ∧
    155 ≤ front.length ∧ front.length + 2 + back.length = 222

theorem CutInRun.cut (h : CutInRun s) : ∃ front, Cut s (front ++ ['_']) := by
  obtain ⟨front, back, rest, rfl, hb, hr, hf, hl⟩ := h
  refine ⟨front, ?_⟩
  have hs : front ++ '_' :: '_' :: (back ++ rest) =
      (front ++ ['_']) ++ '_' :: (back ++ rest) := by simp
  rw [hs]
  exact .atUnderscore (by simp; omega) hr (by simp; omega) hb

theorem Cut.cutInRun (h : Cut s (front ++ ['_'])) : CutInRun s := by
  generalize ht : front ++ ['_'] = t at h
  cases h with
  | atLimit hl hr hu =>
    subst ht
    refine absurd ?_ hu
    rw [List.length_append, List.length_singleton] at hl
    rw [List.drop_append_of_le_length (by omega)]
    simp
  | @atUnderscore _ back rest hl hr hf hb =>
    subst ht
    simp only [List.length_append, List.length_singleton] at hl hf
    exact ⟨front, back, rest, by simp, hb, hr, by omega, by omega⟩

theorem CutInRun.length (h : CutInRun s) : 222 < s.length := by
  obtain ⟨front, back, rest, rfl, -, hr, -, hl⟩ := h
  have := List.length_pos_iff.2 hr
  simp only [List.length_append, List.length_cons]
  omega

theorem getLast?_ofName_iff (name : String) :
    (ofName name).value.toList.getLast? = some '_' ↔ CutInRun (whole name) := by
  constructor
  · intro hu
    obtain ⟨front, hf⟩ := List.getLast?_eq_some_iff.1 hu
    rcases ofName_cases name with ⟨-, hv⟩ | ⟨-, t, ht, hv⟩
    · rw [hv, String.toList_ofList] at hu
      exact absurd (endsOutside_whole name _ hu) (by decide)
    · rw [hv, String.toList_ofList] at hf
      exact (hf ▸ ht).cutInRun
  · intro h
    obtain ⟨front, hc⟩ := h.cut
    rw [value_ofName, if_pos h.length, hc.eq, String.toList_ofList, List.getLast?_concat]

theorem value_ofName_ofName (name : String) : (ofName (ofName name).value).value =
    .ofList ((ofName name).value.toList.rdropWhile (· = '_')) := by
  have hl : (ofName name).value.toList.length ≤ 222 := length_ofName_le name
  have h := (isSlug_ofName name).value_ofName hl
  rwa [String.ofList_toList] at h

theorem ofName_eq_self_iff (name : String) :
    (ofName (ofName name).value).value = (ofName name).value ↔ ¬ CutInRun (whole name) := by
  rw [value_ofName_ofName, ← String.toList_inj, String.toList_ofList, rdropWhile_eq_self_iff,
    ← getLast?_ofName_iff]
  constructor
  · exact fun h hu => absurd (h _ hu) (by decide)
  · intro h c hc
    simpa using fun hu : c = '_' => h (hu ▸ hc)

/-- Unless it was cut in a run of underscores, a slug does not end with an underscore and is its own
slug. If it was, its slug is what stands in front of the run, and that one is its own slug. -/
theorem ofName_slug (name : String) :
    ((ofName name).value.toList.getLast? = some '_' ↔ CutInRun (whole name)) ∧
    ((ofName (ofName name).value).value = (ofName name).value ↔ ¬ CutInRun (whole name)) ∧
    (ofName (ofName name).value).value =
      .ofList ((ofName name).value.toList.rdropWhile (· = '_')) ∧
    (ofName (ofName (ofName name).value).value).value = (ofName (ofName name).value).value := by
  refine ⟨getLast?_ofName_iff name, ofName_eq_self_iff name, value_ofName_ofName name, ?_⟩
  rw [ofName_eq_self_iff, ← getLast?_ofName_iff, value_ofName_ofName, String.toList_ofList]
  intro hu
  exact absurd (endsOutside_rdropWhile _ _ _ hu) (by decide)

theorem shortName_ofName : (ofName "Add  HTMLPages").value = "add_html_pages" ∧
    (ofName "add_html_pages").value = "add_html_pages" := by
  have hv : (ofName "Add  HTMLPages").value = "add_html_pages" := by decide +kernel
  obtain ⟨hu, hs, -⟩ := ofName_slug "Add  HTMLPages"
  rw [hv] at hu hs
  exact ⟨hv, hs.2 fun h => absurd (hu.2 h) (by decide)⟩

theorem IsSlug.append (h : IsSlug s) (ht : t.all isSlugChar = true) : IsSlug (s ++ t) where
  head := by
    obtain ⟨c, hc, hs⟩ := h.head
    exact ⟨c, List.mem_head?_append_of_mem_head? hc, hs⟩
  chars c hc := (List.mem_append.1 hc).elim (h.chars c) (List.all_eq_true.1 ht c)

theorem isSlug_replicate (hn : n ≠ 0) : IsSlug (List.replicate n 'a') where
  head := by
    obtain ⟨m, rfl⟩ := Nat.exists_eq_succ_of_ne_zero hn
    exact ⟨'a', rfl, rfl⟩
  chars c hc := by
    rw [List.eq_of_mem_replicate hc]
    rfl

theorem whole_replicate (hn : n ≠ 0) :
    whole (.ofList (List.replicate n 'a')) = List.replicate n 'a' := by
  rw [(isSlug_replicate hn).whole_eq, rdropWhile_eq_self_iff]
  intro c hc
  rw [List.eq_of_mem_replicate (List.mem_of_getLast? hc)]
  rfl

/-- A name whose slug is cut between two underscores. -/
def doubledName : String := .ofList (List.replicate 220 'a' ++ ['_', '_', 'b'])

theorem doubledName_ofName : ∃ slug, (ofName doubledName).value = slug ∧
    slug.toList.getLast? = some '_' ∧ (ofName slug).value ≠ slug := by
  have hs : IsSlug (List.replicate 220 'a' ++ ['_', '_', 'b']) :=
    (isSlug_replicate (by decide)).append (by decide)
  have hb : EndsOutside (· = '_') ['_', '_', 'b'] := by
    intro c hc
    obtain rfl : 'b' = c := Option.some.inj hc
    rfl
  have hw : whole doubledName = List.replicate 220 'a' ++ ['_', '_', 'b'] :=
    hs.whole_eq.trans (rdropWhile_eq_self_iff.2 (endsOutside_append (List.cons_ne_nil _ _) hb))
  have hl : (List.replicate 220 'a').length = 220 := List.length_replicate
  have hc : CutInRun (whole doubledName) :=
    ⟨List.replicate 220 'a', [], ['b'], hw, by decide, by decide, by omega, by rw [hl]; rfl⟩
  exact ⟨_, rfl, (getLast?_ofName_iff _).2 hc, fun h => (ofName_eq_self_iff _).1 h hc⟩

def longName : String := .ofList (List.replicate 218 'a')

theorem whole_longName : whole longName = List.replicate 218 'a' := whole_replicate (by decide)

theorem length_whole_longName : (whole longName).length = 218 := by
  rw [whole_longName, List.length_replicate]

theorem value_ofName_longName : (ofName longName).value = .ofList (whole longName) := by
  rw [value_ofName, length_whole_longName, if_neg (by decide)]

end SchemaPlan.Slug
