import SchemaPlan.Proofs.Text.Runs
import SchemaPlan.Text.LetterCase
import SchemaPlan.Text.Lines

namespace SchemaPlan.Text

theorem splitOn_eq (a : Char) (s : List Char) : splitOn a s = s.splitOn a := by
  induction s with
  | nil => rfl
  | cons c s ih =>
    rw [splitOn, List.splitOn_cons_eq_if_modifyHead, ih]
    by_cases h : c = a
    · simp [h]
    · cases hs : s.splitOn a with
      | nil => exact absurd hs (List.splitOn_ne_nil a s)
      | cons piece more => simp [h]

theorem flatten_splitOn (a : Char) (s : List Char) :
    (splitOn a s).flatten = s.filter (· ≠ a) := by
  have hcons {c : Char} {s : List Char} (hc : c ≠ a) :
      (c :: s).filter (· ≠ a) = c :: s.filter (· ≠ a) := List.filter_cons_of_pos (by simpa)
  fun_induction splitOn a s with
  | case1 => rfl
  | case2 s ih => simpa using ih
  | case3 c s hc hs ih =>
    rw [hs] at ih
    rw [hcons hc, ← ih]
    rfl
  | case4 c s hc piece more hs ih =>
    rw [hs] at ih
    rw [hcons hc, ← ih]
    rfl

theorem mem_of_mem_splitOn {a c : Char} (hp : piece ∈ splitOn a s) (hc : c ∈ piece) : c ∈ s := by
  have hm := List.mem_flatten_of_mem hp hc
  rw [flatten_splitOn] at hm
  exact List.mem_of_mem_filter hm

theorem notMem_of_forall {p : Char → Bool} {s : List Char} (h : ∀ c ∈ s, p c = true)
    (hc : p c = false) : c ∉ s := by
  intro hm
  rw [h c hm] at hc
  cases hc

/-- No line feed stands in the text. -/
def OneLine (s : List Char) : Prop := '\n' ∉ s

instance (s : List Char) : Decidable (OneLine s) := inferInstanceAs (Decidable ('\n' ∉ s))

@[simp] theorem oneLine_nil : OneLine [] := List.not_mem_nil

@[simp] theorem oneLine_cons : OneLine (c :: s) ↔ c ≠ '\n' ∧ OneLine s := by
  simp [OneLine, ne_comm]

@[simp] theorem oneLine_append : OneLine (s ++ t) ↔ OneLine s ∧ OneLine t := by
  simp [OneLine]

theorem OneLine.flatMap {as : List α} {f : α → List Char} (h : ∀ a ∈ as, OneLine (f a)) :
    OneLine (as.flatMap f) := by
  simpa [OneLine] using h

theorem notMem_intercalate {c : Char} {t : List Char} {ss : List (List Char)} (ht : c ∉ t)
    (h : ∀ s ∈ ss, c ∉ s) : c ∉ t.intercalate ss := by
  induction ss with
  | nil => simp
  | cons s ss ih =>
    obtain ⟨hs, hss⟩ := List.forall_mem_cons.1 h
    cases ss with
    | nil => simpa using hs
    | cons s' ss => simp [hs, ht, ih hss]

theorem OneLine.intercalate (ht : OneLine t) (h : ∀ s ∈ ss, OneLine s) :
    OneLine (t.intercalate ss) := notMem_intercalate ht h

theorem oneLine_of_word (h : ∀ c ∈ s, isWordChar c = true) : OneLine s := fun hs =>
  absurd (h _ hs) (by decide)

theorem caseImage_ne {n m : Nat} {runs : List (Nat × Nat × Nat × Nat)} (hn : n ≠ m)
    (h : ∀ r ∈ runs, m < r.2.2.2) : caseImage n runs ≠ m := by
  induction runs with
  | nil => exact hn
  | cons r runs ih =>
    obtain ⟨first, last, step, image⟩ := r
    have hi : m < image := h (first, last, step, image) (by simp)
    rw [caseImage]
    split
    · exact hn
    · split
      · split
        · omega
        · exact hn
      · exact ih fun r hr => h r (by simp [hr])

theorem ofNat_ne_lineFeed (h : n ≠ 10) : Char.ofNat n ≠ '\n' := by
  intro hc
  by_cases hv : n.isValidChar
  · apply h
    have ht := congrArg Char.toNat hc
    rwa [Char.ofNat, dif_pos hv] at ht
  · rw [Char.ofNat, dif_neg hv] at hc
    cases hc

theorem oneLine_image {table : List (Nat × List Nat)} {n : Nat} (h : ∀ r ∈ table, 10 ∉ r.2)
    (hl : table.lookup n = some image) : OneLine (image.map Char.ofNat) := by
  obtain ⟨_, _, rfl, -⟩ := List.lookup_eq_some_iff.1 hl
  intro hm
  obtain ⟨k, hk, hc⟩ := List.mem_map.1 hm
  refine ofNat_ne_lineFeed (fun hk' => ?_) hc
  exact h (n, image) (by simp) (hk' ▸ hk)

theorem oneLine_mapped {table : List (Nat × List Nat)} {runs : List (Nat × Nat × Nat × Nat)}
    (ht : ∀ r ∈ table, 10 ∉ r.2) (hr : ∀ r ∈ runs, 10 < r.2.2.2) (hn : n ≠ 10) :
    OneLine (match table.lookup n with
      | some image => image.map Char.ofNat
      | none => [Char.ofNat (caseImage n runs)]) := by
  split
  · next hl => exact oneLine_image ht hl
  · simpa using ofNat_ne_lineFeed (caseImage_ne hn hr)

theorem oneLine_lowerChar (hc : c ≠ '\n') : OneLine (lowerChar c) := by
  rw [lowerChar]
  split
  · next ha =>
    revert hc
    exact ascii_cases (P := fun c => c ≠ '\n' → OneLine [c.toLower]) (by decide) ha
  · exact oneLine_mapped (by decide +kernel) (by decide +kernel) (by omega)

theorem oneLine_upperChar (hc : c ≠ '\n') : OneLine (upperChar c) := by
  rw [upperChar]
  split
  · next ha =>
    revert hc
    exact ascii_cases (P := fun c => c ≠ '\n' → OneLine [c.toUpper]) (by decide) ha
  · exact oneLine_mapped (by decide +kernel) (by decide +kernel) (by omega)

theorem oneLine_titleChar (hc : c ≠ '\n') : OneLine (titleChar c) := by
  rw [titleChar]
  split
  · next hl => exact oneLine_image (by decide +kernel) hl
  · exact oneLine_upperChar hc

theorem OneLine.lowerAfter (h : OneLine s) (cased : Bool) : OneLine (lowerAfter cased s) := by
  induction s generalizing cased with
  | nil => exact oneLine_nil
  | cons c s ih =>
    obtain ⟨hc, hs⟩ := oneLine_cons.1 h
    rw [Text.lowerAfter, oneLine_append]
    refine ⟨?_, ih hs _⟩
    split
    · split <;> decide
    · exact oneLine_lowerChar hc

theorem OneLine.lower (h : OneLine s) : OneLine (lower s) := h.lowerAfter false

theorem OneLine.capitalize (h : OneLine s) : OneLine (capitalize s) := by
  cases s with
  | nil => exact oneLine_nil
  | cons c s =>
    obtain ⟨hc, hs⟩ := oneLine_cons.1 h
    exact oneLine_append.2 ⟨oneLine_titleChar hc, hs.lowerAfter _⟩

theorem lowerChar_ne_nil (c : Char) : lowerChar c ≠ [] := by
  rw [lowerChar]
  split
  · exact List.cons_ne_nil _ _
  · split
    · next image hl =>
      have hi : ∀ r ∈ lowerSequences, r.2 ≠ [] := by decide
      obtain ⟨_, _, hs, -⟩ := List.lookup_eq_some_iff.1 hl
      intro h
      exact hi (c.toNat, image) (by simp [hs]) (List.map_eq_nil_iff.1 h)
    · exact List.cons_ne_nil _ _

theorem lower_ne_nil (h : s ≠ []) : lower s ≠ [] := by
  cases s with
  | nil => exact absurd rfl h
  | cons c s =>
    rw [Text.lower, Text.lowerAfter]
    apply List.append_ne_nil_of_left_ne_nil
    split
    · split <;> exact List.cons_ne_nil _ _
    · exact lowerChar_ne_nil c

theorem isLineBreak_of_mem_lines (hl : line ∈ lines s) (hc : c ∈ line) : isLineBreak c = false := by
  fun_induction lines s generalizing line with
  | case1 => cases hl
  | case2 rest ih =>
    rcases List.mem_cons.1 hl with rfl | hl
    · cases hc
    · exact ih hl hc
  | case3 d rest hn hb ih =>
    rcases List.mem_cons.1 hl with rfl | hl
    · cases hc
    · exact ih hl hc
  | case4 d rest hn hb hs ih =>
    obtain rfl := List.mem_singleton.1 hl
    obtain rfl := List.mem_singleton.1 hc
    simpa using hb
  | case5 d rest hn hb first more hs ih =>
    rw [hs] at ih
    rcases List.mem_cons.1 hl with rfl | hl
    · rcases List.mem_cons.1 hc with rfl | hc
      · simpa using hb
      · exact ih (by simp) hc
    · exact ih (by simp [hl]) hc

theorem oneLine_of_mem_lines (hl : line ∈ lines s) : OneLine line := fun hc =>
  absurd (isLineBreak_of_mem_lines hl hc) (by decide)

theorem splitOn_oneLine (h : OneLine s) : splitOn '\n' s = [s] := by
  rw [splitOn_eq, List.splitOn_eq_singleton h]

theorem splitOn_append (a : Char) (s t : List Char) :
    splitOn a (s ++ a :: t) = splitOn a s ++ splitOn a t := by
  rw [splitOn_eq, splitOn_eq, splitOn_eq, List.splitOn_append_cons_self]

theorem splitOn_flatMap (ls : List (List Char)) (hn : ls ≠ []) :
    splitOn '\n' (['\n'].intercalate ls ++ ['\n']) = ls.flatMap (splitOn '\n') ++ [[]] := by
  induction ls with
  | nil => exact absurd rfl hn
  | cons l ls ih =>
    rw [List.flatMap_cons]
    cases ls with
    | nil =>
      rw [List.intercalate_singleton, List.flatMap_nil, List.append_nil]
      exact splitOn_append '\n' l []
    | cons l' ls =>
      have ih := ih (List.cons_ne_nil _ _)
      rw [List.intercalate_cons_cons, List.append_assoc, List.append_assoc,
        List.singleton_append, splitOn_append, ih, List.append_assoc]

theorem flatMap_splitOn {ls : List (List Char)} (h : ∀ l ∈ ls, OneLine l) :
    ls.flatMap (splitOn '\n') = ls := by
  induction ls with
  | nil => rfl
  | cons l ls ih =>
    obtain ⟨hl, hr⟩ := List.forall_mem_cons.1 h
    rw [List.flatMap_cons, splitOn_oneLine hl, ih hr]
    rfl

theorem splitOn_closed {ls : List (List Char)} (h : ∀ l ∈ ls, OneLine l) (hn : ls ≠ []) :
    splitOn '\n' (['\n'].intercalate ls ++ ['\n']) = ls ++ [[]] := by
  rw [splitOn_flatMap ls hn, flatMap_splitOn h]

end SchemaPlan.Text
