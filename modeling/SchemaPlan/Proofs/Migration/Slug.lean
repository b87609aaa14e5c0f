import SchemaPlan.Migration.Slug
import SchemaPlan.Proofs.Text.Lines

namespace SchemaPlan.Slug
open Text

theorem isSlugChar_of_mem_replaceRuns (h : c ∈ replaceRuns inRun s) : isSlugChar c = true := by
  fun_induction replaceRuns inRun s with
  | case1 => cases h
  | case2 inRun d rest hd ih =>
    rcases List.mem_cons.1 h with rfl | h
    · exact hd
    · exact ih h
  | case3 d rest hd ih => exact ih h
  | case4 inRun d rest hd hr ih =>
    rcases List.mem_cons.1 h with rfl | h
    · decide
    · exact ih h

theorem mem_of_mem_stripChars (h : c ∈ stripChars chars s) : c ∈ s := by
  have hs := List.mem_reverse.1 h
  have ht := List.mem_reverse.1 ((List.dropWhile_sublist _).subset hs)
  exact (List.dropWhile_sublist _).subset ht

theorem isSlugChar_of_mem_uncut {name : String} (h : c ∈ uncut name) : isSlugChar c = true := by
  have hs {c : Char} (h : c ∈ stem name.toList) : isSlugChar c = true :=
    isSlugChar_of_mem_replaceRuns (mem_of_mem_stripChars h)
  rw [uncut] at h
  cases hn : stem name.toList with
  | nil => rw [hn] at h; cases h
  | cons d rest =>
    rw [hn] at h hs
    rw [lead] at h
    split at h
    · rcases List.mem_append.1 h with h | h
      · have hl : digitLead.all isSlugChar = true := by decide
        exact List.all_eq_true.1 hl c h
      · exact hs h
    · exact hs h

theorem mem_of_mem_leading (h : c ∈ leading n s) : c ∈ s := by
  rw [leading] at h
  split at h <;> exact List.mem_of_mem_take h

theorem mem_of_mem_cut (h : c ∈ cut limit s) : c ∈ s := by
  simp only [cut] at h
  split at h
  · exact mem_of_mem_leading (mem_of_mem_leading h)
  · exact mem_of_mem_leading h

theorem isSlugChar_of_mem_ofName {name : String} {limit : Int}
    (h : c ∈ (ofName name limit).value.toList) : isSlugChar c = true := by
  rw [ofName] at h
  split at h
  · have hc : c ∈ (String.ofList (cut limit (uncut name))).toList := h
    rw [String.toList_ofList] at hc
    exact isSlugChar_of_mem_uncut (mem_of_mem_cut hc)
  · rw [Logged.value_pure, String.toList_ofList] at h
    split at h
    · have hf : fallback.all isSlugChar = true := by decide
      exact List.all_eq_true.1 hf c h
    · exact isSlugChar_of_mem_uncut h

theorem oneLine_className (name : String) : OneLine (className name).value.toList := by
  have hs : OneLine (ofName name).value.toList :=
    notMem_of_forall (fun _ => isSlugChar_of_mem_ofName) rfl
  change OneLine (camelize (ofName name).value).toList
  rw [camelize, String.toList_ofList]
  exact OneLine.flatMap fun piece hp => OneLine.capitalize fun hl => hs (mem_of_mem_splitOn hp hl)

end SchemaPlan.Slug
