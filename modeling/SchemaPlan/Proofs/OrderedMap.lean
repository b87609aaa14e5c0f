import Mathlib
import SchemaPlan.OrderedMap

namespace SchemaPlan.OrderedMap

variable {κ β : Type} [DecidableEq κ] {m : OrderedMap κ β} {entries more : List (κ × β)}
  {key other : κ} {value : β}

def keys (m : OrderedMap κ β) : List κ := m.map (·.1)

theorem putAll_append (entries more : List (κ × β)) (m : OrderedMap κ β) :
    putAll (entries ++ more) m = putAll more (putAll entries m) :=
  List.foldl_append

theorem get?_put (m : OrderedMap κ β) (key : κ) (value : β) (other : κ) :
    get? (put key value m) other = if other = key then some value else get? m other := by
  induction m with
  | nil => by_cases h : other = key <;> simp [put, get?, List.lookup, beq_eq_decide, h]
  | cons entry m ih =>
    obtain ⟨k, v⟩ := entry
    simp only [get?] at ih ⊢
    rw [put]
    split
    · next hk =>
      subst hk
      by_cases h : other = k <;> simp [List.lookup_cons, beq_eq_decide, h]
    · next hk =>
      rw [List.lookup_cons, List.lookup_cons, ih]
      by_cases h : other = k
      · subst h
        simp [hk]
      · simp [beq_eq_decide, h]

theorem get?_putAll (entries : List (κ × β)) (m : OrderedMap κ β) (key : κ) :
    get? (putAll entries m) key = (entries.reverse.lookup key).or (get? m key) := by
  induction entries generalizing m with
  | nil => rfl
  | cons entry entries ih =>
    rw [putAll, List.foldl_cons, ← putAll, ih, get?_put, List.reverse_cons, List.lookup_append,
      Option.or_assoc]
    congr 1
    obtain ⟨k, v⟩ := entry
    by_cases h : key = k <;> simp [List.lookup, beq_eq_decide, h]

theorem keys_put (key : κ) (value : β) (m : OrderedMap κ β) :
    keys (put key value m) = if key ∈ keys m then keys m else keys m ++ [key] := by
  induction m with
  | nil => rfl
  | cons entry m ih =>
    obtain ⟨k, v⟩ := entry
    simp only [keys] at ih
    rw [put]
    by_cases h : k = key
    · simp [keys, h]
    · by_cases hm : key ∈ m.map (·.1)
      · simp [keys, h, ih, hm]
      · simp [keys, h, ih, hm, Ne.symm h]

theorem keys_putAll (entries : List (κ × β)) (m : OrderedMap κ β) :
    keys (putAll entries m) =
      keys m ++ ((entries.map (·.1)).filter (· ∉ keys m)).eraseDups := by
  induction entries generalizing m with
  | nil => exact (List.append_nil _).symm
  | cons entry entries ih =>
    obtain ⟨key, value⟩ := entry
    rw [putAll, List.foldl_cons, ← putAll, ih, keys_put, List.map_cons]
    by_cases h : key ∈ keys m
    · rw [if_pos h, List.filter_cons_of_neg (by simpa using h)]
    · rw [if_neg h, List.filter_cons_of_pos (by simpa using h), List.eraseDups_cons,
        List.filter_filter, List.append_assoc, List.singleton_append]
      congr 3
      apply List.filter_congr
      intro name _
      simp [and_comm, beq_eq_decide]

theorem keys_ofList (entries : List (κ × β)) :
    keys (ofList entries) = (entries.map (·.1)).eraseDups := by
  rw [ofList, keys_putAll]
  simp [keys]

theorem nodup_keys_put (h : (keys m).Nodup) : (keys (put key value m)).Nodup := by
  rw [keys_put]
  split
  · exact h
  · next hk => exact List.nodup_append.2 ⟨h, List.nodup_singleton _, by
      rintro name hm _ hs rfl
      exact hk (List.mem_singleton.1 hs ▸ hm)⟩

theorem nodup_keys_putAll (entries : List (κ × β)) (h : (keys m).Nodup) :
    (keys (putAll entries m)).Nodup := by
  induction entries generalizing m with
  | nil => exact h
  | cons entry entries ih => exact ih (nodup_keys_put h)

theorem mem_of_mem_put (h : entry ∈ put key value m) : entry = (key, value) ∨ entry ∈ m := by
  induction m with
  | nil => exact .inl (List.mem_singleton.1 h)
  | cons first m ih =>
    rw [put] at h
    split at h
    · next hk =>
      subst hk
      exact (List.mem_cons.1 h).imp_right (List.mem_cons_of_mem _)
    · rcases List.mem_cons.1 h with rfl | h
      · exact .inr List.mem_cons_self
      · exact (ih h).imp_right (List.mem_cons_of_mem _)

theorem mem_of_mem_putAll (h : entry ∈ putAll entries m) : entry ∈ entries ∨ entry ∈ m := by
  induction entries generalizing m with
  | nil => exact .inr h
  | cons first entries ih =>
    rcases ih h with h | h
    · exact .inl (List.mem_cons_of_mem _ h)
    · rcases mem_of_mem_put h with rfl | h
      · exact .inl List.mem_cons_self
      · exact .inr h

theorem get?_of_mem (hn : (keys m).Nodup) (h : (key, value) ∈ m) : get? m key = some value := by
  obtain ⟨before, after, rfl⟩ := List.append_of_mem h
  rw [get?, List.lookup_eq_some_iff]
  refine ⟨before, after, rfl, fun entry he => ?_⟩
  rw [bne_iff_ne]
  rintro rfl
  rw [keys, List.map_append, List.nodup_append] at hn
  exact hn.2.2 _ (List.mem_map_of_mem he) _ (List.mem_map_of_mem List.mem_cons_self) rfl

theorem put_put (key : κ) (value value' : β) (m : OrderedMap κ β) :
    put key value (put key value' m) = put key value m := by
  induction m with
  | nil => simp [put]
  | cons entry m ih =>
    obtain ⟨k, v⟩ := entry
    by_cases h : k = key <;> simp [put, h, ih]

theorem put_comm (hk : key ∈ keys m) (h : key ≠ other) (value value' : β) :
    put key value (put other value' m) = put other value' (put key value m) := by
  induction m with
  | nil => cases hk
  | cons entry m ih =>
    obtain ⟨k, v⟩ := entry
    by_cases hkey : k = key
    · subst hkey
      simp [put, h]
    · by_cases hother : k = other
      · subst hother
        simp [put, hkey]
      · have hm : key ∈ keys m := (List.mem_cons.1 hk).resolve_left (Ne.symm hkey)
        simp [put, hkey, hother, ih hm]

theorem put_putAll (hk : key ∈ keys m) (hn : key ∉ keys entries) (value : β) :
    put key value (putAll entries m) = putAll entries (put key value m) := by
  induction entries generalizing m with
  | nil => rfl
  | cons entry entries ih =>
    obtain ⟨other, value'⟩ := entry
    obtain ⟨hne, hn⟩ := List.ne_and_not_mem_of_not_mem_cons hn
    have hm : key ∈ keys (put other value' m) := by
      rw [keys_put]
      split
      · exact hk
      · exact List.mem_append_left _ hk
    exact (ih hm hn).trans (congrArg _ (put_comm hk hne value value'))

theorem putAll_put (hn : (keys more).Nodup) (key : κ) (value : β) (m : OrderedMap κ β) :
    putAll (put key value more) m = put key value (putAll more m) := by
  induction more generalizing m with
  | nil => rfl
  | cons entry more ih =>
    obtain ⟨other, value'⟩ := entry
    obtain ⟨hk, hn⟩ := List.nodup_cons.1 hn
    rw [put]
    split
    · next h =>
      subst h
      -- The key is known from here on, so that its new value may wait until the end.
      have hm : other ∈ keys (put other value' m) := by
        rw [keys_put]
        split
        · assumption
        · simp
      have hw := put_putAll hm hk value
      rw [put_put] at hw
      exact hw.symm
    · exact ih hn _

theorem putAll_putAll (hn : (keys more).Nodup) (entries : List (κ × β)) (m : OrderedMap κ β) :
    putAll (putAll entries more) m = putAll entries (putAll more m) := by
  induction entries generalizing more with
  | nil => rfl
  | cons entry entries ih =>
    exact (ih (nodup_keys_put hn)).trans (congrArg _ (putAll_put hn _ _ m))

theorem putAll_ofList (entries : List (κ × β)) (m : OrderedMap κ β) :
    putAll (ofList entries) m = putAll entries m := by
  have hn : (keys ([] : OrderedMap κ β)).Nodup := List.nodup_nil
  exact putAll_putAll hn entries m

end SchemaPlan.OrderedMap
