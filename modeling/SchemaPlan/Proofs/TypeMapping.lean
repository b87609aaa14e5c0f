import SchemaPlan.Proofs.OrderedMap
import SchemaPlan.Proofs.Spelling
import SchemaPlan.TypeMapping

namespace SchemaPlan.TypeMapping

variable {rules : List (Spelling × TypeRule)} {name : Spelling}

/-- The last of the rules that has the name, in any case. -/
def lastRule? (rules : List (Spelling × TypeRule)) (name : Spelling) : Option TypeRule :=
  (rules.reverse.find? fun rule => rule.1.lower = name.lower).map (·.2)

theorem lastRule?_eq_none_iff :
    lastRule? rules name = none ↔ ∀ rule ∈ rules, rule.1.lower ≠ name.lower := by
  simp [lastRule?]

theorem lookup_lowerKeys (rules : List (Spelling × TypeRule)) (name : Spelling) :
    (lowerKeys rules).lookup (name.lower) =
      (rules.find? fun rule => rule.1.lower = name.lower).map (·.2) := by
  induction rules with
  | nil => rfl
  | cons rule rules ih =>
    rw [lowerKeys, List.map_cons, ← lowerKeys, List.lookup_cons, List.find?_cons, ih]
    by_cases h : rule.1.lower = name.lower
    · simp [h]
    · simp [h, beq_eq_decide, Ne.symm h]

theorem lowerKeys_append (rules overrides : List (Spelling × TypeRule)) :
    lowerKeys (rules ++ overrides) = lowerKeys rules ++ lowerKeys overrides :=
  List.map_append

theorem keys_lowerKeys (rules : List (Spelling × TypeRule)) :
    (lowerKeys rules).map (·.1) = rules.map (·.1.lower) :=
  List.map_map

theorem names_ofRules (rules : List (Spelling × TypeRule)) :
    (ofRules rules).names = (rules.map (·.1.lower)).eraseDups := by
  rw [← keys_lowerKeys]
  exact OrderedMap.keys_ofList _

theorem lower_of_mem_names (h : name ∈ (ofRules rules).names) : name.lower = name := by
  rw [names_ofRules, List.mem_eraseDups, List.mem_map] at h
  obtain ⟨rule, -, rfl⟩ := h
  exact Spelling.lower_lower rule.1

theorem nodup_names (rules : List (Spelling × TypeRule)) : (ofRules rules).names.Nodup :=
  OrderedMap.nodup_keys_putAll _ List.nodup_nil

theorem lowerKeys_rules (rules : List (Spelling × TypeRule)) :
    lowerKeys (ofRules rules).rules = (ofRules rules).rules := by
  rw [lowerKeys]
  conv_rhs => rw [← List.map_id (ofRules rules).rules]
  apply List.map_congr_left
  rintro ⟨name, rule⟩ hm
  exact congrArg (·, rule) (lower_of_mem_names (List.mem_map_of_mem hm))

theorem get?_merged (m : TypeMapping) (overrides : List (Spelling × TypeRule)) (name : Spelling) :
    (m.merged overrides).get? name = (lastRule? overrides name).or (m.get? name) := by
  have hr : (lowerKeys overrides).reverse = lowerKeys overrides.reverse := List.map_reverse.symm
  rw [get?, merged, OrderedMap.get?_putAll, hr, lookup_lowerKeys]
  rfl

theorem get?_ofRules (rules : List (Spelling × TypeRule)) (name : Spelling) :
    (ofRules rules).get? name = lastRule? rules name :=
  (get?_merged ⟨[]⟩ rules name).trans Option.or_none

theorem get?_of_mem (h : (name, rule) ∈ (ofRules rules).rules) :
    (ofRules rules).get? name = some rule := by
  rw [get?, lower_of_mem_names (List.mem_map_of_mem h)]
  exact OrderedMap.get?_of_mem (nodup_names rules) h

theorem names_merged (m : TypeMapping) (overrides : List (Spelling × TypeRule)) :
    (m.merged overrides).names =
      m.names ++ ((overrides.map (·.1.lower)).filter (· ∉ m.names)).eraseDups := by
  rw [← keys_lowerKeys]
  exact OrderedMap.keys_putAll _ _

theorem merged_append (m : TypeMapping) (overrides more : List (Spelling × TypeRule)) :
    m.merged (overrides ++ more) = (m.merged overrides).merged more := by
  rw [merged, merged, merged, lowerKeys_append, OrderedMap.putAll_append]

theorem merged_ofRules (rules overrides : List (Spelling × TypeRule)) :
    (ofRules rules).merged overrides = ofRules (rules ++ overrides) :=
  (merged_append ⟨[]⟩ rules overrides).symm

theorem merged_rules (m : TypeMapping) (overrides : List (Spelling × TypeRule)) :
    m.merged (ofRules overrides).rules = m.merged overrides := by
  rw [merged, lowerKeys_rules, ofRules, OrderedMap.putAll_ofList]
  rfl

theorem ofRules_rules (rules : List (Spelling × TypeRule)) :
    ofRules (ofRules rules).rules = ofRules rules :=
  merged_rules ⟨[]⟩ rules

/-- What a mapping holds that is made of any rules, in which order, and what rules that are laid on
it change. A name stands for the last rule that has it in any case. It changes nothing to make a
mapping again of its own rules, and two layers are one that holds the rules of both, in a row or as
a mapping. -/
theorem layers (rules a b : List (Spelling × TypeRule)) (name : Spelling) :
    let m := ofRules rules
    m.get? name = lastRule? rules name ∧
    (m.get? name = none ↔ ∀ rule ∈ rules, rule.1.lower ≠ name.lower) ∧
    m.names = (rules.map (·.1.lower)).eraseDups ∧
    (∀ key ∈ m.names, m.contains key = true) ∧ m.names.Nodup ∧ m.size = m.names.length ∧
    (∀ entry ∈ m.rules, m.get? entry.1 = some entry.2) ∧
    (m.merged a).get? name = (lastRule? a name).or (m.get? name) ∧
    (m.merged a).names =
      m.names ++ ((a.map (·.1.lower)).filter (· ∉ m.names)).eraseDups ∧
    m.merged a = ofRules (m.rules.putAll (lowerKeys a)) ∧
    (m.merged a).merged b = m.merged (a ++ b) ∧
    (m.merged a).merged b = m.merged ((ofRules a).merged b).rules := by
  intro m
  have hmem : ∀ entry ∈ m.rules, m.get? entry.1 = some entry.2 := fun _ => get?_of_mem
  refine ⟨get?_ofRules rules name, ?_, names_ofRules rules, ?_, nodup_names rules, ?_, hmem,
    get?_merged m a name, names_merged m a, ?_, (merged_append m a b).symm, ?_⟩
  · rw [get?_ofRules, lastRule?_eq_none_iff]
  · intro key hk
    obtain ⟨entry, he, rfl⟩ := List.mem_map.1 hk
    rw [contains, hmem entry he]
    rfl
  · exact (List.length_map _).symm
  · have hr : m.rules.putAll (lowerKeys a) = (ofRules (rules ++ a)).rules := by
      rw [← merged_ofRules]
      rfl
    rw [hr, ofRules_rules, merged_ofRules]
  · rw [merged_ofRules a b, merged_rules, merged_append]

/-- A layer that spells one name in two ways is more than a map by its spellings, where the later
rule would take the place of the first one. -/
example :
    ((ofRules []).merged [("BIT", ⟨"string", []⟩), ("bit", ⟨"text", []⟩)]).merged
        [("BIT", ⟨"json", []⟩)] = ofRules [("bit", ⟨"json", []⟩)] ∧
      (ofRules []).merged (OrderedMap.putAll [("BIT", ⟨"json", []⟩)]
        [("BIT", ⟨"string", []⟩), ("bit", ⟨"text", []⟩)]) = ofRules [("bit", ⟨"text", []⟩)] := by
  decide +kernel

end SchemaPlan.TypeMapping
