import SchemaPlan.Proofs.TypeMapping
import SchemaPlan.Proofs.Yaml.Text
import SchemaPlan.TypeMapping.Definition

namespace SchemaPlan

namespace TypeMapping.Definition

open Yaml (Document Value)

/-- How a rule may be read. -/
inductive Reads (d : Document) (name : String) (v : Value) : Except Fault TypeRule → Prop
  | short (ht : spelling? v = some target) : Reads d name v (.ok ⟨target, []⟩)
  | badRule (ht : spelling? v = none) (hv : d.entries? v = none) :
    Reads d name v (.error (.badRule name))
  | badFields (hv : d.entries? v = some fields) (hf : checkFields name fields = .error fault) :
    Reads d name v (.error fault)
  | noTarget (hv : d.entries? v = some fields) (hf : checkFields name fields = .ok ())
    (ht : ∀ target, Value.lookupKey (.text "type") fields = some target → d.isEmpty target = true) :
    Reads d name v (.error (.noTarget name))
  | badSlots (hv : d.entries? v = some fields) (hf : checkFields name fields = .ok ())
    (ht : Value.lookupKey (.text "type") fields = some target) (he : d.isEmpty target = false)
    (hs : slots d name fields = .error fault) : Reads d name v (.error fault)
  | noText (hv : d.entries? v = some fields) (hf : checkFields name fields = .ok ())
    (ht : Value.lookupKey (.text "type") fields = some target) (he : d.isEmpty target = false)
    (hs : slots d name fields = .ok options) (hx : spellingOf d target = .error fault) :
    Reads d name v (.error fault)
  | long (hv : d.entries? v = some fields) (hf : checkFields name fields = .ok ())
    (ht : Value.lookupKey (.text "type") fields = some target) (he : d.isEmpty target = false)
    (hs : slots d name fields = .ok options) (hx : spellingOf d target = .ok spelling) :
    Reads d name v (.ok ⟨spelling, options⟩)

variable {d : Document} {name : String} {v : Value} {fields : List (Value × Value)} {fault : Fault}

theorem textOf_eq_ok_iff : textOf d v = .ok name ↔ d.text v = .ok name := by
  rw [textOf]
  cases d.text v with
  | error fault => exact iff_of_false nofun nofun
  | ok text => exact ⟨fun h => by cases h; rfl, fun h => by cases h; rfl⟩

theorem textOf_eq_error_iff :
    textOf d v = .error fault ↔ ∃ cause, d.text v = .error cause ∧ fault = .document cause := by
  rw [textOf]
  cases d.text v with
  | error cause =>
    constructor
    · rintro ⟨⟩
      exact ⟨cause, rfl, rfl⟩
    · rintro ⟨_, ⟨⟩, rfl⟩
      rfl
  | ok text => exact iff_of_false nofun nofun

theorem spelling?_of_entries? (h : d.entries? v = some fields) : spelling? v = none := by
  cases v with
  | container id => rfl
  | _ => cases h

theorem text_of_spelling? (h : spelling? v = some spelling) : d.text v = .ok spelling.text := by
  cases v with
  | text s =>
    cases h
    rw [Spelling.text_ofString]
    rfl
  | broken letters =>
    cases h
    rfl
  | _ => cases h

theorem spelling?_eq_none_iff : spelling? v = none ↔ v.text? = none := by
  cases v with
  | text | broken => exact iff_of_false nofun nofun
  | _ => exact iff_of_true rfl rfl

theorem spellingOf_eq_error_iff :
    spellingOf d v = .error fault ↔ ∃ cause, d.text v = .error cause ∧ fault = .document cause := by
  rw [spellingOf]
  cases h : spelling? v with
  | none =>
    rw [← textOf_eq_error_iff]
    exact bind_eq_error_iff.trans (or_iff_left fun ⟨_, _, h⟩ => by cases h)
  | some spelling =>
    refine iff_of_false nofun ?_
    rintro ⟨cause, ht, -⟩
    cases (text_of_spelling? h).symm.trans ht

theorem checkFields_eq_ok_iff :
    checkFields name fields = .ok () ↔ ∀ field ∈ fields, isRuleField field.1 = true := by
  have hnil : ((fields.map (·.1)).filter fun key => !isRuleField key) = [] ↔
      ∀ field ∈ fields, isRuleField field.1 = true := by
    rw [List.filter_eq_nil_iff, List.forall_mem_map]
    exact forall₂_congr fun field _ => by simp
  rw [← hnil, checkFields]
  split
  · next h => exact iff_of_true rfl h
  · next h =>
    refine iff_of_false ?_ h
    split <;> nofun

theorem spelling?_of_isRuleField (h : isRuleField v = true) : spelling? v ≠ none := by
  cases v with
  | text s => nofun
  | _ => cases h

theorem text_eq_ok_iff : d.text v = .ok name ↔
    ∃ spelling, spellingOf d v = .ok spelling ∧ spelling.text = name := by
  rw [spellingOf]
  cases h : spelling? v with
  | some spelling =>
    rw [text_of_spelling? h]
    constructor
    · rintro ⟨⟩
      exact ⟨spelling, rfl, rfl⟩
    · rintro ⟨_, ⟨⟩, rfl⟩
      rfl
  | none =>
    dsimp only
    rw [← textOf_eq_ok_iff]
    constructor
    · intro ht
      exact ⟨.ofString name, bind_eq_ok_iff.2 ⟨name, ht, rfl⟩, Spelling.text_ofString name⟩
    · rintro ⟨spelling, hs, rfl⟩
      obtain ⟨text, ht, ⟨⟩⟩ := bind_eq_ok_iff.1 hs
      rwa [Spelling.text_ofString]

theorem checkFields_eq_unnamed_iff :
    checkFields name fields = .error (.unnamedFields name) ↔
      ∃ field ∈ fields, field.1.text? = none := by
  have hnone : ((fields.map (·.1)).filter fun key => !isRuleField key).mapM spelling? = none ↔
      ∃ field ∈ fields, field.1.text? = none := by
    rw [mapM_eq_none_iff]
    constructor
    · rintro ⟨key, hk, hn⟩
      obtain ⟨field, hf, rfl⟩ := List.mem_map.1 (List.mem_filter.1 hk).1
      exact ⟨field, hf, spelling?_eq_none_iff.1 hn⟩
    · rintro ⟨field, hf, hn⟩
      have hn := spelling?_eq_none_iff.2 hn
      refine ⟨field.1, List.mem_filter.2 ⟨List.mem_map_of_mem hf, ?_⟩, hn⟩
      rw [Bool.not_eq_true', ← Bool.not_eq_true]
      exact fun hr => spelling?_of_isRuleField hr hn
  rw [← hnone, checkFields]
  split
  · next h =>
    rw [h]
    exact iff_of_false nofun nofun
  · split
    · next h =>
      rw [h]
      exact iff_of_false nofun nofun
    · next h => exact iff_of_true rfl h

theorem checkFields_error (h : checkFields name fields = .error fault) :
    fault = .unnamedFields name ∨ ∃ names, fault = .unknownFields name names := by
  rw [checkFields] at h
  split at h
  · cases h
  · split at h
    · cases h
      exact .inr ⟨_, rfl⟩
    · cases h
      exact .inl rfl

theorem slots_error (h : slots d name fields = .error fault) : fault = .badSlots name := by
  rw [slots] at h
  split at h
  · cases h
  · split at h
    · cases h
    · cases h
      rfl

theorem slots_eq_ok_iff : slots d name fields = .ok options ↔
    (Value.lookupKey (.text "slots") fields = none ∧ options = []) ∨
    ∃ list items, Value.lookupKey (.text "slots") fields = some list ∧ d.items? list = some items ∧
      items.mapM spelling? = some options := by
  rw [slots]
  cases Value.lookupKey (.text "slots") fields with
  | none =>
    constructor
    · rintro ⟨⟩
      exact .inl ⟨rfl, rfl⟩
    · rintro (⟨-, rfl⟩ | ⟨list, items, ⟨⟩, -⟩)
      rfl
  | some list =>
    dsimp only
    constructor
    · intro h
      split at h
      · next names hn =>
        cases h
        obtain ⟨items, hi, hs⟩ := Option.bind_eq_some_iff.1 hn
        exact .inr ⟨list, items, rfl, hi, hs⟩
      · cases h
    · rintro (⟨⟨⟩, -⟩ | ⟨_, items, ⟨⟩, hi, hs⟩)
      rw [hi, Option.bind_eq_bind, Option.bind_some, hs]

theorem rule_of_entries? (hv : d.entries? v = some fields) :
    rule d name v = (do
      checkFields name fields
      ((Value.lookupKey (.text "type") fields).filter fun target => !d.isEmpty target).elim
        (.error (.noTarget name)) fun target => do
          let slots ← slots d name fields
          return ⟨← spellingOf d target, slots⟩) := by
  rw [rule, spelling?_of_entries? hv, hv]
  dsimp only
  cases (Value.lookupKey (.text "type") fields).filter fun target => !d.isEmpty target <;> rfl

theorem rule_of_noTarget (hv : d.entries? v = some fields) (hf : checkFields name fields = .ok ())
    (ht : ∀ target, Value.lookupKey (.text "type") fields = some target → d.isEmpty target = true) :
    rule d name v = .error (.noTarget name) := by
  have h : (Value.lookupKey (.text "type") fields).filter (fun target => !d.isEmpty target) =
      none := Option.filter_eq_none_iff.2 fun target h => by simpa using ht target h
  rw [rule_of_entries? hv, hf, h]
  rfl

theorem rule_of_target (hv : d.entries? v = some fields) (hf : checkFields name fields = .ok ())
    (ht : Value.lookupKey (.text "type") fields = some target) (he : d.isEmpty target = false) :
    rule d name v = (do
      let slots ← slots d name fields
      return ⟨← spellingOf d target, slots⟩) := by
  have h : (Value.lookupKey (.text "type") fields).filter (fun target => !d.isEmpty target) =
      some target := Option.filter_eq_some_iff.2 ⟨ht, by rw [he]; rfl⟩
  rw [rule_of_entries? hv, hf, h]
  rfl

theorem reads_rule (d : Document) (name : String) (v : Value) : Reads d name v (rule d name v) := by
  cases hv : d.entries? v with
  | none =>
    cases ht : spelling? v with
    | none =>
      rw [rule, ht, hv]
      exact .badRule ht hv
    | some target =>
      rw [rule, ht]
      exact .short ht
  | some fields =>
    cases hf : checkFields name fields with
    | error fault =>
      rw [rule_of_entries? hv, hf]
      exact .badFields hv hf
    | ok =>
      by_cases ht : ∃ target, Value.lookupKey (.text "type") fields = some target ∧
          d.isEmpty target = false
      · obtain ⟨target, ht, he⟩ := ht
        rw [rule_of_target hv hf ht he]
        cases hs : slots d name fields with
        | error fault => exact .badSlots hv hf ht he hs
        | ok options =>
          cases hx : spellingOf d target with
          | error fault => exact .noText hv hf ht he hs hx
          | ok spelling => exact .long hv hf ht he hs hx
      · have ht : ∀ target, Value.lookupKey (.text "type") fields = some target →
            d.isEmpty target = true := by simpa using ht
        rw [rule_of_noTarget hv hf ht]
        exact .noTarget hv hf ht

theorem rule_eq_iff : rule d name v = result ↔ Reads d name v result := by
  refine ⟨fun h => h ▸ reads_rule d name v, fun h => ?_⟩
  cases h with
  | short ht => rw [rule, ht]
  | badRule ht hv => rw [rule, ht, hv]
  | badFields hv hf =>
    rw [rule_of_entries? hv, hf]
    rfl
  | noTarget hv hf ht => exact rule_of_noTarget hv hf ht
  | badSlots hv hf ht he hs =>
    rw [rule_of_target hv hf ht he, hs]
    rfl
  | noText hv hf ht he hs hx =>
    rw [rule_of_target hv hf ht he]
    exact bind_eq_error_iff.2 (.inr ⟨_, hs, bind_eq_error_iff.2 (.inl hx)⟩)
  | long hv hf ht he hs hx =>
    rw [rule_of_target hv hf ht he]
    exact bind_eq_ok_iff.2 ⟨_, hs, bind_eq_ok_iff.2 ⟨_, hx, rfl⟩⟩

theorem namedRule_eq_ok_iff {entry : Value × Value} {rule' : Spelling × TypeRule} :
    namedRule d entry = .ok rule' ↔
      spellingOf d entry.1 = .ok rule'.1 ∧ rule d rule'.1.text entry.2 = .ok rule'.2 := by
  obtain ⟨name, target⟩ := rule'
  rw [namedRule, bind_eq_ok_iff]
  constructor
  · rintro ⟨_, hn, h⟩
    obtain ⟨_, hr, ⟨⟩⟩ := bind_eq_ok_iff.1 h
    exact ⟨hn, hr⟩
  · rintro ⟨hn, hr⟩
    exact ⟨_, hn, bind_eq_ok_iff.2 ⟨_, hr, rfl⟩⟩

theorem namedRule_eq_error_iff {entry : Value × Value} :
    namedRule d entry = .error fault ↔
      (∃ cause, d.text entry.1 = .error cause ∧ fault = .document cause) ∨
      ∃ name, d.text entry.1 = .ok name ∧ rule d name entry.2 = .error fault := by
  rw [namedRule, bind_eq_error_iff, spellingOf_eq_error_iff]
  refine or_congr_right ⟨?_, ?_⟩
  · rintro ⟨name, hn, h⟩
    exact ⟨name.text, text_eq_ok_iff.2 ⟨name, hn, rfl⟩,
      (bind_eq_error_iff.1 h).resolve_right fun ⟨_, _, h⟩ => by cases h⟩
  · rintro ⟨name, hn, hr⟩
    obtain ⟨spelling, hs, rfl⟩ := text_eq_ok_iff.1 hn
    exact ⟨spelling, hs, bind_eq_error_iff.2 (.inl hr)⟩

/-- The entries of a document and those of its table of types. -/
structure Tables (d : Document) (entries types : List (Value × Value)) : Prop where
  root : d.entries? d.root = some entries
  table : Value.lookupKey (.text "types") entries >>= d.entries? = some types

theorem Tables.mapping (h : Tables d entries types) (base : TypeMapping) :
    mapping base d = (do
      let rules := OrderedMap.ofList (← types.mapM (namedRule d))
      return if keepsBase d entries then base.merged rules else .ofRules rules) := by
  rw [Definition.mapping, h.root]
  dsimp only
  rw [h.table]

theorem mapping_of_noTables (h : ¬ ∃ entries types, Tables d entries types) (base : TypeMapping) :
    mapping base d = .error .noTypes := by
  rw [mapping]
  split
  · rfl
  · next entries hr =>
    split
    · rfl
    · next types ht => exact absurd ⟨entries, types, hr, ht⟩ h

theorem Tables.unique (h : Tables d entries types) (h' : Tables d entries' types') :
    entries = entries' ∧ types = types' := by
  obtain rfl := Option.some.inj (h.root.symm.trans h'.root)
  exact ⟨rfl, Option.some.inj (h.table.symm.trans h'.table)⟩

theorem mapping_eq_ok_iff : mapping base d = .ok m ↔ ∃ entries types rules,
    Tables d entries types ∧ types.mapM (namedRule d) = .ok rules ∧
    m = if keepsBase d entries then base.merged (OrderedMap.ofList rules)
      else ofRules (OrderedMap.ofList rules) := by
  constructor
  · intro h
    by_cases ht : ∃ entries types, Tables d entries types
    · obtain ⟨entries, types, ht⟩ := ht
      rw [ht.mapping, bind_eq_ok_iff] at h
      obtain ⟨rules, hr, ⟨⟩⟩ := h
      exact ⟨entries, types, rules, ht, hr, rfl⟩
    · rw [mapping_of_noTables ht] at h
      cases h
  · rintro ⟨entries, types, rules, ht, hr, rfl⟩
    rw [ht.mapping, hr]
    rfl

theorem mapping_eq_error_iff : mapping base d = .error fault ↔
    (fault = .noTypes ∧ ¬ ∃ entries types, Tables d entries types) ∨
    ∃ entries before entry after, Tables d entries (before ++ entry :: after) ∧
      (∀ earlier ∈ before, ∃ rule, namedRule d earlier = .ok rule) ∧
      namedRule d entry = .error fault := by
  by_cases ht : ∃ entries types, Tables d entries types
  · rw [or_iff_right fun h => h.2 ht]
    obtain ⟨entries, types, ht⟩ := ht
    rw [ht.mapping, bind_eq_error_iff, mapM_eq_error_iff]
    constructor
    · rintro (⟨before, entry, after, rfl, hb, he⟩ | ⟨_, -, h⟩)
      · exact ⟨entries, before, entry, after, ht, hb, he⟩
      · cases h
    · rintro ⟨entries', before, entry, after, ht', hb, he⟩
      exact .inl ⟨before, entry, after, (ht.unique ht').2, hb, he⟩
  · rw [mapping_of_noTables ht]
    constructor
    · rintro ⟨⟩
      exact .inl ⟨rfl, ht⟩
    · rintro (⟨rfl, -⟩ | ⟨entries, before, entry, after, ht', -⟩)
      · rfl
      · exact absurd ⟨_, _, ht'⟩ ht

end TypeMapping.Definition

namespace TypeMapping

open Yaml (Document)

theorem ofFile_eq_ok_iff : ofFile base content = .ok m ↔
    ∃ d, Document.read (.ofBytes content) = .ok d ∧ Definition.mapping base d = .ok m := by
  rw [ofFile]
  cases Document.read (.ofBytes content) with
  | error cause => exact iff_of_false nofun nofun
  | ok d =>
    constructor
    · exact fun h => ⟨d, rfl, h⟩
    · rintro ⟨_, ⟨⟩, h⟩
      exact h

theorem ofFile_eq_error_iff : ofFile base content = .error fault ↔
    (∃ cause, Document.read (.ofBytes content) = .error cause ∧ fault = .document cause) ∨
    ∃ d, Document.read (.ofBytes content) = .ok d ∧ Definition.mapping base d = .error fault := by
  rw [ofFile]
  cases Document.read (.ofBytes content) with
  | error cause =>
    constructor
    · rintro ⟨⟩
      exact .inl ⟨cause, rfl, rfl⟩
    · rintro (⟨_, ⟨⟩, rfl⟩ | ⟨_, ⟨⟩, -⟩)
      rfl
  | ok d =>
    constructor
    · exact fun h => .inr ⟨d, rfl, h⟩
    · rintro (⟨_, ⟨⟩, -⟩ | ⟨_, ⟨⟩, h⟩)
      exact h

end TypeMapping

end SchemaPlan
