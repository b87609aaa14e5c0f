import SchemaPlan.Proofs.Migration.Distinct
import SchemaPlan.Proofs.Migration.Parameters
import SchemaPlan.Proofs.TypeMapping.Loading

namespace SchemaPlan

open Yaml (Document Value)
open TypeMapping.Definition

/-- The rule names a type, and its parameters fill different options. -/
structure TypeRule.Proper (rule : TypeRule) : Prop where
  target : rule.target.text ≠ ""
  slots : rule.slots.Nodup

/-- The options that stand in the line of a new column, with the word on nulls as the last one. -/
def lineOptions (options : List (String × String)) (nullable : Option Bool) :
    List (String × String) :=
  options ++ if nullable = some false then [("null", "false")] else []

namespace TypeMapping

/-- A rule that is the empty text. -/
def Blank (v : Value) : Prop := ∃ target, spelling? v = some target ∧ target.text = ""

/-- A rule that lists an option twice. -/
def Repeats (d : Document) (v : Value) : Prop :=
  ∃ fields list items options, d.entries? v = some fields ∧
    Value.lookupKey (.text "slots") fields = some list ∧ d.items? list = some items ∧
    items.mapM spelling? = some options ∧ ¬ options.Nodup

/-- An entry of the table gives the rule under its name in lower case. The rule names a type unless
the entry is blank, and its options differ unless the entry repeats one. -/
structure Defines (d : Document) (source : Value × Value) (entry : Spelling × TypeRule) : Prop where
  reads : ∃ name, namedRule d source = .ok (name, entry.2) ∧ name.lower = entry.1
  target : entry.2.target.text = "" ↔ Blank source.2
  slots : ¬ entry.2.slots.Nodup ↔ Repeats d source.2

/-- A rule that is a mapping with the target and the options. -/
def LongForm (d : Document) (name : String) (v target : Value) (options : List Spelling) : Prop :=
  ∃ fields, d.entries? v = some fields ∧
    (∀ field ∈ fields, isRuleField field.1 = true) ∧
    Value.lookupKey (.text "type") fields = some target ∧ slots d name fields = .ok options

section
variable {d : Document} {v : Value} {type : TypeRule} {name : String}

theorem isEmpty_iff_of_spelling? (h : spelling? v = some target) :
    d.isEmpty v = true ↔ target.text = "" := by
  cases v with
  | text s =>
    cases h
    rw [Spelling.text_ofString]
    exact decide_eq_true_iff
  | broken letters =>
    cases h
    simp [Document.isEmpty, Spelling.text, Yaml.Letter.written_eq_nil_iff]
  | _ => cases h

theorem ne_empty_of_spellingOf (he : d.isEmpty v = false) (h : spellingOf d v = .ok target) :
    target.text ≠ "" := by
  rw [spellingOf] at h
  split at h
  · next spelling hs =>
    cases h
    rw [Ne, ← isEmpty_iff_of_spelling? hs (d := d), he]
    exact Bool.false_ne_true
  · next hs =>
    obtain ⟨text, ht, ⟨⟩⟩ := bind_eq_ok_iff.1 h
    rw [Spelling.text_ofString]
    exact Document.text_ne_empty (spelling?_eq_none_iff.1 hs) (textOf_eq_ok_iff.1 ht)

theorem Definition.Reads.target_eq_empty_iff (h : Reads d name v (.ok type)) :
    type.target.text = "" ↔ Blank v := by
  cases h with
  | short ht =>
    constructor
    · exact fun h => ⟨_, ht, h⟩
    · rintro ⟨target, h, he⟩
      cases ht.symm.trans h
      exact he
  | long hv hf ht he hs hx =>
    refine iff_of_false (ne_empty_of_spellingOf he hx) ?_
    rintro ⟨target, h, -⟩
    cases (spelling?_of_entries? hv).symm.trans h

theorem Definition.Reads.nodup_iff (h : Reads d name v (.ok type)) :
    ¬ type.slots.Nodup ↔ Repeats d v := by
  cases h with
  | short ht =>
    refine iff_of_false (fun h => h List.nodup_nil) ?_
    rintro ⟨fields, list, items, options, hv, -⟩
    cases (spelling?_of_entries? hv).symm.trans ht
  | long hv hf ht he hs hx =>
    rcases slots_eq_ok_iff.1 hs with ⟨hl, rfl⟩ | ⟨list, items, hl, hi, ho⟩
    · refine iff_of_false (fun h => h List.nodup_nil) ?_
      rintro ⟨fields, list, items, options, hv', hl', -⟩
      cases hv.symm.trans hv'
      cases hl.symm.trans hl'
    · constructor
      · exact fun h => ⟨_, list, items, _, hv, hl, hi, ho, h⟩
      · rintro ⟨fields, list', items', options, hv', hl', hi', ho', hn⟩
        cases hv.symm.trans hv'
        cases hl.symm.trans hl'
        cases hi.symm.trans hi'
        cases ho.symm.trans ho'
        exact hn

theorem LongForm.rule_eq (h : LongForm d name v w options) (hx : spellingOf d w = .ok target) :
    rule d name v = if d.isEmpty w then .error (.noTarget name) else .ok ⟨target, options⟩ := by
  obtain ⟨fields, hv, hf, ht, hs⟩ := h
  have hc : checkFields name fields = .ok () := checkFields_eq_ok_iff.2 hf
  split
  · next he =>
    refine rule_eq_iff.2 (.noTarget hv hc fun other ho => ?_)
    cases ht.symm.trans ho
    exact he
  · next he => exact rule_eq_iff.2 (.long hv hc ht (Bool.not_eq_true _ ▸ he) hs hx)

theorem LongForm.rule_text (h : LongForm d name v w options) (ht : spelling? w = some target) :
    rule d name w = .ok ⟨target, []⟩ ∧
    rule d name v =
      if target.text = "" then .error (.noTarget name) else .ok ⟨target, options⟩ := by
  refine ⟨rule_eq_iff.2 (.short ht), ?_⟩
  rw [h.rule_eq (by rw [spellingOf, ht])]
  exact if_congr (isEmpty_iff_of_spelling? ht) rfl rfl

theorem LongForm.rule_other (h : LongForm d name v w options) (ht : spelling? w = none)
    (hx : d.text w = .ok text) :
    (d.entries? w = none → rule d name w = .error (.badRule name)) ∧
    rule d name v = if d.isEmpty w then .error (.noTarget name) else .ok ⟨text, options⟩ := by
  refine ⟨fun hv => rule_eq_iff.2 (.badRule ht hv), h.rule_eq ?_⟩
  rw [spellingOf, ht]
  exact bind_eq_ok_iff.2 ⟨text, textOf_eq_ok_iff.2 hx, rfl⟩

end

theorem Defines.proper (h : Defines d source entry) (hb : ¬ Blank source.2)
    (hr : ¬ Repeats d source.2) : entry.2.Proper :=
  ⟨fun he => hb (h.target.1 he), by_contra fun hn => hr (h.slots.1 hn)⟩

theorem proper_standard : ∀ entry ∈ standard.rules, entry.2.Proper := by
  have h : ∀ entry ∈ standard.rules, entry.2.target.text ≠ "" ∧ entry.2.slots.Nodup := by
    decide +kernel
  exact fun entry he => ⟨(h entry he).1, (h entry he).2⟩

theorem defines_of_mem {d : Document} {types : List (Value × Value)}
    {rules : List (Spelling × TypeRule)}
    (hr : types.mapM (namedRule d) = .ok rules)
    (h : entry ∈ lowerKeys (OrderedMap.ofList rules)) :
    ∃ source ∈ types, Defines d source entry := by
  obtain ⟨⟨name, type⟩, hm, rfl⟩ := List.mem_map.1 h
  have hm : (name, type) ∈ rules :=
    (OrderedMap.mem_of_mem_putAll hm).resolve_right List.not_mem_nil
  obtain ⟨source, hs, hn⟩ := exists_of_mem_mapM hr hm
  have hreads := rule_eq_iff.1 (namedRule_eq_ok_iff.1 hn).2
  exact ⟨source, hs, ⟨name, hn, rfl⟩, hreads.target_eq_empty_iff, hreads.nodup_iff⟩

theorem mem_mapping {d : Document} {base m : TypeMapping} (ht : Tables d entries types)
    (hm : mapping base d = .ok m) (h : entry ∈ m.rules) :
    entry ∈ base.rules ∨ ∃ source ∈ types, Defines d source entry := by
  obtain ⟨entries', types', rules, ht', hr, rfl⟩ := mapping_eq_ok_iff.1 hm
  obtain ⟨rfl, rfl⟩ := ht.unique ht'
  split at h
  · rcases OrderedMap.mem_of_mem_putAll h with h | h
    · exact .inr (defines_of_mem hr h)
    · exact .inl h
  · rcases OrderedMap.mem_of_mem_putAll h with h | h
    · exact .inr (defines_of_mem hr h)
    · cases h

theorem exists_ofRules {d : Document} (hm : mapping (ofRules base) d = .ok m) :
    ∃ rules, m = ofRules rules := by
  obtain ⟨_, _, rules, -, -, rfl⟩ := mapping_eq_ok_iff.1 hm
  split
  · exact ⟨_, merged_ofRules base _⟩
  · exact ⟨_, rfl⟩

theorem options_target? {m : TypeMapping} (hr : m.target? base params = some target) :
    target.options = [] ∨ ∃ entry ∈ m.rules, target.options = entry.2.slots.zip params := by
  rcases target?_cases hr with rfl | ⟨type, hm, rfl⟩
  · exact .inl rfl
  · exact .inr ⟨_, hm, rfl⟩

theorem nodup_options_iff (rules : List (Spelling × TypeRule)) :
    (∀ base params target, (ofRules rules).target? base params = some target →
      (target.options.map (·.1)).Nodup) ↔
    ∀ entry ∈ (ofRules rules).rules, entry.2.slots.Nodup := by
  constructor
  · rintro h ⟨name, type⟩ hm
    have hl : (List.replicate type.slots.length (0 : Int)).length ≤ type.slots.length := by simp
    have hn := h name _ _ (target?_of_rule (get?_of_mem hm) hl)
    rwa [List.map_fst_zip (by simp)] at hn
  · intro h base params target hr
    rcases options_target? hr with ho | ⟨entry, hm, ho⟩
    · rw [ho]
      exact List.nodup_nil
    · rw [ho, map_fst_zip_eq_take]
      exact (h entry hm).sublist (List.take_sublist _ _)

end TypeMapping

theorem columnLine_eq (table column target : String) (options : List (String × String))
    (nullable : Option Bool) :
    columnLine table column target options nullable =
      ", ".intercalate ([s!"add_column {rubySymbol table}", rubySymbol column, rubySymbol target] ++
        (lineOptions options nullable).map fun (slot, digits) => s!"{slot}: {digits}") := by
  rw [columnLine, lineOptions, List.map_append]
  split <;> rfl

theorem TargetType.nodup_text_iff {target : TargetType} (h : ∀ o ∈ target.options, o.1.IsWord) :
    (target.options.map (·.1.text)).Nodup ↔ (target.options.map (·.1)).Nodup := by
  have hm : target.options.map (·.1.text) = (target.options.map (·.1)).map (·.text) := by
    rw [List.map_map]
    rfl
  rw [hm]
  refine ⟨List.Nodup.of_map _, List.Nodup.map_on ?_⟩
  intro s hs t ht
  obtain ⟨o, ho, rfl⟩ := List.mem_map.1 hs
  obtain ⟨p, hp, rfl⟩ := List.mem_map.1 ht
  exact Spelling.eq_of_text (h o ho).1 (h p hp).1

theorem TargetType.nodup_lineOptions_iff {target : TargetType}
    (h : ∀ o ∈ target.options, o.1.IsWord) :
    ((lineOptions target.shownOptions nullable).map (·.1)).Nodup ↔
      (target.options.map (·.1)).Nodup ∧
      (nullable = some false → "null" ∉ target.options.map (·.1.text)) := by
  have hs : target.shownOptions.map (·.1) = target.options.map (·.1.text) := List.map_map
  rw [lineOptions, List.map_append, hs, ← nodup_text_iff h]
  split
  · next hn =>
    rw [List.map_singleton, List.nodup_append_comm, List.singleton_append, List.nodup_cons, and_comm]
    exact and_congr_right fun _ => ⟨fun h _ => h, fun h => h hn⟩
  · next hn =>
    rw [List.map_nil, List.append_nil]
    exact (and_iff_left fun h => absurd h hn).symm

namespace TypeMapping

/-- What a mapping is like that a file defines on top of the standard one. Its rules are standard
ones, which are proper, or come from the table, and these are proper unless they are blank or repeat
an option. The two forms of a rule take the same texts for targets, but for the empty one, and only
the long form takes other values. The options of every type differ exactly if the slots of every
rule do, and those of the line of a new column if they do and none collides with the word on nulls;
slots that are no words might bring in further options. -/
theorem load_rules {path : Path} {w : Workspace} (h : ((load path).run.run w).1 = .ok m) :
    ∃ content d entries types, w.tree.read w.directory path = .ok content ∧
      Document.read (.ofBytes content) = .ok d ∧ Tables d entries types ∧
      (∀ entry ∈ m.rules, (entry ∈ standard.rules ∧ entry.2.Proper) ∨
        ∃ source ∈ types, Defines d source entry) ∧
      ((∀ source ∈ types, ¬ Blank source.2 ∧ ¬ Repeats d source.2) →
        ∀ entry ∈ m.rules, entry.2.Proper) ∧
      (∀ name v target options, LongForm d name v target options →
        (∀ spelling, spelling? target = some spelling →
          rule d name target = .ok ⟨spelling, []⟩ ∧
          rule d name v =
            if spelling.text = "" then .error (.noTarget name) else .ok ⟨spelling, options⟩) ∧
        ∀ text, spelling? target = none → d.text target = .ok text →
          (d.entries? target = none → rule d name target = .error (.badRule name)) ∧
          rule d name v =
            if d.isEmpty target then .error (.noTarget name) else .ok ⟨text, options⟩) ∧
      ((∀ base params target, m.target? base params = some target →
          (target.options.map (·.1)).Nodup) ↔
        ∀ entry ∈ m.rules, entry.2.slots.Nodup) ∧
      ∀ (operation : Operation) table column type nullable target,
        operation.change = .addColumn table column type nullable →
        m.resolve type = some target →
        operation.rendered m = { lines := [", ".intercalate
          ([s!"add_column {rubySymbol table}", rubySymbol column, rubySymbol target.name.text] ++
            (lineOptions target.shownOptions nullable).map fun (slot, digits) =>
              s!"{slot}: {digits}")] } ∧
        ((∀ o ∈ target.options, o.1.IsWord) →
          (((lineOptions target.shownOptions nullable).map (·.1)).Nodup ↔
            (target.options.map (·.1)).Nodup ∧
            (nullable = some false → "null" ∉ target.options.map (·.1.text)))) := by
  obtain ⟨content, hc, hf⟩ := load_eq_ok_iff.1 h
  obtain ⟨d, hd, hm⟩ := ofFile_eq_ok_iff.1 hf
  obtain ⟨entries, types, -, ht, -⟩ := mapping_eq_ok_iff.1 hm
  have hrules (entry) (he : entry ∈ m.rules) : (entry ∈ standard.rules ∧ entry.2.Proper) ∨
      ∃ source ∈ types, Defines d source entry :=
    (mem_mapping ht hm he).imp_left fun he => ⟨he, proper_standard entry he⟩
  refine ⟨content, d, entries, types, hc, hd, ht, hrules, ?_, ?_, ?_, ?_⟩
  · intro hsound entry he
    rcases hrules entry he with ⟨-, hp⟩ | ⟨source, hs, hdef⟩
    · exact hp
    · exact hdef.proper (hsound source hs).1 (hsound source hs).2
  · intro name v target options hl
    exact ⟨fun spelling hs => hl.rule_text hs, fun text hs hx => hl.rule_other hs hx⟩
  · obtain ⟨rules, rfl⟩ := exists_ofRules hm
    exact nodup_options_iff rules
  · intro operation table column type nullable target hadd hr
    refine ⟨?_, TargetType.nodup_lineOptions_iff⟩
    rw [Operation.rendered_addColumn hadd, hr, ← columnLine_eq]

def limitedMap : Workspace :=
  mapWorkspace "types:\n  BIT:\n    type: string\n    slots: [limit]\n"

def bitColumn (params : List Int) : Operation :=
  ⟨⟨1, "ALTER TABLE t ADD COLUMN c bit", Nat.one_pos⟩,
    .addColumn "t" "c" ⟨"bit", params⟩ (some false)⟩

theorem limitedMap_options : ∃ m, ((load mapPath).run.run limitedMap).1 = .ok m ∧
    (∀ base params target, m.target? base params = some target →
      (target.options.map (·.1)).Nodup) ∧
    (bitColumn [8]).rendered m =
      { lines := ["add_column :t, :c, :string, limit: 8, null: false"] } := by
  have h : ((load mapPath).run.run limitedMap).1 =
      .ok (standard.merged [("bit", ⟨"string", ["limit"]⟩)]) := by decide +kernel
  obtain ⟨-, -, -, -, -, -, -, -, -, -, hn, hl⟩ := load_rules h
  refine ⟨_, h, hn.2 (by decide +kernel), ?_⟩
  have hr : (standard.merged [("bit", ⟨"string", ["limit"]⟩)]).resolve ⟨"bit", [8]⟩ =
      some ⟨"string", [("limit", 8)]⟩ := by decide +kernel
  rw [(hl (bitColumn [8]) _ _ _ _ _ rfl hr).1]
  decide +kernel

/-- A type map with a rule that is the empty text and one that lists an option twice. -/
def carelessMap : Workspace :=
  mapWorkspace "types:\n  citext: ''\n  bit:\n    type: string\n    slots: [limit, limit]\n"

/-- The second parameter takes the place of the first one. -/
theorem carelessMap_overrides : ∃ m, ((load mapPath).run.run carelessMap).1 = .ok m ∧
    m.get? "citext" = some ⟨"", []⟩ ∧
    m.resolve ⟨"bit", [3, 5]⟩ = some ⟨"string", [("limit", 3), ("limit", 5)]⟩ ∧
    ¬ ([("limit", 3), ("limit", 5)].map (·.1) : List Spelling).Nodup ∧
    (bitColumn [3, 5]).rendered m =
      { lines := ["add_column :t, :c, :string, limit: 3, limit: 5, null: false"] } := by
  refine ⟨standard.merged [("citext", ⟨"", []⟩), ("bit", ⟨"string", ["limit", "limit"]⟩)], ?_⟩
  decide +kernel

end TypeMapping

end SchemaPlan
