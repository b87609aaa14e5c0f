import SchemaPlan.Proofs.Pipeline
import SchemaPlan.Proofs.TypeMapping.Reading

namespace SchemaPlan.TypeMapping

open Session
open Failure (typeMapConcern)
open Yaml (Document Value)
open Definition

/-- How an entry of the table cuts the loading off: its name or its target has no text, or a field
of its rule has a name that is no text. -/
inductive Halts (d : Document) (entry : Value × Value) : Fault → Prop
  | name (hn : d.text entry.1 = .error cause) : Halts d entry (.document cause)
  | fields (hn : d.text entry.1 = .ok name) (hv : d.entries? entry.2 = some fields)
    (hf : ∃ field ∈ fields, field.1.text? = none) : Halts d entry (.unnamedFields name)
  | target (hn : d.text entry.1 = .ok name) (hv : d.entries? entry.2 = some fields)
    (hf : ∀ field ∈ fields, isRuleField field.1 = true)
    (ht : Value.lookupKey (.text "type") fields = some target) (he : d.isEmpty target = false)
    (hs : slots d name fields = .ok options) (hx : d.text target = .error cause) :
    Halts d entry (.document cause)

/-- The failures that say what is wrong with a type map. -/
inductive Told (path : Path) : Failure → Prop
  | unreadable (fault : FileTree.Fault) : Told path (.typeMapUnreadable path.text fault)
  | rejected (h : typeMapConcern fault = .migration) : Told path (.typeMap path.text fault)

/-- What cuts the loading of a type map off: a path that no file can have, a document that cannot be
decoded or has a value that cannot be built, and the first entry that cannot be read if there is no
word for its fault. -/
inductive Cut (path : Path) (w : Workspace) : Failure → Prop
  | path (hc : w.tree.read w.directory path = .error .nulCharacter) :
    Cut path w (.file path.text .nulCharacter)
  | document (hc : w.tree.read w.directory path = .ok content)
    (hd : Document.read (.ofBytes content) = .error cause) (hm : cause ≠ .malformed) :
    Cut path w (.typeMap path.text (.document cause))
  | entry (hc : w.tree.read w.directory path = .ok content)
    (hd : Document.read (.ofBytes content) = .ok d)
    (ht : Tables d entries (before ++ entry :: after))
    (hb : ∀ earlier ∈ before, ∃ rule, namedRule d earlier = .ok rule)
    (hh : Halts d entry fault) : Cut path w (.typeMap path.text fault)

variable {d : Document} {entry : Value × Value} {fault : Fault} {path : Path} {w : Workspace}
  {failure : Failure}

theorem typeMapConcern_document {cause : Yaml.Fault} :
    typeMapConcern (.document cause) = .migration ↔ cause = .malformed := by
  cases cause with
  | malformed => exact iff_of_true rfl rfl
  | _ => exact iff_of_false nofun nofun

theorem concern_of_text_error {cause : Yaml.Fault} (h : d.text v = .error cause) :
    typeMapConcern (.document cause) ≠ .migration := by
  rw [Ne, typeMapConcern_document]
  rcases Document.text_error h with rfl | rfl
  · nofun
  · nofun

theorem halts_iff : Halts d entry fault ↔
    namedRule d entry = .error fault ∧ typeMapConcern fault ≠ .migration := by
  rw [namedRule_eq_error_iff]
  constructor
  · intro h
    cases h with
    | name hn => exact ⟨.inl ⟨_, hn, rfl⟩, concern_of_text_error hn⟩
    | @fields name _ hn hv hf =>
      have hr : rule d name entry.2 = .error (.unnamedFields name) :=
        rule_eq_iff.2 (.badFields hv (checkFields_eq_unnamed_iff.2 hf))
      exact ⟨.inr ⟨_, hn, hr⟩, nofun⟩
    | target hn hv hf ht he hs hx =>
      have hr := rule_eq_iff.2 (.noText hv (checkFields_eq_ok_iff.2 hf) ht he hs
        (spellingOf_eq_error_iff.2 ⟨_, hx, rfl⟩))
      exact ⟨.inr ⟨_, hn, hr⟩, concern_of_text_error hx⟩
  · rintro ⟨⟨cause, hn, rfl⟩ | ⟨name, hn, hr⟩, hc⟩
    · exact .name hn
    · cases rule_eq_iff.1 hr with
      | badRule => exact absurd rfl hc
      | badFields hv hf =>
        rcases checkFields_error hf with rfl | ⟨names, rfl⟩
        · exact .fields hn hv (checkFields_eq_unnamed_iff.1 hf)
        · exact absurd rfl hc
      | noTarget => exact absurd rfl hc
      | badSlots _ _ _ _ hs =>
        rw [slots_error hs] at hc
        exact absurd rfl hc
      | noText hv hf ht he hs hx =>
        obtain ⟨cause, hcause, rfl⟩ := spellingOf_eq_error_iff.1 hx
        exact .target hn hv (checkFields_eq_ok_iff.1 hf) ht he hs hcause

theorem not_told (h : Cut path w failure) : ¬ Told path failure := by
  intro ht
  cases h with
  | path => cases ht
  | document hc hd hm =>
    cases ht with
    | rejected hk => exact hm (typeMapConcern_document.1 hk)
  | entry hc hd ht' hb hh =>
    cases ht with
    | rejected hk => exact (halts_iff.1 hh).2 hk

theorem cut_iff (base : TypeMapping) : Cut path w failure ↔
    ((load path base).run.run w).1 = .error failure ∧ ¬ Told path failure := by
  rw [load, run_get_bind]
  constructor
  · intro h
    refine ⟨?_, not_told h⟩
    cases h with
    | path hc =>
      rw [hc]
      rfl
    | document hc hd hm =>
      rw [hc]
      dsimp only
      rw [ofFile_eq_error_iff.2 (.inl ⟨_, hd, rfl⟩)]
      rfl
    | entry hc hd ht hb hh =>
      rw [hc]
      dsimp only
      rw [ofFile_eq_error_iff.2 (.inr ⟨_, hd, mapping_eq_error_iff.2
        (.inr ⟨_, _, _, _, ht, hb, (halts_iff.1 hh).1⟩)⟩)]
      rfl
  · rintro ⟨he, hn⟩
    split at he
    · next hc =>
      cases he
      exact .path hc
    · cases he
      exact absurd (.unreadable _) hn
    · next content hc =>
      split at he
      · cases he
      · next fault hf =>
        cases he
        rcases ofFile_eq_error_iff.1 hf with ⟨cause, hd, rfl⟩ | ⟨d, hd, hm⟩
        · exact .document hc hd fun h => hn (.rejected (typeMapConcern_document.2 h))
        · rcases mapping_eq_error_iff.1 hm with ⟨rfl, -⟩ | ⟨_, _, _, _, ht, hb, he⟩
          · exact absurd (.rejected rfl) hn
          · exact .entry hc hd ht hb (halts_iff.2 ⟨he, fun hk => hn (.rejected hk)⟩)

theorem load_eq_ok_iff {base m : TypeMapping} : ((load path base).run.run w).1 = .ok m ↔
    ∃ content, w.tree.read w.directory path = .ok content ∧ ofFile base content = .ok m := by
  rw [load, run_get_bind]
  cases hc : w.tree.read w.directory path with
  | error fault =>
    refine iff_of_false ?_ ?_
    · intro h
      cases fault <;> cases h
    · rintro ⟨_, h, -⟩
      cases h
  | ok content =>
    dsimp only
    constructor
    · intro h
      split at h
      · next hf =>
        cases h
        exact ⟨content, rfl, hf⟩
      · cases h
    · rintro ⟨_, ⟨⟩, hf⟩
      rw [hf]
      rfl

/-- Loading only looks at the workspace. It gives a mapping, tells what is wrong with the type map,
or is cut off; if there is something to cut it off, it ends with that and tells nothing. -/
theorem load_ends (path : Path) (base : TypeMapping) (w : Workspace) :
    ∃ result, (load path base).run.run w = (result, w) ∧
      (∀ failure, result = .error failure → Told path failure ∨ Cut path w failure) ∧
      ∀ failure, Cut path w failure → result = .error failure ∧ ¬ Told path failure := by
  refine ⟨_, Prod.ext rfl (keeps_load path base w), fun failure he => ?_, fun failure h => ?_⟩
  · by_cases ht : Told path failure
    · exact .inl ht
    · exact .inr ((cut_iff base).2 ⟨he, ht⟩)
  · exact (cut_iff base).1 h

def mapWorkspace (content : String) : Workspace :=
  { emptyWorkspace with tree := { entries := [(["types.yaml"], .file content.toUTF8.toList)] } }

def mapPath : Path := .ofString "types.yaml"

/-- The unknown field of a rule is told if its name is a text. -/
theorem namedField_told : ∃ result,
    (load mapPath).run.run (mapWorkspace "types:\n  bit:\n    x: y\n") =
      (result, mapWorkspace "types:\n  bit:\n    x: y\n") ∧
    result = .error (.typeMap "types.yaml" (.unknownFields "bit" ["x"])) ∧
    ∀ failure, ¬ Cut mapPath (mapWorkspace "types:\n  bit:\n    x: y\n") failure := by
  obtain ⟨result, hr, -, hcut⟩ :=
    load_ends mapPath standard (mapWorkspace "types:\n  bit:\n    x: y\n")
  have he : ((load mapPath).run.run (mapWorkspace "types:\n  bit:\n    x: y\n")).1 =
      .error (.typeMap "types.yaml" (.unknownFields "bit" ["x"])) := by decide +kernel
  rw [hr] at he
  refine ⟨result, hr, he, fun failure h => ?_⟩
  obtain ⟨hf, hn⟩ := hcut failure h
  cases he.symm.trans hf
  exact hn (.rejected rfl)

/-- The unknown field of a rule cuts the loading off if its name is no text. -/
theorem numberedField_cut :
    ((load mapPath).run.run (mapWorkspace "types:\n  bit:\n    1: y\n")).1 =
      .error (.typeMap "types.yaml" (.unnamedFields "bit")) ∧
    ¬ Told mapPath (.typeMap "types.yaml" (.unnamedFields "bit")) := by
  refine ⟨by decide +kernel, fun h => ?_⟩
  cases h with
  | rejected hk => cases hk

end SchemaPlan.TypeMapping
