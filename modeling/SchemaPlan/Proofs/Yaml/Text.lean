import Mathlib
import SchemaPlan.Yaml.Value.Build
import SchemaPlan.Yaml.Value.Text

namespace SchemaPlan

theorem bind_eq_ok_iff {x : Except ε α} {f : α → Except ε β} :
    x >>= f = .ok b ↔ ∃ a, x = .ok a ∧ f a = .ok b := by
  cases x with
  | error e =>
    refine iff_of_false nofun ?_
    rintro ⟨_, h, -⟩
    cases h
  | ok a =>
    constructor
    · exact fun h => ⟨a, rfl, h⟩
    · rintro ⟨_, ⟨⟩, h⟩
      exact h

theorem bind_eq_error_iff {x : Except ε α} {f : α → Except ε β} :
    x >>= f = .error e ↔ x = .error e ∨ ∃ a, x = .ok a ∧ f a = .error e := by
  cases x with
  | error e' =>
    constructor
    · rintro ⟨⟩
      exact .inl rfl
    · rintro (⟨⟨⟩⟩ | ⟨_, h, -⟩)
      · rfl
      · cases h
  | ok a =>
    constructor
    · exact fun h => .inr ⟨a, rfl, h⟩
    · rintro (h | ⟨_, ⟨⟩, h⟩)
      · cases h
      · exact h

theorem exists_of_mem_mapM {f : α → Except ε β} {as : List α} (h : as.mapM f = .ok bs)
    (hb : b ∈ bs) : ∃ a ∈ as, f a = .ok b := by
  induction as generalizing bs with
  | nil =>
    cases h
    cases hb
  | cons a as ih =>
    rw [List.mapM_cons] at h
    obtain ⟨first, hf, h⟩ := bind_eq_ok_iff.1 h
    obtain ⟨rest, hr, ⟨⟩⟩ := bind_eq_ok_iff.1 h
    rcases List.mem_cons.1 hb with rfl | hb
    · exact ⟨a, List.mem_cons_self, hf⟩
    · obtain ⟨a', ha, h⟩ := ih hr hb
      exact ⟨a', List.mem_cons_of_mem _ ha, h⟩

theorem mapM_eq_error_iff {f : α → Except ε β} {as : List α} :
    as.mapM f = .error e ↔ ∃ before a after, as = before ++ a :: after ∧
      (∀ b ∈ before, ∃ c, f b = .ok c) ∧ f a = .error e := by
  induction as with
  | nil => exact iff_of_false nofun fun ⟨before, a, after, h, _⟩ => by simp at h
  | cons first as ih =>
    rw [List.mapM_cons, bind_eq_error_iff]
    constructor
    · rintro (h | ⟨b, hb, h⟩)
      · exact ⟨[], first, as, rfl, nofun, h⟩
      · obtain ⟨before, a, after, rfl, hbefore, ha⟩ :=
          ih.1 ((bind_eq_error_iff.1 h).resolve_right fun ⟨_, _, h⟩ => by cases h)
        exact ⟨first :: before, a, after, rfl, List.forall_mem_cons.2 ⟨⟨b, hb⟩, hbefore⟩, ha⟩
    · rintro ⟨before, a, after, h, hbefore, ha⟩
      cases before with
      | nil =>
        obtain ⟨rfl, rfl⟩ := List.cons.inj h
        exact .inl ha
      | cons b before =>
        obtain ⟨rfl, rfl⟩ := List.cons.inj h
        obtain ⟨⟨c, hc⟩, hbefore⟩ := List.forall_mem_cons.1 hbefore
        exact .inr ⟨c, hc, bind_eq_error_iff.2 (.inl (ih.2 ⟨before, a, after, rfl, hbefore, ha⟩))⟩

theorem mapM_eq_none_iff {f : α → Option β} {as : List α} :
    as.mapM f = none ↔ ∃ a ∈ as, f a = none := by
  induction as with
  | nil => exact iff_of_false nofun nofun
  | cons a as ih =>
    rw [List.mapM_cons, List.exists_mem_cons_iff, ← ih]
    cases f a with
    | none => exact iff_of_true rfl (.inl rfl)
    | some b => cases as.mapM f <;> simp

theorem Binary64.text_ne_nil (x : Binary64) : x.text ≠ [] := by
  have hfinite (m : Nat) (e : Int) : finiteText m e ≠ [] := by
    rw [finiteText]
    split
    · exact List.cons_ne_nil _ _
    · dsimp only
      split
      · split <;> simp
      · simp
  match x with
  | .nan => exact List.cons_ne_nil _ _
  | .infinite false => exact List.cons_ne_nil _ _
  | .infinite true => exact List.cons_ne_nil _ _
  | .finite false m e => exact hfinite m e
  | .finite true m e => exact List.cons_ne_nil _ _

theorem ofList_ne_empty {s : List Char} (h : s ≠ []) : String.ofList s ≠ "" := by
  simpa using h

theorem append_ne_empty {s t : String} (h : s ≠ "") : s ++ t ≠ "" := by
  simp [h]

namespace Yaml

theorem Letter.written_eq_nil_iff {letters : List Letter} :
    written letters = [] ↔ letters = [] := by
  rw [written.eq_def]
  split
  · split <;> simp
  · simp
  · simp

namespace Document

/-- A result is good, or a value has no text: a number in it is too long, or it goes too deep. -/
def Shows (good : α → Prop) : Except Fault α → Prop
  | .ok a => good a
  | .error fault => fault = .nestedTooDeep ∨ fault = .numeral .tooLongToWrite

theorem Shows.bind {x : Except Fault α} {f : α → Except Fault β} (hx : Shows good x)
    (hf : ∀ a, good a → Shows good' (f a)) : Shows good' (x >>= f) := by
  cases x with
  | error fault => exact hx
  | ok a => exact hf a hx

theorem Shows.mapM {f : α → Except Fault β} (hf : ∀ a, Shows good (f a)) (as : List α) :
    Shows (fun _ => True) (as.mapM f) := by
  induction as with
  | nil => trivial
  | cons a as ih =>
    rw [List.mapM_cons]
    exact (hf a).bind fun _ _ => ih.bind fun _ _ => trivial

theorem Shows.ite {c : Prop} [Decidable c] {x y : Except Fault α} (hx : Shows good x)
    (hy : Shows good y) : Shows good (if c then x else y) := by
  split
  · exact hx
  · exact hy

theorem bracketed_ne_empty {left : String} (h : left ≠ "") (right : String)
    (parts : List String) : bracketed left right parts ≠ "" :=
  append_ne_empty (append_ne_empty h)

theorem shows_whole (n : Int) : Shows (· ≠ "") ((Numeral.write n).mapError .numeral) := by
  rw [Numeral.write]
  split
  · exact .inr rfl
  · refine ofList_ne_empty ?_
    split
    · exact List.cons_ne_nil _ _
    · exact Nat.toDigits_ne_nil

theorem shows_plain (d : Document) (depth : Nat) (outer : List Nat) (hv : v.isKey = true) :
    Shows (· ≠ "") (d.shown depth outer v) := by
  cases v with
  | container id => cases hv
  | whole n =>
    rw [shown]
    exact shows_whole n
  | null =>
    rw [shown]
    exact (by decide : "None" ≠ "")
  | boolean b =>
    rw [shown]
    change (if b then "True" else "False") ≠ ""
    split <;> decide
  | float x =>
    rw [shown]
    exact ofList_ne_empty x.text_ne_nil
  | undefined node =>
    rw [shown]
    exact ofList_ne_empty Binary64.nan.text_ne_nil
  | text | broken | bytes =>
    rw [shown]
    exact ofList_ne_empty (List.cons_ne_nil _ _)
  | date date =>
    rw [shown]
    simp [Shows]
  | time t =>
    rw [shown]
    exact append_ne_empty (append_ne_empty (by decide))

theorem shows_shown (d : Document) (depth : Nat) (outer : List Nat) (v : Value) :
    Shows (· ≠ "") (d.shown depth outer v) := by
  induction depth generalizing outer v with
  | zero =>
    cases v with
    | container id => exact .inl rfl
    | _ => exact shows_plain d 0 outer rfl
  | succ depth ih =>
    cases v with
    | container id =>
      have part : ∀ v, Shows (· ≠ "") (d.shown depth (id :: outer) v) := ih (id :: outer)
      have two {f : String → String → String} (entry : Value × Value) : Shows (fun _ => True) (do
          return f (← d.shown depth (id :: outer) entry.1)
            (← d.shown depth (id :: outer) entry.2)) :=
        (part _).bind fun _ _ => (part _).bind fun _ _ => trivial
      have list (parts : List String) : bracketed "[" "]" parts ≠ "" :=
        bracketed_ne_empty (by decide) _ _
      have set (parts : List String) : bracketed leftBrace rightBrace parts ≠ "" :=
        bracketed_ne_empty (by decide) _ _
      rw [shown]
      dsimp only
      split
      · exact (by decide : "None" ≠ "")
      · exact .ite (by decide : "[...]" ≠ "") (.bind (.mapM part _) fun parts _ => list parts)
      · exact .ite (set _) (.bind (.mapM two _) fun parts _ => set parts)
      · exact .ite (by decide : "set()" ≠ "") (.bind (.mapM part _) fun parts _ => set parts)
      · exact .ite (by decide : "[...]" ≠ "") (.bind (.mapM two _) fun parts _ => list parts)
    | _ => exact shows_plain d (depth + 1) outer rfl

theorem shows_text (hv : v.text? = none) (d : Document) : Shows (· ≠ "") (d.text v) := by
  cases v with
  | text | broken => cases hv
  | date date =>
    change date.text ≠ ""
    simp [Date.text]
  | time t =>
    change t.text ≠ ""
    simp [Timestamp.text]
  | _ => exact shows_shown d maxChain [] _

theorem text_ne_empty {d : Document} (hv : v.text? = none) (h : d.text v = .ok s) : s ≠ "" := by
  have hs := shows_text hv d
  rw [h] at hs
  exact hs

theorem text_error {d : Document} (h : d.text v = .error fault) :
    fault = .nestedTooDeep ∨ fault = .numeral .tooLongToWrite := by
  have hv : v.text? = none := by
    cases v with
    | text | broken => cases h
    | _ => rfl
  have hs := shows_text hv d
  rw [h] at hs
  exact hs

end Document

end Yaml

end SchemaPlan
