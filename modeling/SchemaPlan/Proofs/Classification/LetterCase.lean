import SchemaPlan.Proofs.Classification
import SchemaPlan.Proofs.Grammar.LetterCase
import SchemaPlan.Proofs.Spelling
import SchemaPlan.TypeMapping

namespace SchemaPlan
open Text

def folded (s : String) : String := .ofList (fold s.toList)

theorem lowered_folded (s : String) : lowered (folded s) = lowered s := by
  rw [lowered, folded, String.toList_ofList, lower_fold, lowered]

theorem folded_ofList (s : List Char) : folded (.ofList s) = .ofList (fold s) := by
  rw [folded, String.toList_ofList]

theorem normalizeIdentifier_fold (name : List Char) :
    normalizeIdentifier (fold name) = normalizeIdentifier name := by
  rw [normalizeIdentifier, stripChars_fold Form.isMark_toLower, lower_fold, normalizeIdentifier]

theorem toOption_mapM {as : List α} {f : α → Except ε β} :
    (as.mapM f).toOption = as.mapM fun a => (f a).toOption := by
  induction as with
  | nil => rfl
  | cons a as ih =>
    rw [List.mapM_cons, List.mapM_cons, ← ih]
    cases f a with
    | error e => rfl
    | ok b => cases as.mapM f <;> rfl

namespace TypeSpec

def fold (spec : TypeSpec) : TypeSpec := { spec with base := folded spec.base }

theorem split?_fold (token : List Char) :
    split? (Text.fold token) = (split? token).map (Prod.map Text.fold (Option.map Text.fold)) := by
  have ho (c : Char) : c.toLower = '(' ↔ c = '(' := toLower_eq_iff (by decide) c
  simp only [split?, takeWhile_fold isWordChar_toLower, dropWhile_fold isWordChar_toLower,
    dropWhile_fold isBlank_toLower, isEmpty_fold]
  split
  · rfl
  · cases (token.dropWhile isWordChar).dropWhile isBlank with
    | nil => rfl
    | cons c inner =>
      by_cases hc : c = '('
      · subst hc
        have hl : (Text.fold inner).getLast? = some ')' ↔ inner.getLast? = some ')' := by
          rw [Text.fold, List.getLast?_map]
          cases inner.getLast? with
          | none => simp
          | some d => simp [toLower_eq_iff (d := ')') (by decide) d]
        simp only [fold_cons, (ho '(').2 rfl, hl]
        split
        · simp [Text.fold, List.map_dropLast]
        · rfl
      · simp [hc, ho c]

theorem toOption_readParam (token token' : String) (piece : List Char) :
    (readParam token (Text.fold piece)).toOption = (readParam token' piece).toOption := by
  simp only [readParam, trim_fold, isEmpty_fold, all_fold isDigitChar_toLower]
  split
  · rfl
  · next h =>
    simp only [Bool.or_eq_true, Bool.not_eq_true', not_or, Bool.not_eq_false] at h
    rw [fold_digits h.2]

theorem toOption_parse (token : List Char) :
    (parse (.ofList (Text.fold token))).toOption = (parse (.ofList token)).toOption.map fold := by
  simp only [parse, String.toList_ofList, trim_fold, split?_fold]
  cases split? (trim token) with
  | none => rfl
  | some p =>
    obtain ⟨name, _ | inner⟩ := p
    · simp [fold, folded_ofList, Except.toOption]
    · have hp : (fun piece => (readParam (.ofList (Text.fold token)) (Text.fold piece)).toOption) =
          fun piece => (readParam (.ofList token) piece).toOption :=
        funext fun piece => toOption_readParam _ _ piece
      have hm : ((splitOn ',' (Text.fold inner)).mapM
            (readParam (.ofList (Text.fold token)))).toOption =
          ((splitOn ',' inner).mapM (readParam (.ofList token))).toOption := by
        rw [splitOn_fold (toLower_eq_iff (by decide)), toOption_mapM, toOption_mapM,
          List.mapM_map, ← hp]
        rfl
      simp only [Option.map_some, Prod.map_apply]
      cases hf : (splitOn ',' (Text.fold inner)).mapM (readParam (.ofList (Text.fold token))) <;>
        cases hs : (splitOn ',' inner).mapM (readParam (.ofList token)) <;>
        rw [hf, hs] at hm <;>
        cases hm
      · rfl
      · simp [bind, Except.bind, pure, Except.pure, fold, folded_ofList, Except.toOption]

end TypeSpec

/-- The change with the names that keep their spelling, those of indexes and types, in small
letters. -/
def Change.fold : Change → Change
  | addColumn table column type nullable => .addColumn table column type.fold nullable
  | createIndex name table column unique => .createIndex (folded name) table column unique
  | dropIndex name table => .dropIndex (folded name) table
  | change => change

theorem Form.toOption_change (form : Form) :
    form.fold.change.toOption = form.change.toOption.map Change.fold := by
  cases form with
  | addColumn table column token nullable =>
    have ht := TypeSpec.toOption_parse token
    simp only [fold, change, normalizeIdentifier_fold]
    cases hf : TypeSpec.parse (.ofList (Text.fold token)) <;>
      cases hs : TypeSpec.parse (.ofList token) <;>
      rw [hf, hs] at ht <;>
      cases ht <;>
      rfl
  | dropIndex name table =>
    simp [fold, change, normalizeIdentifier_fold, Except.toOption, Change.fold, folded_ofList,
      Function.comp_def]
  | _ =>
    simp [fold, change, normalizeIdentifier_fold, Except.toOption, Change.fold, folded_ofList]

theorem TypeMapping.resolve_of_fold {mapping : TypeMapping} {type other : TypeSpec}
    (h : type.fold = other.fold) (hm : mapping.contains type.base = true) :
    mapping.resolve type = mapping.resolve other := by
  obtain ⟨hb, hp⟩ := TypeSpec.mk.inj h
  have hl : lowered type.base = lowered other.base := by
    rw [← lowered_folded, hb, lowered_folded]
  have hg : mapping.get? type.base = mapping.get? other.base := by
    rw [get?, get?, Spelling.lower_ofString, Spelling.lower_ofString, hl]
  obtain ⟨rule, hr⟩ := Option.isSome_iff_exists.1 hm
  rw [resolve, resolve, target?, target?, ← hg, hr, hp]

namespace Statement

theorem fold_change (statement : Statement) :
    statement.classify.value.change.fold =
      ((Form.read? (trim (fold statement.text.toList))).bind (·.change.toOption)).getD
        .unclassified := by
  rw [change_classify, trim_fold, Form.read?_fold]
  cases Form.read? (trim statement.text.toList) with
  | none => rfl
  | some form =>
    simp only [Option.map_some, Option.bind_some, Form.toOption_change]
    cases form.change.toOption <;> rfl

/-- Statements that differ in the case of ASCII letters only become the same change, but for the
case of letters in names of indexes and types; and where a type mapping has a rule for the type of a
new column, it takes the column of either statement to the same migration type. -/
theorem change_fold_congr {first second : Statement}
    (h : fold first.text.toList = fold second.text.toList) :
    first.classify.value.change.fold = second.classify.value.change.fold ∧
    ∀ {table column type nullable table' column' type' nullable'},
      first.classify.value.change = .addColumn table column type nullable →
      second.classify.value.change = .addColumn table' column' type' nullable' →
      ∀ mapping : TypeMapping, mapping.contains type.base = true →
        mapping.resolve type = mapping.resolve type' := by
  have hc : first.classify.value.change.fold = second.classify.value.change.fold := by
    rw [fold_change, fold_change, h]
  refine ⟨hc, fun hf hs mapping hm => ?_⟩
  rw [hf, hs] at hc
  exact TypeMapping.resolve_of_fold (Change.addColumn.inj hc).2.2.1 hm

/-- A column whose name ends in a sigma behind a letter. -/
def quietColumn : Statement :=
  ⟨1, "alter table Users add column aΣ varchar(20) not null", Nat.one_pos⟩

def loudColumn : Statement :=
  ⟨1, "ALTER TABLE USERS ADD COLUMN AΣ VarChar(20) NOT NULL", Nat.one_pos⟩

theorem loudColumn_resolve :
    fold quietColumn.text.toList = fold loudColumn.text.toList ∧
    quietColumn.classify.value.change =
      .addColumn "users" "aς" ⟨"varchar", [20]⟩ (some false) ∧
    loudColumn.classify.value.change = .addColumn "users" "aς" ⟨"VarChar", [20]⟩ (some false) ∧
    TypeMapping.standard.contains "varchar" = true ∧
    TypeMapping.standard.resolve ⟨"varchar", [20]⟩ =
      TypeMapping.standard.resolve ⟨"VarChar", [20]⟩ := by
  have h : fold quietColumn.text.toList = fold loudColumn.text.toList := by decide +kernel
  have hq : quietColumn.classify.value.change =
      .addColumn "users" "aς" ⟨"varchar", [20]⟩ (some false) := by decide +kernel
  have hl : loudColumn.classify.value.change =
      .addColumn "users" "aς" ⟨"VarChar", [20]⟩ (some false) := by decide +kernel
  have hm : TypeMapping.standard.contains "varchar" = true := by decide +kernel
  exact ⟨h, hq, hl, hm, (change_fold_congr h).2 hq hl .standard hm⟩

end Statement

end SchemaPlan
