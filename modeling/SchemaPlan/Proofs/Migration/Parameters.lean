import SchemaPlan.Proofs.Migration.Column

namespace SchemaPlan
open Grammar Numeral Text

/-- The text is a numeral in ASCII that denotes the number. -/
structure Numeral.Shows (digits : String) (n : Int) : Prop where
  nonempty : digits.toList ≠ []
  ascii : ∀ c ∈ digits.toList, c.isDigit = true
  read : Numeral.read 10 digits.toList = .ok n

theorem Numeral.shows_decimal {n : Nat} (h : Fits n) : Shows (decimal n) n :=
  ⟨(isNumeral_decimal h).1, fun _ => isDigit_of_mem_decimal, read_decimal h⟩

def Grammar.Reading.type? : Reading → Option TypeToken
  | addColumn _ _ _ _ _ _ type _ _ => some type
  | _ => none

theorem Statement.exists_token {statement : Statement}
    (h : statement.classify.value.change = .addColumn table column type nullable) :
    ∃ (r : Reading) (token : TypeToken), r.text = trim statement.text.toList ∧
      r.type? = some token ∧ token.Readable ∧ type = token.spec := by
  rcases statement.classify_value with ⟨r, ht, hr, hv⟩ | ⟨-, hv⟩
  · rw [hv] at h
    cases r with
    | addColumn lead table gap verb column between token clause ending =>
      refine ⟨_, token, ht, rfl, hr, ?_⟩
      injection h with _ _ hs
      exact hs.symm
    | _ => cases h
  · rw [hv] at h
    cases h

theorem Grammar.TypeToken.read_params {token : TypeToken} (h : token.Readable) :
    List.Forall₂ (fun ds n => Numeral.read 10 ds = .ok n) token.params token.spec.params := by
  rw [TypeToken.spec, List.forall₂_map_right_iff, List.forall₂_same]
  intro ds hd
  obtain ⟨hn, hs, hl⟩ := h ds hd
  rw [read_decimals hs hn, if_neg (Nat.not_lt.2 hl)]

namespace TypeMapping

variable {m : TypeMapping} {base : Spelling} {params : List Int}

theorem target?_of_rule (hg : m.get? base = some rule) (hl : params.length ≤ rule.slots.length) :
    m.target? base params = some ⟨rule.target, rule.slots.zip params⟩ := by
  simp only [target?, hg]
  exact if_neg (Nat.not_lt.2 hl)

theorem target?_itself (hg : m.get? base = none) (hp : params = []) :
    m.target? base params = some ⟨base, []⟩ := by
  simp only [target?, hg]
  exact if_pos (by rw [hp]; rfl)

theorem target?_eq_none (hr : ∀ rule, m.get? base = some rule → rule.slots.length < params.length)
    (hp : m.get? base = none → params ≠ []) : m.target? base params = none := by
  rw [target?]
  split
  · next hg => exact if_neg fun h => hp hg (List.isEmpty_iff.1 h)
  · next rule hg => exact if_pos (hr rule hg)

end TypeMapping

theorem map_fst_zip_eq_take (names : List α) (values : List β) :
    (names.zip values).map (·.1) = names.take values.length := by
  induction names generalizing values with
  | nil => simp
  | cons name names ih =>
    cases values with
    | nil => rfl
    | cons value values => rw [List.zip_cons_cons, List.map_cons, ih, List.length_cons,
        List.take_succ_cons]

theorem TargetType.slots_shownOptions (name : Spelling) (slots : List Spelling)
    (params : List Int) :
    (shownOptions ⟨name, slots.zip params⟩).map (·.1) =
      (slots.take params.length).map (·.text) := by
  rw [shownOptions, List.map_map, ← map_fst_zip_eq_take, List.map_map]
  rfl

theorem TargetType.digits_shownOptions (name : Spelling) {slots : List Spelling}
    {params : List Int} (hl : params.length ≤ slots.length)
    (hp : ∀ n ∈ params, Shows (decimal n) n) :
    List.Forall₂ (fun option n => Shows option.2 n) (shownOptions ⟨name, slots.zip params⟩)
      params := by
  rw [shownOptions, List.forall₂_map_left_iff]
  induction slots generalizing params with
  | nil =>
    obtain rfl := List.eq_nil_of_length_eq_zero (Nat.le_zero.1 hl)
    exact .nil
  | cons slot slots ih =>
    cases params with
    | nil => exact .nil
    | cons n params =>
      obtain ⟨hn, hp⟩ := List.forall_mem_cons.1 hp
      exact .cons hn (ih (Nat.le_of_succ_le_succ hl) hp)

/-- The parameters of a new column are the numerals of its statement. They fill the first slots of
the rule for its type, a type without a rule and without parameters stands for itself, and any other
column is added by its statement. -/
theorem Statement.parameters_kept (mapping : TypeMapping) {statement : Statement}
    (h : statement.classify.value.change = .addColumn table column type nullable) :
    ∃ (r : Reading) (token : TypeToken) (block : Block),
      r.text = trim statement.text.toList ∧ r.type? = some token ∧
      type.base.toList = token.name.text ∧
      List.Forall₂ (fun ds n => Numeral.read 10 ds = .ok n) token.params type.params ∧
      (statement.classify.value.block mapping).run.value = .ok block ∧
      (∀ rule, mapping.get? type.base = some rule → type.params.length ≤ rule.slots.length →
        ∃ options : List (String × String),
          options.map (·.1) = (rule.slots.take type.params.length).map (·.text) ∧
          List.Forall₂ (fun option n => Shows option.2 n) options type.params ∧
          block = { lines := [columnLine table column rule.target.text options nullable] }) ∧
      (mapping.get? type.base = none → type.params = [] →
        block = { lines := [columnLine table column type.base [] nullable] }) ∧
      ((∀ rule, mapping.get? type.base = some rule →
          rule.slots.length < type.params.length) →
        (mapping.get? type.base = none → type.params ≠ []) → block.Holds statement.text) := by
  obtain ⟨r, token, ht, hy, hr, rfl⟩ := statement.exists_token h
  have hs : ∀ n ∈ token.spec.params, Shows (decimal n) n := by
    intro n hn
    obtain ⟨ds, hd, rfl⟩ := List.mem_map.1 hn
    exact shows_decimal (fits_decimalValue (hr ds hd))
  refine ⟨r, token, _, ht, hy, by rw [TypeToken.spec, String.toList_ofList],
    token.read_params hr, statement.block_value mapping, ?_, ?_, ?_⟩
  · intro rule hg hl
    have hm : mapping.resolve token.spec = some ⟨rule.target, rule.slots.zip token.spec.params⟩ :=
      TypeMapping.target?_of_rule hg hl
    rw [Operation.rendered_addColumn h, hm]
    exact ⟨_, TargetType.slots_shownOptions rule.target rule.slots _,
      TargetType.digits_shownOptions rule.target hl hs, rfl⟩
  · intro hg hp
    have hm : mapping.resolve token.spec = some ⟨token.spec.base, []⟩ :=
      TypeMapping.target?_itself hg hp
    rw [Operation.rendered_addColumn h, hm]
    dsimp only
    rw [Spelling.text_ofString]
    rfl
  · intro hg hp
    have hm : mapping.resolve token.spec = none := TypeMapping.target?_eq_none hg hp
    rw [Operation.rendered_addColumn h, hm]
    rw [statement.statement_classify]
    exact statement.holds_verbatimBlock

/-- A column with leading zeros, digits of another script and blanks in its type. -/
def paddedColumn : Statement :=
  ⟨1, "alter table t add column c Numeric ( ٠٠١٠ ,\t2 ) not null", Nat.one_pos⟩

/-- A mapping with one option more than the column has parameters. -/
def signedMapping : TypeMapping :=
  .ofRules [("NUMERIC", ⟨"decimal", ["precision", "scale", "sign"]⟩)]

theorem paddedColumn_parameters : ∃ (token : TypeToken) (options : List (String × String)),
    token.name.text = "Numeric".toList ∧
    List.Forall₂ (fun ds n => Numeral.read 10 ds = .ok n) token.params [10, 2] ∧
    options.map (·.1) = ["precision", "scale"] ∧
    List.Forall₂ (fun option n => Shows option.2 n) options [10, 2] ∧
    (paddedColumn.classify.value.block signedMapping).run.value =
      .ok { lines := [columnLine "t" "c" "decimal" options (some false)] } := by
  have hc : paddedColumn.classify.value.change =
      .addColumn "t" "c" ⟨"Numeric", [10, 2]⟩ (some false) := by decide +kernel
  obtain ⟨-, token, block, -, -, hn, hp, hb, hr, -, -⟩ :=
    paddedColumn.parameters_kept signedMapping hc
  obtain ⟨options, ho, hs, rfl⟩ := hr _ rfl (by decide)
  exact ⟨token, options, hn.symm, hp, ho, hs, hb⟩

end SchemaPlan
