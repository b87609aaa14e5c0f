import SchemaPlan.Migration.Step
import SchemaPlan.Proofs.Ruby.Quoting

namespace SchemaPlan

namespace Ruby
open Text

/-- The symbol literals of a name: the bare one, and the one between marks, with all that has a
meaning there escaped, which is read back up to the last character. -/
inductive SymbolOf (name : List Char) : List Char → Prop
  | bare (h : IsBareName name) : SymbolOf name (':' :: name)
  | quoted (he : body = name.flatMap (escape symbolEscapes))
    (hr : unquote? symbolEscapes '"' (body ++ ['"']) = some (name, [])) :
    SymbolOf name (':' :: '"' :: (body ++ ['"']))

theorem symbol_of_isBareLine (h : IsBareLine name) : symbol name = ':' :: name :=
  if_pos (isBareSymbol_iff.2 (.inr h))

theorem symbolOf_symbol_iff (name : List Char) :
    SymbolOf name (symbol name) ↔ ¬ IsBareLine name := by
  constructor
  · intro h hl
    rw [symbol_of_isBareLine hl] at h
    obtain ⟨_, hb, hn⟩ := hl
    generalize ht : ':' :: name = text at h
    cases h with
    | bare hname =>
      have hw := hname.isWordChar '\n' (by simp [hn])
      exact absurd hw (by decide)
    | quoted =>
      obtain ⟨c, rest, rfl, hc, -⟩ := hb
      rw [hn, List.cons_append] at ht
      obtain rfl := (List.cons.inj (List.cons.inj ht).2).1
      exact absurd hc (by decide)
  · intro hl
    by_cases hb : isBareSymbol name = true
    · rw [symbol, if_pos hb]
      exact .bare ((isBareSymbol_iff.1 hb).resolve_right hl)
    · rw [symbol, if_neg hb, escapeSymbol_eq]
      exact .quoted rfl (unquote?_flatMap (by decide) (by decide) (by decide) name [])

theorem unquote?_append (h : unquote? escaped mark s = some (text, rest)) (t : List Char) :
    unquote? escaped mark (s ++ t) = some (text, rest ++ t) := by
  fun_induction unquote? escaped mark s generalizing text with
  | case1 => cases h
  | case2 =>
    cases h
    exact unquote?_mark t
  | case3 => cases h
  | case4 d s =>
    cases h
    exact unquote?_mark (d :: s ++ t)
  | case5 c d s hc he ih =>
    obtain ⟨⟨text, _⟩, hr, heq⟩ := Option.map_eq_some_iff.1 h
    cases heq
    rw [List.cons_append, List.cons_append, unquote?, if_neg hc, if_pos he, ih hr]
    rfl
  | case6 c d s hc he ih =>
    obtain ⟨⟨text, _⟩, hr, heq⟩ := Option.map_eq_some_iff.1 h
    cases heq
    rw [List.cons_append, List.cons_append, unquote?, if_neg hc, if_neg he, ← List.cons_append,
      ih hr]
    rfl

theorem readLiteral?_append (h : readLiteral? s = some (text, rest)) (t : List Char) :
    readLiteral? (s ++ t) = some (text, rest ++ t) := by
  unfold readLiteral? at h
  split at h
  · exact unquote?_append h t
  · cases h

theorem eq_literal_of_prefix (hp : s <+: literal value) (h : readLiteral? s = some (text, rest)) :
    s = literal value := by
  obtain ⟨t, ht⟩ := hp
  have hw := readLiteral?_literal value []
  rw [List.append_nil, ← ht, readLiteral?_append h t, Option.some.injEq, Prod.mk.injEq] at hw
  rw [← ht, (List.append_eq_nil_iff.1 hw.2).2, List.append_nil]

end Ruby

open Ruby Text

/-- A symbol is one of its name, to be read back, unless the name is a bare one with a line feed
behind it. Then it is the symbol of the bare name, with the line feed behind it. -/
theorem rubySymbol_readsBack (name : String) :
    (SymbolOf name.toList (rubySymbol name).toList ↔ ¬ IsBareLine name.toList) ∧
      ∀ bare, IsBareName bare → name.toList = bare ++ ['\n'] →
        (rubySymbol name).toList = ':' :: bare ++ ['\n'] ∧
          readSymbol? (rubySymbol name).toList = some (bare, ['\n']) := by
  rw [rubySymbol, String.toList_ofList]
  refine ⟨symbolOf_symbol_iff _, fun bare hb hn => ?_⟩
  have hs : symbol bare = ':' :: bare := if_pos (isBareSymbol_iff.2 (.inl hb))
  have hl : symbol name.toList = symbol bare ++ ['\n'] := by
    rw [symbol_of_isBareLine ⟨bare, hb, hn⟩, hn, hs]
    rfl
  rw [hl]
  refine ⟨by rw [hs], readSymbol?_symbol (not_isBareLine (oneLine_of_word hb.isWordChar)) ?_⟩
  exact stops_cons_iff.2 (by decide)

/-- A name that holds a mark, an interpolation and a line feed, and ends with a backslash. -/
def hostileName : String := "a\"#\x7bb\x7d\n\\"

theorem hostileName_readsBack :
    rubySymbol hostileName = ":\"a\\\"\\#\x7bb\x7d\n\\\\\"" ∧
      SymbolOf hostileName.toList (rubySymbol hostileName).toList := by
  have hn : ¬ isBareSymbol hostileName.toList = true := by decide +kernel
  exact ⟨by decide +kernel,
    (rubySymbol_readsBack hostileName).1.2 fun hl => hn (isBareSymbol_iff.2 (.inr hl))⟩

def brokenName : String := "users\n"

theorem brokenName_symbol : rubySymbol brokenName = ":users\n" ∧
    ¬ SymbolOf brokenName.toList (rubySymbol brokenName).toList := by
  have hw : "sers".toList.all isWordChar = true := by decide
  have hl : IsBareLine brokenName.toList :=
    ⟨"users".toList, ⟨'u', "sers".toList, rfl, by decide, List.all_eq_true.1 hw⟩, by decide +kernel⟩
  refine ⟨by decide +kernel, ?_⟩
  rw [rubySymbol, String.toList_ofList, symbolOf_symbol_iff, not_not]
  exact hl

/-- A literal is read back whatever follows it, so different values have different literals, and no
value ends its literal before the last character. -/
theorem rubyLiteral_readsBack (value : String) :
    (∀ rest, readLiteral? ((rubyLiteral value).toList ++ rest) = some (value.toList, rest)) ∧
    (∀ other, rubyLiteral other = rubyLiteral value → other = value) ∧
    ∀ text, text <+: (rubyLiteral value).toList → (readLiteral? text).isSome →
      text = (rubyLiteral value).toList := by
  simp only [rubyLiteral, String.toList_ofList]
  refine ⟨readLiteral?_literal _, fun other h => ?_, fun text hp hs => ?_⟩
  · have hl : literal other.toList ++ [] = literal value.toList ++ [] := by
      rw [String.ofList_injective h]
    exact String.toList_injective (literal_append_inj hl).1
  · obtain ⟨⟨v, r⟩, hr⟩ := Option.isSome_iff_exists.1 hs
    exact eq_literal_of_prefix hp hr

/-- A value with quotation marks and backslashes in all orders. -/
def hostileValue : String := "'\\' or \\\\''\\"

theorem hostileValue_readsBack :
    rubyLiteral hostileValue = "'\\'\\\\\\' or \\\\\\\\\\'\\'\\\\'" ∧
      readLiteral? ((rubyLiteral hostileValue).toList ++ ", unique: true".toList) =
        some (hostileValue.toList, ", unique: true".toList) :=
  ⟨by decide +kernel, (rubyLiteral_readsBack hostileValue).1 _⟩

end SchemaPlan
