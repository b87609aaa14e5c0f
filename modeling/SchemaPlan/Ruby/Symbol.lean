import SchemaPlan.Ruby.Literal
import SchemaPlan.Text.Word

namespace SchemaPlan.Ruby

def isBareStart (c : Char) : Bool := c.isAlpha || c = '_'

/-- Whether a name needs no quotation marks; one line feed may follow it. -/
def isBareSymbol : List Char → Bool
  | [] => false
  | c :: rest =>
    isBareStart c && (rest.dropWhile Text.isWordChar = [] || rest.dropWhile Text.isWordChar = ['\n'])

def escapeSymbol (name : List Char) : List Char :=
  escapeAll '#' (escapeAll '"' (escapeAll '\\' name))

def symbol (name : List Char) : List Char :=
  if isBareSymbol name then ':' :: name
  else ':' :: '"' :: escapeSymbol name ++ ['"']

end SchemaPlan.Ruby
