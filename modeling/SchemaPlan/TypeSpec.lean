import SchemaPlan.Numeral
import SchemaPlan.Text.Lines
import SchemaPlan.Text.Word

namespace SchemaPlan

structure TypeSpec where
  base : String
  params : List Int := []
  deriving DecidableEq

namespace TypeSpec

inductive Fault
  | notAType (token : String)
  | badParameter (part token : String)
  | badNumeral (fault : Numeral.Fault)
  deriving DecidableEq

def Fault.message : Fault → String
  | .notAType token => s!"Invalid type token: {quoted token}"
  | .badParameter part token => s!"Invalid parameter {quoted part} in type token {quoted token}"
  | .badNumeral fault => fault.message

def split? (token : List Char) : Option (List Char × Option (List Char)) :=
  let name := token.takeWhile Text.isWordChar
  let rest := (token.dropWhile Text.isWordChar).dropWhile Text.isBlank
  if name.isEmpty then none
  else match rest with
    | [] => some (name, none)
    | '(' :: inner =>
      if inner.getLast? = some ')' then some (name, some inner.dropLast) else none
    | _ => none

def readParam (token : String) (piece : List Char) : Except Fault Int :=
  let part := Text.trim piece
  if part.isEmpty || !part.all Text.isDigitChar then
    .error (.badParameter (.ofList part) token)
  else (Numeral.read 10 part).mapError .badNumeral

def parse (token : String) : Except Fault TypeSpec :=
  match split? (Text.trim token.toList) with
  | none => .error (.notAType token)
  | some (name, none) => .ok ⟨.ofList name, []⟩
  | some (name, some inner) => do
    let params ← (Text.splitOn ',' inner).mapM (readParam token)
    return ⟨.ofList name, params⟩

def text (spec : TypeSpec) : Except Numeral.Fault String :=
  if spec.params.isEmpty then .ok spec.base
  else do
    let params ← spec.params.mapM Numeral.write
    return spec.base ++ "(" ++ ",".intercalate params ++ ")"

end TypeSpec

end SchemaPlan
