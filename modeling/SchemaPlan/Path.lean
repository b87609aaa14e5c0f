import SchemaPlan.Text.Lines

namespace SchemaPlan

structure Path where
  /-- No slash for a relative path, and one or two for an absolute one. -/
  slashes : Nat
  names : List String
  deriving DecidableEq

namespace Path

def ofString (s : String) : Path :=
  let count := (s.toList.takeWhile (· = '/')).length
  let names := (Text.splitOn '/' s.toList).filter fun name => name ≠ [] ∧ name ≠ ['.']
  ⟨if count ≤ 2 then count else 1, names.map .ofList⟩

def text (p : Path) : String :=
  if p.slashes = 0 ∧ p.names = [] then "."
  else .ofList (List.replicate p.slashes '/') ++ "/".intercalate p.names

def isAbsolute (p : Path) : Bool := p.slashes ≠ 0

def within (p directory : Path) : Path :=
  if p.isAbsolute then p else ⟨directory.slashes, directory.names ++ p.names⟩

def parent (p : Path) : Path := { p with names := p.names.dropLast }

def name (p : Path) : String := p.names.getLast?.getD ""

end Path

end SchemaPlan
