import SchemaPlan.Decimal.Binary64
import SchemaPlan.Logged
import SchemaPlan.Text.Blank
import SchemaPlan.Text.Digit
import SchemaPlan.Text.LetterCase
import SchemaPlan.Text.Lines

namespace SchemaPlan.Slug

def isCapital (c : Char) : Bool := 'A' ≤ c && c ≤ 'Z'

def isSmall (c : Char) : Bool := 'a' ≤ c && c ≤ 'z'

def isCapitalOrDigit (c : Char) : Bool := isCapital c || Text.isDecimal c

def isSmallOrDigit (c : Char) : Bool := isSmall c || Text.isDecimal c

/-- A run of two or more capitals and digits gives its last capital to the small letter that
follows. -/
def breakRun (run after : List Char) : List Char :=
  match run.getLast?, after.head? with
  | some last, some next =>
    if 2 ≤ run.length && isCapital last && isSmall next then run.dropLast ++ ['_', last] else run
  | _, _ => run

def splitAcronyms : List Char → List Char
  | [] => []
  | c :: rest =>
    if isCapitalOrDigit c then
      breakRun (c :: rest.takeWhile isCapitalOrDigit) (rest.dropWhile isCapitalOrDigit) ++
        splitAcronyms (rest.dropWhile isCapitalOrDigit)
    else c :: splitAcronyms rest
termination_by s => s.length
decreasing_by
  · exact Nat.lt_succ_of_le (List.dropWhile_sublist _).length_le
  · exact Nat.lt_succ_self _

def splitWords : List Char → List Char
  | a :: b :: rest =>
    if isSmallOrDigit a && isCapital b then a :: '_' :: b :: splitWords rest
    else a :: splitWords (b :: rest)
  | s => s

def underscore (name : List Char) : List Char := splitWords (splitAcronyms name)

def isSlugChar (c : Char) : Bool := isSmall c || ('0' ≤ c && c ≤ '9') || c = '_'

/-- Each run of other characters as one underscore; `inRun` tells whether one has begun. -/
def replaceRuns (inRun : Bool) : List Char → List Char
  | [] => []
  | c :: rest =>
    if isSlugChar c then c :: replaceRuns false rest
    else if inRun then replaceRuns true rest
    else '_' :: replaceRuns true rest

def fallback : List Char := "generated_migration".toList

def digitLead : List Char := "migration_".toList

/-- A file name takes at most 240 characters, of which 18 go to the version and the ending. -/
def maxLength : Int := 240 - 14 - 1 - 3

def stem (name : List Char) : List Char :=
  Text.stripChars ['_'] (replaceRuns false (Text.lower (underscore name)))

/-- Puts a word before a digit in front, since no class name starts with one. -/
def lead : List Char → List Char
  | [] => []
  | c :: rest => if Text.isDigitChar c then digitLead ++ c :: rest else c :: rest

/-- The first `n` characters; all but the last `-n` for a negative `n`. -/
def leading (n : Int) (s : List Char) : List Char :=
  if 0 ≤ n then s.take n.toNat else s.take (s.length - n.natAbs)

def lastUnderscore (s : List Char) : Int :=
  (s.length : Int) - 1 - (s.reverse.takeWhile (· ≠ '_')).length

def share : Binary64 := .ofDecimal false 7 (-1)

def shareOf (limit : Int) : Binary64 :=
  share.mul (.round (decide (limit < 0)) limit.natAbs 0)

inductive Fault
  | limitTooLarge
  deriving DecidableEq

def Fault.message : Fault → String
  | .limitTooLarge => Binary64.tooLargeMessage

/-- Cuts at the limit, or at the last underscore before it if that leaves enough. -/
def cut (limit : Int) (slug : List Char) : List Char :=
  let kept := leading limit slug
  let last := lastUnderscore kept
  if (shareOf limit).below last then leading last kept else kept

def uncut (name : String) : List Char := lead (stem name.toList)

def isCut (name : String) (limit : Int) : Bool :=
  !(uncut name).isEmpty && ((uncut name).length : Int) > limit

/-- The slug of a name; one without letters and digits has a fixed slug of its own, which is never
cut. -/
def ofName (name : String) (limit : Int := maxLength) : Logged String :=
  if isCut name limit then do
    Logged.warning "Migration filename truncated due to length limits"
    return .ofList (cut limit (uncut name))
  else pure (.ofList (if (uncut name).isEmpty then fallback else uncut name))

/-- The slug of a name under a limit of the caller's. A cut needs a limit that is near some binary
number; the standard one is. -/
def ofNameWithin (limit : Int) (name : String) : Except Fault (Logged String) :=
  if isCut name limit && (Binary64.ofWhole? limit).isNone then .error .limitTooLarge
  else .ok (ofName name limit)

def camelize (slug : String) : String :=
  .ofList ((Text.splitOn '_' slug.toList).flatMap Text.capitalize)

def className (name : String) : Logged String := camelize <$> ofName name

end SchemaPlan.Slug
