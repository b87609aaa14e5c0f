import SchemaPlan.Text.Utf8
import SchemaPlan.Yaml.Cursor

namespace SchemaPlan.Yaml

def withLineFeeds : List Char → List Char
  | [] => []
  | '\r' :: '\n' :: rest => '\n' :: withLineFeeds rest
  | c :: rest => (if c = '\r' then '\n' else c) :: withLineFeeds rest

structure Feed where
  bytes : List UInt8
  begun : List UInt8 := []
  /-- Whether a carriage return was read of which it is open what follows. -/
  returnHeld : Bool := false
  ready : List Char := []
  /-- How many bytes the last piece had, and how many characters they gave. -/
  lastPiece : Nat × Nat := (0, 0)

namespace Feed

def leastPiece : Nat := 8192

/-- A piece has as many bytes as the wanted characters are likely to take. -/
def pieceSize (feed : Feed) (wanted : Nat) : Nat :=
  let (bytes, characters) := feed.lastPiece
  max leastPiece (if characters < bytes then wanted * bytes / characters else wanted)

/-- Line feeds for carriage returns in a piece; a return at its end is held back. -/
def breakLines (held atEnd : Bool) (piece : List Char) : List Char × Bool :=
  let freed := held && (atEnd || !piece.isEmpty)
  let piece := if freed then '\r' :: piece else piece
  if !atEnd && piece.getLast? = some '\r' then (withLineFeeds piece.dropLast, true)
  else (withLineFeeds piece, held && !freed)

def decode (feed : Feed) (wanted : Nat) : Except Fault Feed :=
  let size := feed.pieceSize wanted
  let piece := feed.bytes.take size
  match Text.decodeUtf8 (feed.begun ++ piece) with
  | none => .error .undecodable
  | some (characters, begun) =>
    if piece.isEmpty && !begun.isEmpty then .error .undecodable
    else
      let (ready, returnHeld) := breakLines feed.returnHeld piece.isEmpty characters
      .ok { bytes := feed.bytes.drop size, begun, returnHeld, ready
            lastPiece := (piece.length, ready.length) }

def take : Nat → Nat → Feed → Except Fault (List Char × Feed)
  | 0, _, feed => .ok ([], feed)
  | pieces + 1, n, feed => do
    let taken := feed.ready.take n
    let feed := { feed with ready := feed.ready.drop n }
    if n ≤ taken.length then return (taken, feed)
    let wanted := n - taken.length
    let next ← feed.decode wanted
    if feed.bytes.isEmpty && next.ready.isEmpty then return (taken, next)
    let (more, feed) ← take pieces wanted next
    return (taken ++ more, feed)

def blockSize : Nat := 4096

def takeBlock (feed : Feed) : Except Fault (List Char × Feed) :=
  feed.take (feed.bytes.length + 3) blockSize

/-- The first block counts twice. -/
def takeFirstBlock (feed : Feed) : Except Fault (List Char × Feed) := do
  let (block, feed) ← feed.takeBlock
  let (more, feed) ← feed.takeBlock
  return (block ++ more, feed)

end Feed

/-- The text up to the first block with a fault, and that fault. -/
structure Source where
  text : List Char
  ending : Option Fault := none

namespace Source

def empty : Source := ⟨[], none⟩

def joined (block : Except Fault (List Char × Feed)) (rest : Feed → Source) : Source :=
  match block with
  | .error fault => ⟨[], some fault⟩
  | .ok (block, feed) =>
    if block.isEmpty then empty
    else if block.all isAllowed then { rest feed with text := block ++ (rest feed).text }
    else ⟨[], some .malformed⟩

def ofFeed : Nat → Feed → Source
  | 0, _ => empty
  | blocks + 1, feed => joined feed.takeBlock (ofFeed blocks)

def ofBytes (bytes : List UInt8) : Source :=
  joined { bytes : Feed }.takeFirstBlock (ofFeed (bytes.length + 1))

end Source

end SchemaPlan.Yaml
