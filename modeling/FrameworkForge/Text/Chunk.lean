import FrameworkForge.Number.Binary64
import FrameworkForge.Text.Utf8

/-!
Decoding of bytes that come in chunks. Characters are asked for in requests of one size; a request
that is short of characters fetches the next chunk, and the end of the bytes is an empty chunk.
-/

namespace FrameworkForge.Text

def requestSize : Nat := 4096

structure Chunked where
  /-- The characters, the latest first. -/
  chars : List Char := []
  count : Nat := 0
  unfinished : List Nat := []
  heldReturn : Bool := false
  /-- How many bytes the latest chunk had, and how many characters came of it. -/
  latest : Nat × Nat := (0, 0)

namespace Chunked

def usualSize : Nat := 8192

/-- How many bytes to fetch: as many as the characters that the request is short of took in the
latest chunk. -/
def nextSize (c : Chunked) : Nat :=
  let wanted := requestSize - c.count % requestSize
  let (bytes, chars) := c.latest
  if chars = 0 ∨ bytes ≤ chars then usualSize
  else
    let ratio := Number.Binary64.ofRatio false bytes chars
    max usualSize (ratio.mul (Number.Binary64.ofInt wanted)).wholePart

/-- Characters behind a carriage return that was held back, and whether one is held back now. None
is at the end, nor in front of characters. -/
def release (held final : Bool) (chars : List Char) : List Char × Bool :=
  if chars.isEmpty && !final then ([], held)
  else
    let chars := if held then '\r' :: chars else chars
    if !final && chars.getLast? = some '\r' then (chars.dropLast, true) else (chars, false)

/-- Takes a chunk in. Places of faults count from the start of the chunk, or of the character that
the chunk goes on with. -/
def feed (c : Chunked) (chunk : List Nat) : Except Utf8Fault Chunked := do
  let decoded ← decodePart 0 (c.unfinished ++ chunk)
  let final := chunk.isEmpty
  if final && !decoded.unfinished.isEmpty then throw (faultAtEnd decoded.unfinished)
  let (chars, heldReturn) := release c.heldReturn final decoded.chars
  let chars := unifyNewlines chars
  return {
    chars := chars.reverse ++ c.chars
    count := c.count + chars.length
    unfinished := decoded.unfinished
    heldReturn
    latest := (chunk.length, chars.length) }

def finish : Nat → Chunked → List Nat → Chunked × Option Utf8Fault
  | 0, c, _ => (c, none)
  | fuel + 1, c, bytes =>
    let chunk := bytes.take c.nextSize
    match c.feed chunk with
    | .error fault => (c, some fault)
    | .ok c => if chunk.isEmpty then (c, none) else finish fuel c (bytes.drop chunk.length)

def ofBytes (bytes : List UInt8) : Chunked × Option Utf8Fault :=
  finish (bytes.length + 2) {} (bytes.map UInt8.toNat)

end Chunked

end FrameworkForge.Text
