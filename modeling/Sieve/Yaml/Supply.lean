import Sieve.Yaml.Fault

/-!
Texts that break off. A file of settings is read in blocks of characters, each when it is needed.
A block that cannot be decoded, or that holds a character which no text may hold, is a fault only
for a reader that comes so far.
-/

namespace Sieve.Yaml

/-- What can be read of a text, and the fault behind that. -/
structure Supply where
  text : List Char
  fault : Option Fault

/-- Characters that a text may hold. -/
def isAllowed (c : Char) : Bool :=
  let n := c.toNat
  n = 0x09 || n = 0x0a || n = 0x0d || (0x20 ≤ n && n ≤ 0x7e) || n = 0x85 ||
    (0xa0 ≤ n && n ≤ 0xd7ff) || (0xe000 ≤ n && n ≤ 0xfffd) || 0x10000 ≤ n

/-- The first character that no text may hold, with its position. -/
def forbidden? (l : List Char) : Option (Char × Nat) :=
  l.zipIdx.find? fun (c, _) => !isAllowed c

namespace Supply

/-- A text that is all there. -/
def whole (text : List Char) : Supply := ⟨text, none⟩

/-- Where the block begins that holds a character. The first two are read at once. -/
def blockStart (place : Nat) : Nat :=
  let size := Text.Utf8.Stream.blockSize
  if place < 2 * size then 0 else place / size * size

/-- The text breaks off before the block with the fault. -/
def before (text : List Char) (place : Nat) (f : Fault) : Supply :=
  ⟨text.take (blockStart place), some f⟩

/-- What can be read of a file. -/
def ofBytes (bytes : List UInt8) : Supply :=
  let (text, f) := Text.Utf8.readBlocks bytes
  let s := match f with
    | none => whole text
    | some f => before text text.length (.undecodable f)
  match forbidden? s.text with
  | none => s
  | some (c, place) => before s.text place (.character c.toNat place)

end Supply

end Sieve.Yaml
