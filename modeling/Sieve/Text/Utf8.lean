/-!
Reading UTF-8: a text from its bytes, or the first place where the bytes are none, with the
reason. A file can also be read block after block; then what stands before a fault counts, less the
chunk of bytes that holds it.
-/

namespace Sieve.Text.Utf8

/-- Why bytes are not UTF-8. -/
inductive Reason where
  | badStart
  | badContinuation
  | truncated
deriving DecidableEq, Repr

/-- The bytes that no text has: `count` of them, the first at `start`. -/
structure Fault where
  first : UInt8
  start : Nat
  count : Nat
  reason : Reason
deriving DecidableEq, Repr

def Reason.message : Reason → String
  | badStart => "invalid start byte"
  | badContinuation => "invalid continuation byte"
  | truncated => "unexpected end of data"

/-- Two hexadecimal digits. -/
def hexByte (b : UInt8) : String :=
  let d (n : Nat) : Char := if n < 10 then Char.ofNat (0x30 + n) else Char.ofNat (0x57 + n)
  String.ofList [d (b.toNat / 16), d (b.toNat % 16)]

def Fault.message (f : Fault) : String :=
  let place :=
    if f.count = 1 then s!"byte 0x{hexByte f.first} in position {f.start}"
    else s!"bytes in position {f.start}-{f.start + f.count - 1}"
  s!"'utf-8' codec can't decode {place}: {f.reason.message}"

/-- One character with the number of its bytes, or a fault of that many bytes. -/
inductive Step where
  | char (c : Char) (size : Nat)
  | fault (reason : Reason) (size : Nat)

def isTail (b : UInt8) : Bool := 0x80 ≤ b.toNat && b.toNat ≤ 0xBF

/-- The second byte is one that the first admits. -/
def secondFits (a b : UInt8) : Bool :=
  isTail b &&
    (if a == 0xE0 then 0xA0 ≤ b.toNat
     else if a == 0xED then b.toNat < 0xA0
     else if a == 0xF0 then 0x90 ≤ b.toNat
     else if a == 0xF4 then b.toNat < 0x90
     else true)

/-- The number of bytes that a first byte announces. -/
def announced (a : UInt8) : Nat :=
  let n := a.toNat
  if n < 0x80 then 1
  else if n < 0xC2 then 0
  else if n < 0xE0 then 2
  else if n < 0xF0 then 3
  else if n < 0xF5 then 4
  else 0

/-- The character that the tail bytes complete. -/
def assemble (lead : Nat) (tails : List UInt8) : Char :=
  Char.ofNat (tails.foldl (fun n b => n * 64 + b.toNat % 64) lead)

/-- What stands at the head of the bytes `a :: r`. -/
def step (a : UInt8) (r : List UInt8) : Step :=
  match announced a, r with
  | 0, _ => .fault .badStart 1
  | 1, _ => .char (Char.ofNat a.toNat) 1
  | _, [] => .fault .truncated 1
  | 2, b :: _ =>
    if isTail b then .char (assemble (a.toNat % 32) [b]) 2 else .fault .badContinuation 1
  | n, b :: r =>
    if !secondFits a b then .fault .badContinuation 1
    else
      match r with
      | [] => .fault .truncated 2
      | c :: r =>
        if !isTail c then .fault .badContinuation 2
        else if n = 3 then .char (assemble (a.toNat % 16) [b, c]) 3
        else
          match r with
          | [] => .fault .truncated 3
          | d :: _ =>
            if isTail d then .char (assemble (a.toNat % 8) [b, c, d]) 4
            else .fault .badContinuation 3

/-- Reads on from position `pos`; `skip` bytes belong to the character just read. -/
def decodeFrom (pos skip : Nat) : List UInt8 → Except Fault (List Char)
  | [] => .ok []
  | a :: r =>
    match skip with
    | k + 1 => decodeFrom (pos + 1) k r
    | 0 =>
      match step a r with
      | .fault reason n => .error ⟨a, pos, n, reason⟩
      | .char c n => (decodeFrom (pos + 1) (n - 1) r).map (c :: ·)

/-- The text that the bytes spell. -/
def decode (bytes : List UInt8) : Except Fault String :=
  (decodeFrom 0 0 bytes).map String.ofList

/-- The bytes of a text. -/
def encode (s : String) : List UInt8 := s.toUTF8.toList

/-- Every line end, of one or two characters, becomes a line feed. -/
def unifyLines : List Char → List Char
  | '\r' :: '\n' :: r => '\n' :: unifyLines r
  | '\r' :: r => '\n' :: unifyLines r
  | c :: r => c :: unifyLines r
  | [] => []

/-- The text of a file read as a whole. -/
def readText (bytes : List UInt8) : Except Fault String :=
  (decode bytes).map fun s => String.ofList (unifyLines s.toList)

/-- The characters of bytes, and the bytes of a character that the end cuts. -/
def decodeOpen (input : List UInt8) : Except Fault (List Char × List UInt8) :=
  match decodeFrom 0 0 input with
  | .ok text => .ok (text, [])
  | .error f =>
    if f.reason = .truncated then
      (decodeFrom 0 0 (input.take f.start)).map fun text => (text, input.drop f.start)
    else .error f

/-- What is left of a file that is read in blocks of characters, chunk of bytes after chunk. -/
structure Stream where
  bytes : List UInt8
  /-- The bytes of a character that the last chunk has cut. -/
  cut : List UInt8
  /-- A carriage return that may belong to a line feed behind it. -/
  held : List Char
  /-- How many characters the block still lacks. -/
  missing : Nat
  /-- The bytes and the characters of the last chunk. -/
  last : Nat × Nat

namespace Stream

def blockSize : Nat := 4096

def start (bytes : List UInt8) : Stream := ⟨bytes, [], [], blockSize, (0, 0)⟩

/-- The bytes of the next chunk: more than usual if the characters of the last one took many. -/
def chunk (s : Stream) : List UInt8 :=
  s.bytes.take (max 8192 (s.last.1 * s.missing / s.last.2))

/-- What a block lacks after `count` more characters; of those beyond it others are made. -/
def missingAfter (s : Stream) (count : Nat) : Nat :=
  if count < s.missing then s.missing - count else blockSize - (count - s.missing) % blockSize

/-- The stream behind its next chunk. -/
def next (s : Stream) (cut : List UInt8) (held : List Char) (count : Nat) : Stream :=
  ⟨s.bytes.drop s.chunk.length, cut, held, s.missingAfter count, (s.chunk.length, count)⟩

/-- The characters up to the end, or up to the chunk that cannot be decoded, and its fault. Places
count from the first byte that waited. -/
def read : (fuel : Nat) → Stream → List Char × Option Fault
  | 0, _ => ([], none)
  | k + 1, s =>
    match decodeOpen (s.cut ++ s.chunk) with
    | .error f => ([], some f)
    | .ok (text, cut) =>
      match s.chunk, cut with
      | [], [] => (unifyLines s.held, none)
      | [], a :: _ => ([], some ⟨a, 0, cut.length, .truncated⟩)
      | _, _ =>
        let text := s.held ++ text
        let held := if text.getLast? = some '\r' then ['\r'] else []
        let text := unifyLines (text.take (text.length - held.length))
        let (rest, f) := read k (s.next cut held text.length)
        (text ++ rest, f)

end Stream

/-- The characters of a file read in blocks, and the fault that ends the reading. -/
def readBlocks (bytes : List UInt8) : List Char × Option Fault :=
  Stream.read (bytes.length + 2) (.start bytes)

end Sieve.Text.Utf8
