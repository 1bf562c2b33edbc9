import Sieve.Text.Quoted

/-!
Bytes written in base 64. Characters outside the alphabet are passed over; the padding has to
complete the last group.
-/

namespace Sieve.Text.Base64

/-- The value of a character of the alphabet. -/
def value? (c : Char) : Option Nat :=
  if 'A' ≤ c && c ≤ 'Z' then some (c.toNat - 0x41)
  else if 'a' ≤ c && c ≤ 'z' then some (c.toNat - 0x61 + 26)
  else if '0' ≤ c && c ≤ '9' then some (c.toNat - 0x30 + 52)
  else if c = '+' then some 62
  else if c = '/' then some 63
  else none

/-- What was read of a group of four, and how many padding signs followed it. -/
structure State where
  bytes : List UInt8
  /-- The position in the group. -/
  quad : Nat
  left : Nat
  pads : Nat
  count : Nat
  isDone : Bool

def step (s : State) (c : Char) : State :=
  if s.isDone then s
  else if c = '=' then
    if 2 ≤ s.quad && 4 ≤ s.quad + s.pads + 1 then { s with isDone := true, quad := 0 }
    else { s with pads := s.pads + 1 }
  else
    match value? c with
    | none => s
    | some v =>
      let s := { s with pads := 0, count := s.count + 1 }
      match s.quad with
      | 0 => { s with quad := 1, left := v }
      | 1 => { s with quad := 2, left := v % 16, bytes := s.bytes ++ [UInt8.ofNat (s.left * 4 + v / 16)] }
      | 2 => { s with quad := 3, left := v % 4, bytes := s.bytes ++ [UInt8.ofNat (s.left * 16 + v / 4)] }
      | _ => { s with quad := 0, left := 0, bytes := s.bytes ++ [UInt8.ofNat (s.left * 64 + v)] }

/-- Why a text holds no bytes. -/
inductive Fault where
  /-- Characters beyond ASCII, with the position of the first. -/
  | notAscii (run : List Char) (start : Nat)
  /-- One character is left over. -/
  | leftOver (count : Nat)
  | padding
deriving DecidableEq, Repr

def Fault.message : Fault → String
  | notAscii run start =>
    let place :=
      match run with
      | [c] => "character '" ++ String.ofList (escapeChar c) ++ s!"' in position {start}"
      | l => s!"characters in position {start}-{start + l.length - 1}"
    "failed to convert base64 data into ascii: 'ascii' codec can't encode " ++ place ++
      ": ordinal not in range(128)"
  | leftOver count =>
    "failed to decode base64 data: Invalid base64-encoded string: number of data characters " ++
      s!"({count}) cannot be 1 more than a multiple of 4"
  | padding => "failed to decode base64 data: Incorrect padding"

def isAscii (c : Char) : Bool := c.toNat < 0x80

/-- The bytes that a text spells. -/
def decode (l : List Char) : Except Fault (List UInt8) :=
  match l.dropWhile isAscii with
  | [] =>
    let s := l.foldl step ⟨[], 0, 0, 0, 0, false⟩
    if s.quad = 0 then .ok s.bytes
    else if s.quad = 1 then .error (.leftOver s.count)
    else .error .padding
  | rest =>
    .error (.notAscii (rest.takeWhile fun c => !isAscii c) (l.takeWhile isAscii).length)

end Sieve.Text.Base64
