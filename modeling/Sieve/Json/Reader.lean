import Sieve.Decimal.Read
import Sieve.Json.Basic

/-!
Reading JSON. Beyond the standard, the three words for infinities and for no number are numbers.
Of two members with one key the last counts. An integer has at most 4300 digits, and only so many
lists and objects may lie inside each other.
-/

namespace Sieve.Json

open Sieve.Decimal

def isSpace (c : Char) : Bool := c = ' ' || c = '\t' || c = '\n' || c = '\r'

def skipSpace (l : List Char) : List Char := l.dropWhile isSpace

/-- Four hexadecimal digits, then the rest. -/
def fourHex? : List Char → Option (Nat × List Char)
  | a :: b :: c :: d :: r => (natOfBase? 16 [a, b, c, d]).map (·, r)
  | _ => none

/-- The character of a `u` escape; the two halves of a pair are one character. One half alone is no
character, and U+FFFD stands for it. -/
def unicodeEscape? (l : List Char) : Option (Char × List Char) :=
  match fourHex? l with
  | none => none
  | some (hi, rest) =>
    if 0xD800 ≤ hi && hi < 0xDC00 then
      match rest with
      | '\\' :: 'u' :: r =>
        match fourHex? r with
        | some (lo, r') =>
          if 0xDC00 ≤ lo && lo < 0xE000 then
            some (Char.ofNat (0x10000 + (hi - 0xD800) * 0x400 + (lo - 0xDC00)), r')
          else some ('\ufffd', rest)
        | none => none
      | _ => some ('\ufffd', rest)
    else if 0xDC00 ≤ hi && hi < 0xE000 then some ('\ufffd', rest)
    else some (Char.ofNat hi, rest)

def simpleEscape? : Char → Option Char
  | '"' => some '"'
  | '\\' => some '\\'
  | '/' => some '/'
  | 'b' => some '\x08'
  | 'f' => some '\x0c'
  | 'n' => some '\n'
  | 'r' => some '\r'
  | 't' => some '\t'
  | _ => none

/-- The characters up to the closing quote, then the rest. -/
def stringBody : (fuel : Nat) → List Char → Option (List Char × List Char)
  | 0, _ => none
  | _, [] => none
  | k + 1, c :: r =>
    if c = '"' then some ([], r)
    else if c = '\\' then
      match r with
      | [] => none
      | e :: r' =>
        if e = 'u' then
          match unicodeEscape? r' with
          | some (x, r'') => (stringBody k r'').map fun (t, u) => (x :: t, u)
          | none => none
        else
          match simpleEscape? e with
          | some x => (stringBody k r').map fun (t, u) => (x :: t, u)
          | none => none
    else if c.toNat < 0x20 then none
    else (stringBody k r).map fun (t, u) => (c :: t, u)

/-- The part of a number before point and exponent: no zero leads but a lone one. -/
def wholePart? : List Char → Option (List Char × List Char)
  | '0' :: r => some (['0'], r)
  | l =>
    let ds := l.takeWhile isDigit
    if ds.isEmpty then none else some (ds, l.dropWhile isDigit)

/-- A point with digits, if there is one. -/
def fractionPart : List Char → List Char × List Char
  | '.' :: r =>
    let ds := r.takeWhile isDigit
    if ds.isEmpty then ([], '.' :: r) else (ds, r.dropWhile isDigit)
  | l => ([], l)

/-- An exponent, if there is one. -/
def exponentPart (l : List Char) : Option Int × List Char :=
  match l with
  | c :: r =>
    if c = 'e' || c = 'E' then
      let (negative, ds) := takeSign r
      let digits := ds.takeWhile isDigit
      if digits.isEmpty then (none, l)
      else
        let n : Int := natOf digits
        (some (if negative then -n else n), ds.dropWhile isDigit)
    else (none, l)
  | [] => (none, l)

def number? (l : List Char) : Option (Json × List Char) :=
  let (negative, body) :=
    match l with
    | '-' :: r => (true, r)
    | r => (false, r)
  match wholePart? body with
  | none => none
  | some (whole, rest) =>
    let (fraction, rest) := fractionPart rest
    let (e?, rest) := exponentPart rest
    if fraction.isEmpty && e?.isNone then
      if whole.length > 4300 then none
      else
        let n : Int := natOf whole
        some (.int (if negative then -n else n), rest)
    else
      some (.float (nearest negative (natOf (whole ++ fraction)) (e?.getD 0 - fraction.length)), rest)

/-- The rest after a word. -/
def afterWord? (word : String) (l : List Char) : Option (List Char) :=
  if word.toList.isPrefixOf l then some (l.drop word.length) else none

def words : List (String × Json) :=
  [("null", .null), ("true", .bool true), ("false", .bool false), ("NaN", .float (0.0 / 0.0)),
   ("Infinity", .float (1.0 / 0.0)), ("-Infinity", .float (-(1.0 / 0.0)))]

/-- A value that is one word. -/
def word? (l : List Char) : Option (Json × List Char) :=
  words.findSome? fun (w, v) => (afterWord? w l).map (v, ·)

/-- Why a text is no document. -/
inductive Fault where
  /-- It is no JSON. -/
  | malformed
  /-- Too much lies inside each other. -/
  | depth
deriving DecidableEq, Repr

def orMalformed {α : Type} : Option α → Except Fault α
  | some a => .ok a
  | none => .error .malformed

mutual

/-- A value and the rest behind it. No more than `room` lists and objects may be open at once. -/
def readValue : (fuel : Nat) → (room : Nat) → List Char → Except Fault (Json × List Char)
  | 0, _, _ => .error .malformed
  | k + 1, room, l =>
    match l with
    | '"' :: r =>
      orMalformed ((stringBody (r.length + 1) r).map fun (s, u) => (.str (String.ofList s), u))
    | '[' :: r =>
      if room = 0 then .error .depth
      else
        match skipSpace r with
        | ']' :: u => .ok (.arr [], u)
        | u => (readItems k (room - 1) u).map fun (xs, u') => (.arr xs, u')
    | '\x7b' :: r =>
      if room = 0 then .error .depth
      else
        match skipSpace r with
        | '\x7d' :: u => .ok (.obj [], u)
        | u =>
          (readMembers k (room - 1) u).map fun (ms, u') =>
            (.obj (ms.foldl (fun a m => put a m.1 m.2) []), u')
    | _ => orMalformed ((word? l).orElse fun _ => number? l)

def readItems : (fuel : Nat) → (room : Nat) → List Char → Except Fault (List Json × List Char)
  | 0, _, _ => .error .malformed
  | k + 1, room, l =>
    match readValue k room l with
    | .error f => .error f
    | .ok (x, r) =>
      match skipSpace r with
      | ',' :: u => (readItems k room (skipSpace u)).map fun (xs, u') => (x :: xs, u')
      | ']' :: u => .ok ([x], u)
      | _ => .error .malformed

def readMembers : (fuel : Nat) → (room : Nat) → List Char →
    Except Fault (List (String × Json) × List Char)
  | 0, _, _ => .error .malformed
  | k + 1, room, l =>
    match l with
    | '"' :: r =>
      match stringBody (r.length + 1) r with
      | none => .error .malformed
      | some (key, u) =>
        match skipSpace u with
        | ':' :: v =>
          match readValue k room (skipSpace v) with
          | .error f => .error f
          | .ok (x, w) =>
            match skipSpace w with
            | ',' :: z =>
              (readMembers k room (skipSpace z)).map fun (ms, z') =>
                ((String.ofList key, x) :: ms, z')
            | '\x7d' :: z => .ok ([(String.ofList key, x)], z)
            | _ => .error .malformed
        | _ => .error .malformed
    | _ => .error .malformed

end

/-- The document that a text holds. -/
def read (room : Nat) (text : String) : Except Fault Json :=
  let l := text.toList
  match readValue (2 * l.length + 2) room (skipSpace l) with
  | .ok (v, r) => if (skipSpace r).isEmpty then .ok v else .error .malformed
  | .error f => .error f

/-- The document that a text holds, however much lies inside each other. -/
def read? (text : String) : Option Json := (read text.length text).toOption

end Sieve.Json
