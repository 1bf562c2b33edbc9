import Sieve.Value.Basic

/-!
The text of a value. A text is itself; inside another value it stands in quotes. An integer of
more than 4300 digits has no text, nor has a value that holds one.
-/

namespace Sieve.Value

open Sieve.Text

/-- The most digits that an integer is written with. -/
def digitLimit : Nat := 4300

/-- The integer has at most that many digits. -/
def isWritable (n : Int) : Bool := n.natAbs.log2 < 14280 || n.natAbs < Nat.pow 10 digitLimit

/-- A byte inside quotes of the kind `q`. -/
def quoteByte (q : Char) (b : UInt8) : List Char :=
  let c := Char.ofNat b.toNat
  if c = q || c = '\\' then ['\\', c]
  else if 0x20 ≤ b.toNat && b.toNat < 0x7f then [c]
  else if c = '\n' then ['\\', 'n']
  else if c = '\r' then ['\\', 'r']
  else if c = '\t' then ['\\', 't']
  else '\\' :: 'x' :: hexDigits 2 b.toNat

/-- Bytes in quotes after a mark. -/
def quotedBytes (l : List UInt8) : String :=
  let q := quoteFor (l.map fun b => Char.ofNat b.toNat)
  String.ofList ('b' :: q :: l.flatMap (quoteByte q) ++ [q])

def commaSeparated (l : List String) : String := ", ".intercalate l

mutual

/-- The text of a value inside another one. -/
def inner? : Value → Option String
  | null => some "None"
  | bool b => some (if b then "True" else "False")
  | int n => if isWritable n then some (toString n) else none
  | float x => some (Decimal.text x)
  | str s => some (quoted s)
  | list xs => (items? xs).map fun l => s!"[{commaSeparated l}]"
  | tuple xs =>
    (items? xs).map fun l =>
      match l with
      | [x] => s!"({x},)"
      | l => s!"({commaSeparated l})"
  | set [] => some "set()"
  | set (x :: xs) =>
    match inner? x, items? xs with
    | some t, some l => some s!"\x7b{commaSeparated (t :: l)}\x7d"
    | _, _ => none
  | map es => (entryTexts? es).map fun l => s!"\x7b{commaSeparated l}\x7d"
  | bytes l => some (quotedBytes l)
  | date d => some d.detailed
  | moment m => some m.detailed
  | again isMap => some (if isMap then "\x7b...\x7d" else "[...]")

def items? : List Value → Option (List String)
  | [] => some []
  | x :: xs =>
    match inner? x, items? xs with
    | some t, some l => some (t :: l)
    | _, _ => none

def entryTexts? : List (Value × Value) → Option (List String)
  | [] => some []
  | (k, v) :: es =>
    match inner? k, inner? v, entryTexts? es with
    | some a, some b, some l => some (s!"{a}: {b}" :: l)
    | _, _, _ => none

end

/-- The text of a value. -/
def text? : Value → Option String
  | str s => some s
  | date d => some d.text
  | moment m => some m.text
  | v => inner? v

/-- What is said of an integer that has no text. -/
def noTextMessage : String :=
  "Exceeds the limit (4300 digits) for integer string conversion; " ++
  "use sys.set_int_max_str_digits() to increase the limit"

end Sieve.Value
