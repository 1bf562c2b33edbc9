/-!
Decimal numerals: sign, digits, point, exponent. A numeral that fits no double becomes zero or
infinite.
-/

namespace Sieve.Decimal

def isDigit (c : Char) : Bool := '0' ≤ c && c ≤ '9'

def digitValue (c : Char) : Nat := c.toNat - 0x30

/-- The number that decimal digits spell. -/
def natOf (l : List Char) : Nat := l.foldl (fun n c => n * 10 + digitValue c) 0

/-- The value of a hexadecimal digit. -/
def hexValue? (c : Char) : Option Nat :=
  if isDigit c then some (digitValue c)
  else if 'a' ≤ c && c ≤ 'f' then some (c.toNat - 0x57)
  else if 'A' ≤ c && c ≤ 'F' then some (c.toNat - 0x37)
  else none

/-- The number that the digits spell in a base up to sixteen. -/
def natOfBase? (base : Nat) (l : List Char) : Option Nat :=
  l.foldl
    (fun acc c =>
      match acc, hexValue? c with
      | some n, some d => if d < base then some (n * base + d) else none
      | _, _ => none)
    (some 0)

/-- The double nearest to `digits · 10 ^ exponent`. -/
def nearest (negative : Bool) (digits : Nat) (exponent : Int) : Float :=
  let x :=
    if digits = 0 || exponent + digits.log2 / 3 < -400 then 0.0
    else if exponent < 0 then Float.ofScientific digits true exponent.natAbs
    else if exponent > 400 then 1.0 / 0.0
    else Float.ofScientific digits false exponent.natAbs
  if negative then -x else x

/-- A sign, then the rest. -/
def takeSign : List Char → Bool × List Char
  | '-' :: r => (true, r)
  | '+' :: r => (false, r)
  | r => (false, r)

/-- An exponent after its mark, with nothing behind it. -/
def exponent? (l : List Char) : Option Int :=
  let (negative, ds) := takeSign l
  if ds.isEmpty || !ds.all isDigit then none
  else some (if negative then -(natOf ds : Int) else (natOf ds : Int))

/-- The double that a numeral spells: digits with an optional point and exponent, or a word for
infinity or for no number. -/
def readFloat? (s : String) : Option Float :=
  let (negative, body) := takeSign s.toList
  let word := String.ofList (body.map Char.toLower)
  if word = "inf" || word = "infinity" then some (if negative then -(1.0 / 0.0) else 1.0 / 0.0)
  else if word = "nan" then some (0.0 / 0.0)
  else
    let whole := body.takeWhile isDigit
    let rest := body.drop whole.length
    let (fraction, rest) :=
      match rest with
      | '.' :: r => (r.takeWhile isDigit, r.dropWhile isDigit)
      | r => ([], r)
    if whole.isEmpty && fraction.isEmpty then none
    else
      let e? :=
        match rest with
        | [] => some 0
        | c :: r => if c = 'e' || c = 'E' then exponent? r else none
      e?.map fun e => nearest negative (natOf (whole ++ fraction)) (e - fraction.length)

end Sieve.Decimal
