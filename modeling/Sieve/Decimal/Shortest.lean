/-!
The shortest decimal that reads back as a given double, and its text.

A finite double is `m · 2 ^ q`. The reals that round to it form an interval, closed if `m` is
even. On the grid of decimals with one more digit at a time, the first grid with a point in the
interval gives the digits; of two such points the nearer one.
-/

namespace Sieve.Decimal

/-- A double by its bits. -/
inductive Binary where
  | nan
  | infinite (negative : Bool)
  | finite (negative : Bool) (mantissa : Nat) (exponent : Int)
deriving DecidableEq, Repr

def Binary.ofFloat (x : Float) : Binary :=
  let bits : Nat := x.toBits.toNat
  let negative := bits / Nat.pow 2 63 == 1
  let biased : Nat := bits / Nat.pow 2 52 % Nat.pow 2 11
  let fraction : Nat := bits % Nat.pow 2 52
  if biased == 2047 then (if fraction == 0 then .infinite negative else .nan)
  else if biased == 0 then .finite negative fraction (-1074)
  else .finite negative (Nat.pow 2 52 + fraction) ((biased : Int) - 1075)

/-- A non-negative fraction. -/
structure Ratio where
  num : Nat
  den : Nat

def Ratio.ofPower (base : Nat) (e : Int) : Ratio :=
  if e < 0 then ⟨1, base.pow (-e).toNat⟩ else ⟨base.pow e.toNat, 1⟩

def Ratio.scale (r : Ratio) (n : Nat) : Ratio := ⟨r.num * n, r.den⟩

def Ratio.le (a b : Ratio) : Bool := a.num * b.den ≤ b.num * a.den

def Ratio.lt (a b : Ratio) : Bool := a.num * b.den < b.num * a.den

/-- The number of whole `b` in `a`. -/
def Ratio.quotient (a b : Ratio) : Nat := a.num * b.den / (a.den * b.num)

/-- The reals that round to one double. -/
structure Interval where
  low : Ratio
  value : Ratio
  high : Ratio
  closed : Bool

/-- Around the smallest mantissa of a binade the lower half gap is half as wide. -/
def Interval.of (m : Nat) (q : Int) : Interval :=
  let unit := Ratio.ofPower 2 (q - 2)
  let below := if m == Nat.pow 2 52 && q > -1074 then 1 else 2
  { low := unit.scale (4 * m - below), value := unit.scale (4 * m),
    high := unit.scale (4 * m + 2), closed := m % 2 == 0 }

def Interval.holds (i : Interval) (r : Ratio) : Bool :=
  if i.closed then i.low.le r && r.le i.high else i.low.lt r && r.lt i.high

/-- A decimal `digits · 10 ^ exponent`. -/
structure Scientific where
  digits : Nat
  exponent : Int
deriving DecidableEq, Repr

/-- The decimal exponent of the first digit of `r`, looked for upward from `e`. -/
def leadingExponent (r : Ratio) : (fuel : Nat) → Int → Int
  | 0, e => e
  | k + 1, e => if (Ratio.ofPower 10 (e + 1)).le r then leadingExponent r k (e + 1) else e

/-- The point of the grid `10 ^ e` in the interval that is nearest to the value; of two equally
near ones the even one. -/
def Interval.pointOn (i : Interval) (e : Int) : Option Nat :=
  let grid := Ratio.ofPower 10 e
  let d := i.value.quotient grid
  let below := i.holds (grid.scale d) && d != 0
  let above := i.holds (grid.scale (d + 1))
  let twice := Ratio.mk (2 * i.value.num) i.value.den
  let middle := grid.scale (2 * d + 1)
  let goesBelow := if d % 2 == 0 then twice.le middle else twice.lt middle
  match below, above with
  | true, true => some (if goesBelow then d else d + 1)
  | true, false => some d
  | false, true => some (d + 1)
  | false, false => none

/-- The first grid with a point, from `n` digits on. -/
def Interval.search (i : Interval) (lead : Int) : (fuel : Nat) → (n : Nat) → Scientific
  | 0, n => ⟨i.value.quotient (Ratio.ofPower 10 (lead - n)), lead - n⟩
  | k + 1, n =>
    match i.pointOn (lead - n) with
    | some d => ⟨d, lead - n⟩
    | none => i.search lead k (n + 1)

/-- The shortest decimal of `m · 2 ^ q`. -/
def shortest (m : Nat) (q : Int) : Scientific :=
  let i := Interval.of m q
  let start := (m.log2 + q) * 30103 / 100000 - 2
  let lead := leadingExponent i.value 5 start
  i.search lead 17 0

/-- How a decimal is written. -/
structure Style where
  /-- The value is written without an exponent from this decimal exponent on … -/
  leastPositional : Int
  /-- … up to this one. -/
  mostPositional : Int
  /-- The least number of exponent digits. -/
  exponentDigits : Nat

/-- Trailing zeros go, the last digit apart. -/
def dropTrailingZeros (l : List Char) : List Char :=
  match (l.reverse.dropWhile (· = '0')).reverse with
  | [] => ['0']
  | r => r

def padLeft (width : Nat) (l : List Char) : List Char :=
  List.replicate (width - l.length) '0' ++ l

/-- The text of a positive decimal: a whole number keeps one zero after its point. -/
def Style.write (st : Style) (s : Scientific) : List Char :=
  let all := (toString s.digits).toList
  let ds := dropTrailingZeros all
  let point : Int := (all.length : Int) + s.exponent
  let e := point - 1
  if st.leastPositional ≤ e && e ≤ st.mostPositional then
    if point ≤ 0 then '0' :: '.' :: List.replicate (-point).toNat '0' ++ ds
    else if ds.length ≤ point.toNat then
      ds ++ List.replicate (point.toNat - ds.length) '0' ++ ['.', '0']
    else ds.take point.toNat ++ '.' :: ds.drop point.toNat
  else
    let head :=
      match ds with
      | d :: [] => [d]
      | d :: r => d :: '.' :: r
      | [] => []
    let sign := if e < 0 then '-' else '+'
    head ++ 'e' :: sign :: padLeft st.exponentDigits (toString e.natAbs).toList

/-- Positional from one ten-thousandth up to below 10 ^ 16; the exponent has a sign and at
least two digits. -/
def plainStyle : Style := ⟨-4, 15, 2⟩

/-- The text of a double. -/
def Style.text (st : Style) (x : Float) : String :=
  let signed (negative : Bool) (l : List Char) : String :=
    String.ofList (if negative then '-' :: l else l)
  match Binary.ofFloat x with
  | .nan => "nan"
  | .infinite negative => signed negative ['i', 'n', 'f']
  | .finite negative 0 _ => signed negative ['0', '.', '0']
  | .finite negative m q => signed negative (st.write (shortest m q))

/-- The shortest text that reads back as the double. -/
def text (x : Float) : String := plainStyle.text x

end Sieve.Decimal
