import Sieve.Decimal.Shortest

/-!
Floats that are integers.
-/

namespace Sieve.Decimal

/-- What a float is as an integer. -/
inductive Whole where
  | notFinite
  | fraction
  | int (n : Int)
deriving DecidableEq, Repr

def Whole.ofFloat (x : Float) : Whole :=
  match Binary.ofFloat x with
  | .nan | .infinite _ => .notFinite
  | .finite negative m q =>
    let signed (n : Nat) : Whole := .int (if negative then -(n : Int) else n)
    if 0 ≤ q then signed (m * Nat.pow 2 q.toNat)
    else
      let unit := Nat.pow 2 (-q).toNat
      if m % unit = 0 then signed (m / unit) else .fraction

/-- The number without its fraction. -/
def truncated? (x : Float) : Option Int :=
  match Binary.ofFloat x with
  | .nan | .infinite _ => none
  | .finite negative m q =>
    let n := if 0 ≤ q then m * Nat.pow 2 q.toNat else m / Nat.pow 2 (-q).toNat
    some (if negative then -(n : Int) else n)

end Sieve.Decimal
