import Sieve.Value.Moment
import Sieve.Yaml.Scalar

/-!
The values of numbers and timestamps. Underscores in numbers are passed over. Where an explicit
tag demands a number that the text is not, the fault says which rule the text breaks.
-/

namespace Sieve.Yaml

open Decimal

def emptyNumber : Fault := .failed .index "string index out of range"

/-- The most digits of a decimal integer. -/
def decimalLimit : Nat := 4300

def tooManyDigits (n : Nat) : Fault :=
  .failed .value <|
    "Exceeds the limit (4300 digits) for integer string conversion: " ++
      s!"value has {n} digits; use sys.set_int_max_str_digits() to increase the limit"

/-- An integer literal in a base, with an optional sign and blanks around it. -/
def integerLiteral (base : Nat) (l : List Char) : Except Fault Int :=
  let refused : Except Fault Int :=
    let shownText := Text.quoted (String.ofList l)
    .error (.failed .value s!"invalid literal for int() with base {base}: {shownText}")
  let (negative, body) := takeSign (Text.trim l)
  let body :=
    match base, body with
    | 8, '0' :: 'o' :: r => r
    | _, r => r
  if body.isEmpty then refused
  else
    match natOfBase? base body with
    | none => refused
    | some n =>
      if base = 10 && decimalLimit < body.length then .error (tooManyDigits body.length)
      else .ok (if negative then -(n : Int) else n)

/-- Parts between colons as digits in base sixty. -/
def sexagesimalInt (l : List Char) : Except Fault Int := do
  let parts ← (Text.splitOn ':' l).mapM (integerLiteral 10)
  return parts.foldl (fun n d => n * 60 + d) 0

/-- The integer that a text spells. -/
def readInt (d : Dialect) (text : String) : Except Fault Int := do
  let l := text.toList.filter (· ≠ '_')
  let (negative, body) := takeSign l
  let signed (n : Int) : Int := if negative then -n else n
  match body with
  | [] => throw emptyNumber
  | ['0'] => return 0
  | '0' :: 'b' :: r =>
    if r.isEmpty && d.isNew then throw emptyNumber
    return signed (← integerLiteral 2 r)
  | '0' :: 'x' :: r =>
    if r.isEmpty && d.isNew then throw emptyNumber
    return signed (← integerLiteral 16 r)
  | '0' :: 'o' :: r =>
    if r.isEmpty && d.isNew then throw emptyNumber
    return signed (← integerLiteral 8 r)
  | c :: _ =>
    if d.version ≠ (1, 2) && c = '0' then return signed (← integerLiteral 8 body)
    else if d.version ≠ (1, 2) && body.contains ':' then return signed (← sexagesimalInt body)
    else return signed (← integerLiteral 10 body)

def floatLiteral (l : List Char) : Except Fault Float :=
  match readFloat? (String.ofList (Text.trim l)) with
  | some x => .ok x
  | none =>
    let shownText := Text.quoted (String.ofList l)
    .error (.failed .value s!"could not convert string to float: {shownText}")

/-- Parts between colons, the last of least weight. -/
def sexagesimalFloat (l : List Char) : Except Fault Float := do
  let parts ← (Text.splitOn ':' l).mapM floatLiteral
  return (parts.reverse.foldl (fun (sum, base) x => (sum + x * base, base * 60.0)) (0.0, 1.0)).1

/-- The float that a text spells. -/
def readFloat (d : Dialect) (text : String) : Except Fault Float := do
  let l := (text.toList.filter (· ≠ '_')).map Char.toLower
  if l.isEmpty then throw emptyNumber
  let (negative, body) := takeSign l
  let signed (x : Float) : Float := if negative then -x else x
  if body = ".inf".toList then return signed (1.0 / 0.0)
  if body = ".nan".toList then return 0.0 / 0.0
  if d.version ≠ (1, 2) && body.contains ':' then return signed (← sexagesimalFloat body)
  return signed (← floatLiteral body)

def calendar {α : Type} (r : Except CalendarFault α) : Except Fault α :=
  r.mapError fun f => .failed .value f.message

namespace TimestampParts

def date (p : TimestampParts) : Date := ⟨natOf p.year, natOf p.month, natOf p.day⟩

/-- The first six digits of a fraction as microseconds. -/
def microseconds (p : TimestampParts) : Nat :=
  let six := p.fraction.take 6
  natOf (six ++ List.replicate (6 - six.length) '0')

/-- The offset in seconds, if one is written. -/
def offsetSeconds (p : TimestampParts) : Option Int :=
  p.offset.map fun (sign, hours, minutes) =>
    let n : Int := natOf hours * 3600 + natOf minutes * 60
    if sign = '-' then -n else n

/-- The moment as written, without its offset. -/
def localMoment (p : TimestampParts) (time : List Char × List Char × List Char)
    (microsecond : Nat) : Moment :=
  ⟨p.date, natOf time.1, natOf time.2.1, natOf time.2.2, microsecond, none⟩

end TimestampParts

end Sieve.Yaml
