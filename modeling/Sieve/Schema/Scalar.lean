import Sieve.Decimal.Read
import Sieve.Decimal.Whole
import Sieve.Files.Path
import Sieve.Schema.Issue
import Sieve.Text.Lower
import Sieve.Text.Utf8
import Sieve.Value.Text

/-!
Texts, integers, truth values and paths read from values of any type.
-/

namespace Sieve.Schema

open Decimal

def Read.text : Value → Read String
  | .str s => .ok s
  | .bytes l =>
    match Text.Utf8.decode l with
    | .ok s => .ok s
    | .error _ => .fail .textBytes
  | _ => .fail .text

def Read.texts : Value → Read (List String)
  | .list xs => Read.items Read.text 0 xs
  | .tuple xs => Read.items Read.text 0 xs
  | _ => .fail .tuple

/-- Blanks that may stand around a numeral. -/
def isPadding (c : Char) : Bool := Text.isBlank c && !Text.isSeparator c

/-- An optional sign and digits. -/
def plainInteger? (l : List Char) : Option Int :=
  let (negative, digits) := takeSign l
  if digits.isEmpty || !digits.all isDigit then none
  else some (if negative then -(natOf digits : Int) else natOf digits)

/-- The rest behind leading zeros and the underscores among them; of zeros alone, or of zeros
before a point, the last character stays. -/
def behindZeros? (last : Char) : List Char → Option (List Char)
  | [] => some [last]
  | c :: r =>
    if c = '0' || c = '_' then behindZeros? c r
    else if isDigit c then some (c :: r)
    else if c = '.' then some (last :: c :: r)
    else none

def withoutZeros? : List Char → Option (List Char)
  | '0' :: r => behindZeros? '0' r
  | c :: r => if isDigit c || c = '-' then some (c :: r) else none
  | [] => none

/-- A point that only zeros follow goes with them. -/
def withoutFraction (l : List Char) : List Char :=
  match l.dropWhile (· ≠ '.') with
  | _ :: zeros => if zeros.all (· = '0') then l.takeWhile (· ≠ '.') else l
  | [] => l

/-- Single underscores between other characters go. -/
def withoutUnderscores (l : List Char) : List Char :=
  if l.head? = some '_' || l.getLast? = some '_' || Text.occursIn ['_', '_'] l then l
  else l.filter (· ≠ '_')

/-- The integer that a text spells: with blanks around it, a plus sign, zeros in front,
underscores between digits, and a fraction of zeros. -/
def integer? (s : String) : Option Int :=
  let l := s.toList
  match plainInteger? l with
  | some n => some n
  | none =>
    let l := Text.dropEndWhile isPadding (l.dropWhile isPadding)
    let l :=
      match l with
      | '+' :: '-' :: _ => []
      | '+' :: r => r
      | r => r
    match withoutZeros? l with
    | some l => plainInteger? (withoutUnderscores (withoutFraction l))
    | none => none

/-- The most bytes of a numeral. -/
def numeralLimit : Nat := 4300

def Read.integerOfText (s : String) : Read Int :=
  if numeralLimit < s.utf8ByteSize then .fail .integerTooLong
  else
    match integer? s with
    | some n => .ok n
    | none => .fail .integerText

/-- The end of the integers of 64 bits with a sign: 2 ^ 63. -/
def wordLimit : Int := 9223372036854775808

def Read.integer : Value → Read Int
  | .int n => .ok n
  | .bool b => .ok (if b then 1 else 0)
  | .str s => Read.integerOfText s
  | .bytes l =>
    match Text.Utf8.decode l with
    | .ok s => Read.integerOfText s
    | .error _ => .fail .integerText
  | .float x =>
    match Whole.ofFloat x with
    | .notFinite => .fail .notFinite
    | .fraction => .fail .integerFraction
    | .int n => if -wordLimit < n && n < wordLimit then .ok n else .fail .integerTooLong
  | _ => .fail .integer

/-- An integer not below `low`. -/
def Read.integerFrom (low : Int) (v : Value) : Read Int :=
  match Read.integer v with
  | .ok n => if n < low then .fail (.atLeast low) else .ok n
  | .error e => .error e

/-- An integer from `low` to `high`. -/
def Read.integerWithin (low high : Int) (v : Value) : Read Int :=
  match Read.integer v with
  | .ok n =>
    if high < n then .fail (.atMost high) else if n < low then .fail (.atLeast low) else .ok n
  | .error e => .error e

def trueWords : List String := ["1", "on", "t", "true", "y", "yes"]

def falseWords : List String := ["0", "off", "f", "false", "n", "no"]

def Read.booleanOfText (s : String) : Read Bool :=
  let word := String.ofList (s.toList.map Char.toLower)
  if trueWords.contains word then .ok true
  else if falseWords.contains word then .ok false
  else .fail .booleanText

def Read.booleanOfInt (n : Int) : Read Bool :=
  if n = 0 then .ok false else if n = 1 then .ok true else .fail .booleanText

def Read.boolean : Value → Read Bool
  | .bool b => .ok b
  | .str s => Read.booleanOfText s
  | .bytes l =>
    match Text.Utf8.decode l with
    | .ok s => Read.booleanOfText s
    | .error _ => .fail .booleanText
  | .int n => if -wordLimit ≤ n && n < wordLimit then Read.booleanOfInt n else .fail .boolean
  | .float x =>
    match Whole.ofFloat x with
    | .int n => if -wordLimit < n && n < wordLimit then Read.booleanOfInt n else .fail .boolean
    | _ => .fail .boolean
  | _ => .fail .boolean

def Read.path (v : Value) : Read Files.Path :=
  match Read.text v with
  | .ok s => .ok (.ofText s)
  | .error _ => .fail .path

/-- Null is no value. -/
def Read.optional {α : Type} (f : Value → Read α) : Value → Read (Option α)
  | .null => .ok none
  | v => (f v).map some

/-- The value under a key of a record, or the default; faults are at the key. -/
def Read.field {α : Type} (es : List (Value × Value)) (key : String) (f : Value → Read α)
    (default : α) : Read α :=
  match Value.lookup es key with
  | some v => Read.at key (f v)
  | none => .ok default

/-- The value under the first of the keys that a record has, or the default. -/
def Read.firstField {α : Type} (es : List (Value × Value)) (keys : List String)
    (f : Value → Read α) (default : α) : Read α :=
  match keys.find? fun k => (Value.lookup es k).isSome with
  | some k => Read.field es k f default
  | none => .ok default

/-- How a key is shown in a place. -/
def keyText (k : Value) : String :=
  match k with
  | .bool b => if b then "1" else "0"
  | k => (if let .str s := k then some s else k.inner?).getD ""

/-- A mapping from texts; faults of a key carry the mark `[key]`. Of keys with one text the last
one has the value, in the place of the first. -/
def Read.dictionary {α : Type} (f : Value → Read α) : Value → Read (List (String × α))
  | .map es => entries es
  | _ => .fail .dictionary
where
  entries : List (Value × Value) → Read (List (String × α))
    | [] => .ok []
    | (k, v) :: es =>
      let key := Read.at (keyText k) (Read.at "[key]" (Read.text k))
      let entry := Read.both key (Read.at (keyText k) (f v))
      (Read.both entry (entries es)).map fun ((name, w), rest) =>
        (name, (rest.lookup name).getD w) :: rest.filter (·.1 ≠ name)

end Sieve.Schema
