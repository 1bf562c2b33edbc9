import Sieve.Decimal.Read
import Sieve.Text.Blank
import Sieve.Yaml.Cursor
import Sieve.Yaml.Node

/-!
What a plain scalar is, by its text. The first of the types that admits the text counts: truth
value, float, integer, merge mark, null, timestamp, value mark; all other texts are strings.
-/

namespace Sieve.Yaml

open Decimal

inductive ScalarType where
  | null
  | bool
  | int
  | float
  | timestamp
  | merge
  | value
  | str
deriving DecidableEq, Repr

namespace ScalarType

/-- The text after an optional sign. -/
def unsigned : List Char → List Char
  | '-' :: r => r
  | '+' :: r => r
  | r => r

/-- A list of one or more elements that all satisfy `p`. -/
def some1 (p : Char → Bool) (l : List Char) : Bool := !l.isEmpty && l.all p

def isDigitOrUnderscore (c : Char) : Bool := isDigit c || c = '_'

/-- Digits and underscores, a digit first. -/
def isNumberRun : List Char → Bool
  | [] => false
  | c :: r => isDigit c && r.all isDigitOrUnderscore

/-- An exponent; in the older rules its sign cannot be left out. -/
def isExponent (signRequired : Bool) : List Char → Bool
  | e :: r =>
    (e = 'e' || e = 'E') &&
      match r with
      | '-' :: ds => some1 isDigit ds
      | '+' :: ds => some1 isDigit ds
      | ds => !signRequired && some1 isDigit ds
  | [] => false

/-- Nothing, or an exponent. -/
def mayBeExponent (signRequired : Bool) (l : List Char) : Bool :=
  l.isEmpty || isExponent signRequired l

def beforeChar (c : Char) (l : List Char) : List Char := l.takeWhile (· ≠ c)

def afterChar (c : Char) (l : List Char) : List Char := (l.dropWhile (· ≠ c)).drop 1

/-- Digits, a point, digits that may be missing, and perhaps an exponent. -/
def isPointed (signRequired : Bool) (l : List Char) : Bool :=
  l.contains '.' && isNumberRun (beforeChar '.' l) &&
    mayBeExponent signRequired ((afterChar '.' l).dropWhile isDigitOrUnderscore)

/-- Digits and an exponent without a point. -/
def isScaled (l : List Char) : Bool :=
  let digits := l.takeWhile isDigitOrUnderscore
  isNumberRun digits && isExponent false (l.drop digits.length)

/-- A point, digits and perhaps an exponent; the first character behind the point may be held
to be a digit. -/
def isBarePointed (digitFirst : Bool) : List Char → Bool
  | '.' :: r =>
    let digits := r.takeWhile isDigitOrUnderscore
    (if digitFirst then isNumberRun digits else !digits.isEmpty) &&
      mayBeExponent true (r.drop digits.length)
  | _ => false

/-- A part of a number in base sixty: below 60, with one or two digits. -/
def isSixtieth : List Char → Bool
  | [c] => isDigit c
  | [c, d] => '0' ≤ c && c ≤ '5' && isDigit d
  | _ => false

/-- Parts between colons: a number, then sixtieths. -/
def isSexagesimal (head : List Char → Bool) (l : List Char) : Bool :=
  match Text.splitOn ':' l with
  | first :: second :: rest => head first && (second :: rest).all isSixtieth
  | _ => false

def isSexagesimalFloat (l : List Char) : Bool :=
  l.contains '.' && isSexagesimal isNumberRun (beforeChar '.' l) &&
    (afterChar '.' l).all isDigitOrUnderscore

def infinities : List String := [".inf", ".Inf", ".INF"]

def notNumbers : List String := [".nan", ".NaN", ".NAN"]

def isOneOf (words : List String) (l : List Char) : Bool := words.contains (String.ofList l)

def isFloat (d : Dialect) (l : List Char) : Bool :=
  let u := unsigned l
  let common := isOneOf infinities u || isOneOf notNumbers l
  if !d.isSpec then
    common || isPointed true u || isBarePointed true l || isSexagesimalFloat u
  else if d.isOld then
    common || isPointed false u || isScaled u || isBarePointed false l || isSexagesimalFloat u
  else common || isPointed false u || isScaled u || isBarePointed false u

def isOctal (c : Char) : Bool := '0' ≤ c && c ≤ '7'

def isHexOrUnderscore (c : Char) : Bool := (hexValue? c).isSome || c = '_'

/-- A number without leading zeros. -/
def isWhole : List Char → Bool
  | ['0'] => true
  | c :: r => '1' ≤ c && c ≤ '9' && r.all isDigitOrUnderscore
  | [] => false

def startsNonZero : List Char → Bool
  | c :: r => '1' ≤ c && c ≤ '9' && r.all isDigitOrUnderscore
  | [] => false

/-- Integers begin with a sign or a digit. -/
def beginsNumber : List Char → Bool
  | c :: _ => c = '-' || c = '+' || isDigit c
  | [] => false

def isInt (d : Dialect) (l : List Char) : Bool :=
  let u := unsigned l
  let based :=
    match u with
    | '0' :: 'b' :: r => some1 (fun c => c = '0' || c = '1' || c = '_') r
    | '0' :: 'x' :: r => some1 isHexOrUnderscore r
    | _ => false
  let octal (r : List Char) := some1 (fun c => isOctal c || c = '_') r
  let zeroOctal :=
    match u with
    | '0' :: r => octal r
    | _ => false
  let letterOctal :=
    match u with
    | '0' :: 'o' :: r => octal r
    | _ => false
  beginsNumber l &&
    if !d.isSpec then based || zeroOctal || isWhole u || isSexagesimal startsNonZero u
    else if d.isOld then based || octal u || isWhole u || isSexagesimal startsNonZero u
    else based || letterOctal || some1 isDigitOrUnderscore u

def trueWords : List String := ["true", "True", "TRUE"]

def falseWords : List String := ["false", "False", "FALSE"]

def oldBoolWords : List String :=
  ["yes", "Yes", "YES", "no", "No", "NO", "on", "On", "ON", "off", "Off", "OFF"]

def shortBoolWords : List String := ["y", "Y", "n", "N"]

def isBool (d : Dialect) (l : List Char) : Bool :=
  isOneOf trueWords l || isOneOf falseWords l || (d.isOld && isOneOf oldBoolWords l) ||
    (d.isSpec && d.isOld && isOneOf shortBoolWords l)

def isNull (l : List Char) : Bool := isOneOf ["", "~", "null", "Null", "NULL"] l

end ScalarType

/-- The parts of a timestamp as written. -/
structure TimestampParts where
  year : List Char
  month : List Char
  day : List Char
  /-- The mark `T` or `t` stands between date and time. -/
  hasMark : Bool
  /-- Hour, minute and second. -/
  time : Option (List Char × List Char × List Char)
  fraction : List Char
  isUtc : Bool
  /-- Sign, hours and minutes of an offset. -/
  offset : Option (Char × List Char × List Char)
deriving Repr

namespace TimestampParts

/-- Between `least` and `most` digits, as many as there are. -/
def digits? (least most : Nat) (l : List Char) : Option (List Char × List Char) :=
  let ds := (l.take most).takeWhile Decimal.isDigit
  if ds.length < least then none else some (ds, l.drop ds.length)

/-- The rest after a character. -/
def expect? (c : Char) : List Char → Option (List Char)
  | [] => none
  | d :: r => if c = d then some r else none

def isTimeBlank (c : Char) : Bool := c = ' ' || c = '\t'

/-- The zone at the end of a timestamp. -/
def zone? (l : List Char) : Option (Bool × Option (Char × List Char × List Char)) :=
  match l with
  | [] => some (false, none)
  | _ =>
    match l.dropWhile isTimeBlank with
    | ['Z'] => some (true, none)
    | sign :: r =>
      if sign = '-' || sign = '+' then do
        let (hours, r) ← digits? 1 2 r
        match r with
        | [] => some (false, some (sign, hours, []))
        | r => do
          let (minutes, r) ← digits? 2 2 (← expect? ':' r)
          if r.isEmpty then some (false, some (sign, hours, minutes)) else none
      else none
    | [] => none

/-- The parts of a date with an optional time. -/
def ofText? (l : List Char) : Option TimestampParts := do
  let (year, r) ← digits? 4 4 l
  let (month, r) ← digits? 1 2 (← expect? '-' r)
  let (day, r) ← digits? 1 2 (← expect? '-' r)
  match r with
  | [] => some ⟨year, month, day, false, none, [], false, none⟩
  | c :: rest =>
    let hasMark := c = 'T' || c = 't'
    let r := if hasMark then rest else r.dropWhile isTimeBlank
    if !hasMark && !isTimeBlank c then none
    else do
      let (hour, r) ← digits? 1 2 r
      let (minute, r) ← digits? 2 2 (← expect? ':' r)
      let (second, r) ← digits? 2 2 (← expect? ':' r)
      let (fraction, r) :=
        match r with
        | '.' :: r => (r.takeWhile Decimal.isDigit, r.dropWhile Decimal.isDigit)
        | r => ([], r)
      let (isUtc, offset) ← zone? r
      some ⟨year, month, day, hasMark, some (hour, minute, second), fraction, isUtc, offset⟩

/-- A plain date has two digits for its month and two for its day. -/
def isPlain (p : TimestampParts) : Bool :=
  p.time.isSome || (p.month.length = 2 && p.day.length = 2)

end TimestampParts

namespace ScalarType

/-- The type of a plain scalar. -/
def ofText (d : Dialect) (text : String) : ScalarType :=
  let l := text.toList
  if isBool d l then .bool
  else if isFloat d l then .float
  else if isInt d l then .int
  else if text = "<<" then .merge
  else if isNull l then .null
  else if (TimestampParts.ofText? l).any (·.isPlain) then .timestamp
  else if text = "=" then .value
  else .str

end ScalarType

end Sieve.Yaml
