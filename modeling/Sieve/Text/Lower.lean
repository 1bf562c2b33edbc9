import Sieve.Text.CaseTable

/-!
Small letters. Every capital has one, whatever stands around it, but two: the dotted capital I,
whose small form is two characters, and the capital sigma, which is written differently at the
end of a word.
-/

namespace Sieve.Text

/-- Some closed range of the list holds the number. -/
def inRanges (n : Nat) : List (Nat × Nat) → Bool
  | [] => false
  | (a, b) :: r => if n < a then false else if n ≤ b then true else inRanges n r

/-- Letters with case. -/
def isCased (c : Char) : Bool := inRanges c.toNat casedRanges

/-- Characters passed over when the neighbouring letter is looked for. -/
def isCaseIgnorable (c : Char) : Bool := inRanges c.toNat caseIgnorableRanges

/-- The small letter found in the runs, or the character itself. -/
def lowerByRuns (c : Char) : List CaseRun → Char
  | [] => c
  | r :: rs =>
    let n := c.toNat
    if n < r.first then c
    else if n ≤ r.last && (n - r.first) % r.step == 0 then Char.ofNat ((n : Int) + r.delta).toNat
    else lowerByRuns c rs

/-- The small letter of a character that has one wherever it stands. -/
def lowerChar (c : Char) : Char :=
  if c.toNat < 0x80 then c.toLower else lowerByRuns c caseRuns

/-- The next character that counts is a letter with case. -/
def meetsCased : List Char → Bool
  | [] => false
  | c :: r => if isCaseIgnorable c then meetsCased r else isCased c

/-- Small letters of `l`, where `before` is what precedes it, nearest first. A sigma is final
after a letter and before none. -/
def lowerFrom (before : List Char) : List Char → List Char
  | [] => []
  | c :: r =>
    let small :=
      if c = 'Σ' then [if meetsCased before && !meetsCased r then 'ς' else 'σ']
      else if c = 'İ' then ['i', '\u0307']
      else [lowerChar c]
    small ++ lowerFrom (c :: before) r

/-- The text in small letters. -/
def lower (s : String) : String := String.ofList (lowerFrom [] s.toList)

/-- Capitals of a character, as far as they are ASCII: `ı`, `ſ`, `ß` and the joined letters
have such capitals too. -/
def upperChar (c : Char) : List Char :=
  if c = 'ı' then ['I']
  else if c = 'ſ' then ['S']
  else if c = 'ß' then ['S', 'S']
  else if c = '\ufb00' then ['F', 'F']
  else if c = '\ufb01' then ['F', 'I']
  else if c = '\ufb02' then ['F', 'L']
  else if c = '\ufb03' then ['F', 'F', 'I']
  else if c = '\ufb04' then ['F', 'F', 'L']
  else if c = '\ufb05' then ['S', 'T']
  else if c = '\ufb06' then ['S', 'T']
  else [c.toUpper]

/-- The text in capitals, for comparison with names written in ASCII capitals. -/
def upper (s : String) : String := String.ofList (s.toList.flatMap upperChar)

end Sieve.Text
