import Sieve.Text.Lower
import Sieve.Text.PrintTable

/-!
A text in quotes on one line, as it stands in messages: quotes, backslashes and characters
without a printed shape are spelled out.
-/

namespace Sieve.Text

/-- The digit of a number below 16. -/
def hexDigit (n : Nat) : Char :=
  if n < 10 then Char.ofNat (0x30 + n) else Char.ofNat (0x57 + n)

/-- The last `width` hexadecimal digits of a number. -/
def hexDigits : (width : Nat) → Nat → List Char
  | 0, _ => []
  | w + 1, n => hexDigits w (n / 16) ++ [hexDigit (n % 16)]

/-- The character has a printed shape. -/
def isPrintable (c : Char) : Bool :=
  if c.toNat < 0x7f then 0x20 ≤ c.toNat else !inRanges c.toNat unprintableRanges

/-- A character spelled with a backslash, in the shortest of the forms that can hold it. -/
def escapeChar (c : Char) : List Char :=
  if c = '\n' then ['\\', 'n']
  else if c = '\r' then ['\\', 'r']
  else if c = '\t' then ['\\', 't']
  else
    let n := c.toNat
    if n < 0x100 then '\\' :: 'x' :: hexDigits 2 n
    else if n < 0x10000 then '\\' :: 'u' :: hexDigits 4 n
    else '\\' :: 'U' :: hexDigits 8 n

/-- A character inside quotes of the kind `q`. -/
def quoteChar (q c : Char) : List Char :=
  if c = q || c = '\\' then ['\\', c]
  else if isPrintable c then [c]
  else escapeChar c

/-- Single quotes, unless the text holds one and no double quote. -/
def quoteFor (l : List Char) : Char :=
  if l.contains '\'' && !l.contains '"' then '"' else '\''

/-- The text in quotes. -/
def quoted (s : String) : String :=
  let l := s.toList
  let q := quoteFor l
  String.ofList (q :: l.flatMap (quoteChar q) ++ [q])

end Sieve.Text
