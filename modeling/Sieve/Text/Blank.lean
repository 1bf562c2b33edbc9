/-!
Blank characters and the cutting of texts: trimming, splitting at a separator, joining.
-/

namespace Sieve.Text

/-- Characters that a trim removes: white space of Unicode and the four separators of ASCII. -/
def isBlank (c : Char) : Bool :=
  let n := c.toNat
  (0x09 ≤ n && n ≤ 0x0d) || (0x1c ≤ n && n ≤ 0x20) || n == 0x85 || n == 0xa0 || n == 0x1680 ||
  (0x2000 ≤ n && n ≤ 0x200a) || n == 0x2028 || n == 0x2029 || n == 0x202f || n == 0x205f ||
  n == 0x3000

/-- The four separators of ASCII. -/
def isSeparator (c : Char) : Bool := 0x1c ≤ c.toNat && c.toNat ≤ 0x1f

/-- The list without its last elements that satisfy `p`. -/
def dropEndWhile {α : Type} (p : α → Bool) (l : List α) : List α :=
  (l.reverse.dropWhile p).reverse

/-- No blank at either end. -/
def trim (l : List Char) : List Char :=
  dropEndWhile isBlank (l.dropWhile isBlank)

/-- The text without the blanks around it. -/
def trimmed (s : String) : String := String.ofList (trim s.toList)

/-- The pieces between the separators; there is one more of them than separators. -/
def splitOn (sep : Char) : List Char → List (List Char)
  | [] => [[]]
  | c :: r =>
    if c = sep then [] :: splitOn sep r
    else
      match splitOn sep r with
      | [] => [[c]]
      | p :: ps => (c :: p) :: ps

/-- The pieces of a text between the separators. -/
def pieces (sep : Char) (s : String) : List String :=
  (splitOn sep s.toList).map String.ofList

/-- `p` stands somewhere in the list. -/
def occursIn (p : List Char) : List Char → Bool
  | [] => p.isEmpty
  | c :: r => p.isPrefixOf (c :: r) || occursIn p r

/-- `part` stands somewhere in `whole`, character for character. -/
def contains (whole part : String) : Bool := occursIn part.toList whole.toList

/-- The text begins with `start`. -/
def startsWith (s start : String) : Bool := start.toList.isPrefixOf s.toList

end Sieve.Text
