/-!
How alike two words are. Of the longest stretches of characters that both hold, the one furthest
to the left is matched; then the same is done with what stands before it in both words and what
stands behind it.
-/

namespace Sieve.Text

/-- The length of the common beginning. -/
def sharedStart : List Char → List Char → Nat
  | a :: l, b :: m => if a = b then sharedStart l m + 1 else 0
  | _, _ => 0

/-- A stretch that two words share: its start in each of them and its length. -/
structure Stretch where
  first : Nat
  second : Nat
  length : Nat
deriving DecidableEq, Repr

/-- The better of a stretch and the one that starts at a pair of places. -/
def Stretch.orLonger (s : Stretch) (l m : List Char) (i j : Nat) : Stretch :=
  let k := sharedStart (l.drop i) (m.drop j)
  if s.length < k then ⟨i, j, k⟩ else s

/-- The longest stretch, and of several the one that starts first. -/
def longestStretch (l m : List Char) : Stretch :=
  (List.range l.length).foldl
    (fun s i => (List.range m.length).foldl (fun s j => s.orLonger l m i j) s) ⟨0, 0, 0⟩

/-- How many characters are matched, as long as the words get shorter. -/
def matchedWithin : Nat → List Char → List Char → Nat
  | 0, _, _ => 0
  | fuel + 1, l, m =>
    let s := longestStretch l m
    if s.length = 0 then 0
    else
      matchedWithin fuel (l.take s.first) (m.take s.second) + s.length +
        matchedWithin fuel (l.drop (s.first + s.length)) (m.drop (s.second + s.length))

/-- How many characters of two words are matched. -/
def matched (l m : List Char) : Nat := matchedWithin (l.length + 1) l m

/-- Two words of the given matched and total length are alike: three fifths are matched. -/
def isAlike (common total : Nat) : Bool := 3 * total ≤ 10 * common

/-- A word with its likeness: matched characters and all characters of both words. -/
structure Likeness where
  word : String
  common : Nat
  total : Nat

/-- The first is more alike; of equals the later one in the order of words is first. -/
def Likeness.before (a b : Likeness) : Bool :=
  if a.common * b.total = b.common * a.total then !(a.word < b.word)
  else b.common * a.total < a.common * b.total

/-- At most three of the words, those that are most alike first. -/
def similarTo (word : String) (words : List String) : List String :=
  let all : List Likeness := words.map fun w =>
    ⟨w, matched w.toList word.toList, w.length + word.length⟩
  ((all.filter fun x => isAlike x.common x.total).mergeSort Likeness.before).take 3
    |>.map (·.word)

end Sieve.Text
