/-!
Wildcards: a star for any characters of a name, a question mark for one of them, and sets of
characters in brackets. A set is read from left to right: a hyphen between two characters makes a
range of them, and a bracket closes the set unless it stands first.
-/

namespace Sieve.Files

inductive Wild where
  | char (c : Char)
  /-- One character of a name. -/
  | one
  /-- Any characters of a name. -/
  | run
  /-- A character in one of the ranges, or in none of them. -/
  | oneOf (negated : Bool) (ranges : List (Char × Char))
deriving DecidableEq, Repr

namespace Wild

def inSet (negated : Bool) (ranges : List (Char × Char)) (c : Char) : Bool :=
  ranges.any (fun (lo, hi) => lo ≤ c && c ≤ hi) != negated

/-- The wildcard takes this character. -/
def takes (w : Wild) (c : Char) : Bool :=
  match w with
  | char a => a == c
  | one | run => c != '/'
  | oneOf negated ranges => inSet negated ranges c

/-- `k` holds of a rest that begins behind some characters which satisfy `p`. -/
def afterRun (p : Char → Bool) (k : List Char → Bool) : List Char → Bool
  | [] => k []
  | c :: l => k (c :: l) || (p c && afterRun p k l)

/-- The wildcard takes the head of a text, and `k` holds of the rest. -/
def before (w : Wild) (k : List Char → Bool) (l : List Char) : Bool :=
  match w, l with
  | run, l => afterRun run.takes k l
  | w, c :: r => w.takes c && k r
  | _, [] => false

/-- The wildcards take the head of a text, and `k` holds of the rest. -/
def allBefore (ws : List Wild) (k : List Char → Bool) : List Char → Bool := ws.foldr before k

/-- The wildcards take the whole text. -/
def matchesAll (ws : List Wild) (l : List Char) : Bool := allBefore ws List.isEmpty l

/-- The marks that negate a set, and whether a backslash takes the next character as it is. -/
structure Dialect where
  negations : List Char
  hasEscapes : Bool
deriving DecidableEq, Repr

/-- The ranges of a set; a hyphen at either end stands for itself. -/
def rangesOf : List Char → List (Char × Char)
  | a :: '-' :: b :: l => (a, b) :: rangesOf l
  | a :: l => (a, a) :: rangesOf l
  | [] => []

/-- A set behind its opening bracket, without its negation: the content up to a bracket that is
not the first character. -/
def contentOf? (l : List Char) : Option (List Char) :=
  let (first, l) :=
    match l with
    | ']' :: r => ([']'], r)
    | _ => ([], l)
  if l.contains ']' then some (first ++ l.takeWhile (· != ']')) else none

/-- A set behind its opening bracket, with the number of its characters. -/
def setOf? (d : Dialect) (l : List Char) : Option (Wild × Nat) :=
  match l with
  | c :: r =>
    if d.negations.contains c then
      (contentOf? r).map fun content => (oneOf true (rangesOf content), content.length + 2)
    else (contentOf? l).map fun content => (oneOf false (rangesOf content), content.length + 1)
  | [] => none

/-- Reads on behind `skip` characters that belong to the wildcard just read. -/
def ofListFrom? (d : Dialect) (skip : Nat) : List Char → Option (List Wild)
  | [] => if skip = 0 then some [] else none
  | c :: l =>
    match skip with
    | k + 1 => ofListFrom? d k l
    | 0 =>
      match c with
      | '*' => (ofListFrom? d 0 l).map (run :: ·)
      | '?' => (ofListFrom? d 0 l).map (one :: ·)
      | '[' =>
        match setOf? d l with
        | some (w, n) => (ofListFrom? d n l).map (w :: ·)
        | none => (ofListFrom? d 0 l).map (char c :: ·)
      | _ =>
        if d.hasEscapes && c = '\\' then
          (ofListFrom? d 1 l).map (char (l.headD c) :: ·)
        else (ofListFrom? d 0 l).map (char c :: ·)

/-- The wildcards of a pattern; there are none if it ends within an escape. -/
def ofText? (d : Dialect) (s : String) : Option (List Wild) := ofListFrom? d 0 s.toList

/-- The pattern holds a star, a question mark or a bracket. -/
def isWild (s : String) : Bool := s.toList.any fun c => c = '*' || c = '?' || c = '['

end Wild

end Sieve.Files
