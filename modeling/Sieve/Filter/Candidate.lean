import Sieve.Filter.Decision

/-!
Tests that may run. A set of tags is a list without repetitions.
-/

namespace Sieve

/-- A list without its repetitions; the first of equals stays. -/
def distinct (l : List String) : List String :=
  l.foldl (fun acc x => if acc.contains x then acc else acc ++ [x]) []

/-- All tags of both sets. -/
def unionTags (a b : List String) : List String := distinct (a ++ b)

/-- Tags in ascending order of their characters. -/
def sortedTags (l : List String) : List String := (distinct l).mergeSort (fun a b => !(b < a))

structure Candidate where
  title : String
  tags : List String
  /-- Own tags and those of the suites around. -/
  effectiveTags : List String
  requiredTags : List String
deriving DecidableEq, Repr, Inhabited

namespace Candidate

/-- A candidate whose own tags are among those that apply to it. -/
def make (title : String) (tags effective required : List String) : Candidate :=
  { title, tags := distinct tags, effectiveTags := unionTags tags effective,
    requiredTags := distinct required }

def subject (c : Candidate) : Subject :=
  { title := c.title, tags := c.effectiveTags, isRequired := !c.requiredTags.isEmpty }

end Candidate

namespace Filter

def admitsCandidate (f : Filter) (untaggedPass : Bool) (c : Candidate) : Bool :=
  f.admits c.subject untaggedPass

/-- The candidates that run, in their order. -/
def select (f : Filter) (cs : List Candidate) (untaggedPass : Bool) : List Candidate :=
  cs.filter (f.admitsCandidate untaggedPass)

end Filter

end Sieve
