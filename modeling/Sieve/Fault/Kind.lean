/-!
Kinds of faults, from the general to the special.
-/

namespace Sieve

inductive FaultKind where
  /-- Any fault that the library reports. -/
  | general
  /-- Settings or options are wrong. -/
  | configuration
  /-- A spec cannot be used. -/
  | loading
  /-- A spec breaks a rule at some place. -/
  | invalid
  /-- A spec is no document. -/
  | unreadable
  /-- A document yields no names or tags. -/
  | extraction
deriving DecidableEq, Repr

namespace FaultKind

def all : List FaultKind := [general, configuration, loading, invalid, unreadable, extraction]

/-- The kind that a kind is a case of. -/
def parent? : FaultKind → Option FaultKind
  | general => none
  | configuration => some general
  | loading => some general
  | invalid => some loading
  | unreadable => some loading
  | extraction => some invalid

/-- The length of the way up to the general kind. -/
def depth : FaultKind → Nat
  | general => 0
  | configuration => 1
  | loading => 1
  | invalid => 2
  | unreadable => 2
  | extraction => 3

/-- A kind is another one, or a case of it. -/
def isA (k l : FaultKind) : Bool :=
  k = l ||
    match _h : k.parent? with
    | some p => p.isA l
    | none => false
termination_by k.depth
decreasing_by cases k <;> simp_all [parent?] <;> subst_vars <;> decide

end FaultKind

end Sieve
