import Sieve.Log.Record

/-!
Correlation ids. All records of one run can carry the same id: the id of the context that the
run has entered last. Contexts nest, and leaving one brings back the id from before it.
-/

namespace Sieve.Log

/-- The id that records carry now, and the ids that the open contexts bring back when they are
left, the innermost first. -/
structure Correlation where
  current : Option String
  saved : List (Option String)
deriving DecidableEq, Repr

namespace Correlation

/-- No id, and no open context. -/
def none : Correlation := ⟨.none, []⟩

/-- Another id, whatever contexts are open. -/
def set (c : Correlation) (id : Option String) : Correlation := { c with current := id }

def enter (c : Correlation) (id : String) : Correlation := ⟨some id, c.current :: c.saved⟩

/-- Leaves the innermost context, if one is open. -/
def leave? (c : Correlation) : Option Correlation :=
  match c.saved with
  | [] => .none
  | id :: rest => some ⟨id, rest⟩

/-- Leaves the innermost context; nothing changes if none is open. -/
def leave (c : Correlation) : Correlation := c.leave?.getD c

/-- A run in a context of its own, and the state after it. -/
def within {α : Type} (c : Correlation) (id : String) (x : Logged α) : Logged α × Correlation :=
  let inside := c.enter id
  (x.stamped inside.current, inside.leave)

end Correlation

end Sieve.Log
