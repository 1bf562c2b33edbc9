import Sieve.Log.Correlation

/-!
Contexts as things of their own. A context keeps the id from before it was entered, and brings that
id back when it is left, whatever the current id is by then. Ids may also be set outside of any
context.
-/

namespace Sieve.Log

/-- A context with its id; the number tells it from all others. -/
structure Context where
  number : Nat
  id : String
deriving DecidableEq, Repr

/-- A new context has the id that is given, or a generated one if none or an empty one is given. -/
def Context.make (number : Nat) (given : Option String) (generated : String) : Context :=
  ⟨number, (given.filter (!·.isEmpty)).getD generated⟩

/-- The current id, and the ids that contexts keep under their numbers. -/
structure Contexts where
  current : Option String
  kept : List (Nat × Option String)
deriving DecidableEq, Repr

/-- What is done with contexts and ids. -/
inductive Turn where
  | enter (x : Context)
  | leave (number : Nat)
  | set (id : Option String)
deriving DecidableEq, Repr

namespace Contexts

def enter (s : Contexts) (x : Context) : Contexts :=
  ⟨some x.id, (x.number, s.current) :: s.kept⟩

/-- Leaves a context that keeps an id. It brings that id back once. -/
def leave? (s : Contexts) (number : Nat) : Option Contexts :=
  (s.kept.lookup number).map fun id => ⟨id, s.kept.filter (·.1 != number)⟩

def turn (s : Contexts) : Turn → Option Contexts
  | .enter x => some (s.enter x)
  | .leave number => s.leave? number
  | .set id => some { s with current := id }

/-- Turns one after the other. -/
def run (s : Contexts) (l : List Turn) : Option Contexts := l.foldlM turn s

end Contexts

namespace Correlation

/-- A turn if contexts are left in the order of their stack, whatever their numbers. -/
def turn (c : Correlation) : Turn → Option Correlation
  | .enter x => some (c.enter x.id)
  | .leave _ => c.leave?
  | .set id => some (c.set id)

def run (c : Correlation) (l : List Turn) : Option Correlation := l.foldlM turn c

end Correlation

end Sieve.Log
