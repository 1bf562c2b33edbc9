import Sieve.Selection.Prefilter

/-!
The checks of the files side by side. A check waits for a slot, looks at its file and gives the
slot back. Which check goes on next is left open; the answers are gathered in the order of the
files.
-/

namespace Sieve.Selection

open Files Log

/-- How far the check of a file is. It holds a slot from when it runs until it ends. -/
inductive Stage where
  | waiting
  | running
  | answered (r : Except LookFault Bool)
  | ended (r : Except LookFault Bool)

namespace Stage

/-- The number of slots that a check holds. -/
def slots : Stage → Nat
  | waiting => 0
  | running => 1
  | answered _ => 1
  | ended _ => 0

/-- A number summed up over checks. -/
def total (g : Stage → Nat) : List Stage → Nat
  | [] => 0
  | c :: rest => g c + total g rest

def isEnded : Stage → Bool
  | ended _ => true
  | _ => false

/-- Whether the file is kept, once its check has ended without failing. -/
def keep? : Stage → Option Bool
  | ended (.ok b) => some b
  | _ => none

end Stage

/-- The slots that no check holds, and the checks of the files in their order. -/
structure Pool where
  free : Nat
  checks : List Stage

namespace Pool

/-- How many checks hold a slot. -/
def busy (s : Pool) : Nat := Stage.total Stage.slots s.checks

def isDone (s : Pool) : Bool := s.checks.all Stage.isEnded

/-- The answers in the order of the checks, if all have ended and none has failed. -/
def answers? (s : Pool) : Option (List Bool) := s.checks.mapM Stage.keep?

/-- The files that come back: those whose answer, at the same place, is to keep them. -/
def returned? (s : Pool) (files : List Path) : Option (List Path) :=
  s.answers?.map fun answers => ((files.zip answers).filter (·.2)).map (·.1)

end Pool

namespace Prefilter

variable (f : Prefilter) (t : Tree) (cwd : Path) (files : List Path)

/-- No check has begun, and there is a slot for each worker. -/
def pool : Pool := ⟨f.workers, files.map fun _ => .waiting⟩

/-- The next step of one check: it takes a slot if one is free, looks at its file, or gives the
slot back. -/
def advance (s : Pool) (i : Nat) : Option Pool :=
  match files[i]?, s.checks[i]? with
  | some _, some .waiting =>
    if s.free = 0 then none else some ⟨s.free - 1, s.checks.set i .running⟩
  | some p, some .running => some ⟨s.free, s.checks.set i (.answered (f.keeps t cwd p).value)⟩
  | some _, some (.answered r) => some ⟨s.free + 1, s.checks.set i (.ended r)⟩
  | _, _ => none

/-- The steps of the checks in some order, each check named by its place. -/
def schedule (s : Pool) (order : List Nat) : Option Pool := order.foldlM (f.advance t cwd files) s

end Prefilter

end Sieve.Selection
