import Sieve.Command.Run

/-!
What a run reaches among the files. The command line and the places of settings are known at
once; the settings name the folders that are searched, and the search finds the files to read.
-/

namespace Sieve.Command

open Files

/-- The values and operands on a command line. -/
def words (args : List String) : List String :=
  let read (r : Reader) (l : List String) : Arguments :=
    ((Arguments.read r.options (r != .program) l).toOption).getD ⟨[], []⟩
  let outer := read .program args
  let inner : Arguments :=
    match outer.operands with
    | [] => ⟨[], []⟩
    | word :: rest => ((Name.ofText? word).map fun n => read (.command n) rest).getD ⟨[], []⟩
  (outer.given ++ inner.given).filterMap (·.value) ++ inner.operands

/-- The places that count before the settings are known. -/
def firstPlaces (cwd : Path) (args : List String) : List Path :=
  ⟨.here, [Settings.envFileName]⟩ :: (words args).map .ofText ++ Settings.ConfigFile.places cwd

/-- The entries that the options of a task give to the settings, if it needs settings. -/
def Task.entries? : Task → Option (List (Value × Value))
  | .version | .parse .. => none
  | .select r => some r.entries
  | .list _ => some []

def Task.searches : Task → Bool
  | .select _ => true
  | _ => false

/-- The task of a command line with its settings. -/
def planned? (w : Surroundings) (args : List String) : Option (Task × Settings) := do
  match Invocation.read ⟨w.tree, w.cwd⟩ args with
  | .ok (.run manner task) =>
    let s ← (Settings.load w manner.config (← task.entries?)).value.toOption
    return (task, s)
  | _ => none

/-- The search of a run. -/
def search? (w : Surroundings) (args : List String) : Option Search := do
  let (task, s) ← planned? w args
  if task.searches then return Selection.searchOf s (← s.options.toOption) w.cwd else none

/-- The file that the settings name for the log. -/
def logFile? (w : Surroundings) (args : List String) : Option Path := do
  let (_, s) ← planned? w args
  return .ofText (← s.logging.file)

/-- The files that a search finds, as far as the tree is known. -/
def foundFiles (w : Surroundings) (s : Search) : List Path :=
  (s.run w.tree).toOption.elim [] (·.files)

end Sieve.Command
