import Sieve.Command.Usage
import Sieve.Log.Journal
import Sieve.Selection.Select

/-!
The run of a command: what it prints and reports, and how it ends. It may end at any step, and
what has been printed by then stays.
-/

namespace Sieve.Command

open Log

/-- What is written beside the output: plain text, or an event. -/
inductive Notice where
  | text (s : String)
  | event (e : Event)

/-- A fault that a command does not handle. -/
inductive Crash where
  | load (f : Settings.LoadFault)
  | sink (f : SinkFault)
  | select (f : Selection.SelectFault)
  | spec (f : Spec.Failure)
  /-- A module refused an event. -/
  | event

def Crash.message : Crash → String
  | load f => f.message
  | sink f => f.message
  | select f => f.message
  | spec f => f.message
  | event => "a module refused an event"

/-- How a command ends before its last step. -/
inductive Ending where
  | exit (code : Nat)
  | usage (f : UsageFault)
  | crash (c : Crash)

/-- What a run has printed and set up so far. -/
structure Console where
  out : List String
  notices : List Notice
  setup : Setup
  tree : Files.Tree

/-- The files that events are written to. -/
def Console.logFiles (c : Console) : List Files.Path := c.setup.sinks.filterMap Sink.file?

abbrev Session (α : Type) := ExceptT Ending (StateM Console) α

namespace Session

/-- Prints a line of output. -/
def print (line : String) : Session Unit := modify fun c => { c with out := c.out ++ [line] }

def note (n : Notice) : Session Unit := modify fun c => { c with notices := c.notices ++ [n] }

/-- Prints a line beside the output. -/
def warn (line : String) : Session Unit := note (.text line)

def exit {α : Type} (code : Nat) : Session α := throw (.exit code)

def crash {α : Type} (c : Crash) : Session α := throw (.crash c)

/-- Ends with a message about what is wrong. -/
def fail {α : Type} (message : String) : Session α := do
  warn s!"Error: {message}"
  exit 2

/-- Writes an event to all that the setup names. -/
def write (e : Event) : Session Unit := do
  note (.event e)
  modify fun c => { c with tree := c.setup.record c.tree e }

/-- Lets a record take its way. -/
def emit (stamp : Stamp) (r : Record) : Session Unit := do
  let c ← get
  match c.setup.emit stamp r.logger r.level.number r.message with
  | .silent => pure ()
  | .refused => crash .event
  | .bare message => warn message
  | .written e => write e

def emitAll (stamp : Stamp) : List Record → Session Unit
  | [] => pure ()
  | r :: rs => do
    emit stamp r
    emitAll stamp rs

/-- The value of a run once its records have taken their way. -/
def report {α : Type} (stamp : Stamp) (x : Logged α) : Session α := do
  emitAll stamp x.records
  return x.value

/-- Sets the log up. -/
def configure (cwd : Files.Path) (r : SetupRequest) : Session (Option SinkFault) := do
  let c ← get
  let (u, t, fault) := c.setup.configure c.tree cwd r
  set { c with setup := u, tree := t }
  return fault

end Session

end Sieve.Command
