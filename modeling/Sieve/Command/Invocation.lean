import Sieve.Command.Usage
import Sieve.Decimal.Numeral
import Sieve.Files.Tree

/-!
Command lines that fit the commands. Values are checked in the order of the options on the line,
operands after them; a plea for help comes before all checks. No argument holds a null character.
-/

namespace Sieve.Command

open Files

/-- Where a command line is read. -/
structure Site where
  tree : Tree
  cwd : Path

structure SelectRequest where
  title : Option String
  tags : Option String
  patterns : List String
  excludes : List String
  folder : Option Path
  workers : Option Int
deriving DecidableEq, Repr

structure ListRequest where
  file : Path
  title : Option String
  tags : Option String
  untagged : Bool
  /-- How often each test would run. -/
  burn : Option Int
deriving DecidableEq, Repr

inductive Task where
  | version
  | parse (title tags : Option String)
  | select (r : SelectRequest)
  | list (r : ListRequest)
deriving DecidableEq, Repr

/-- What holds for all commands. -/
structure Manner where
  config : Option Path
  verbose : Bool
deriving DecidableEq, Repr

inductive Invocation where
  /-- A help page is asked for. -/
  | help (r : Reader)
  | version
  | run (manner : Manner) (task : Task)
deriving DecidableEq, Repr

namespace Site

/-- What a path leads to. One that ends in a slash leads to no file. -/
def find? (w : Site) (text : String) : Option Tree :=
  let path := Path.ofText text
  if text.isEmpty then none
  else if (Text.pieces '/' text).getLast? ∈ [some "", some "."] then
    (w.tree.find? (w.cwd.join path)).filter (·.isDir)
  else w.tree.find? (w.cwd.join path)

/-- What is said of a path that leads to nothing, or to something else than it should. -/
def refusal? (w : Site) (noun : String) (files dirs : Bool) (text : String) : Option String :=
  let shown := s!"{noun} {Text.quoted text}"
  match w.find? text with
  | none => some s!"{shown} does not exist."
  | some (.file _) => if files then none else some s!"{shown} is a file."
  | some (.dir _) => if dirs then none else some s!"{shown} is a directory."

end Site

/-- What is said of a text that is no integer. -/
def integerRefusal? (noun text : String) : Option String :=
  if (Decimal.readInt? text).isSome then none
  else some s!"{Text.quoted text} is not a valid {noun}."

/-- A count is an integer from one on. -/
def countRefusal? (text : String) : Option String :=
  match Decimal.readInt? text with
  | none => integerRefusal? "integer range" text
  | some n => if 1 ≤ n then none else some s!"{n} is not in the range x>=1."

/-- What is said of the value of an option. -/
def Site.optionRefusal? (w : Site) (name text : String) : Option String :=
  match name with
  | "--config" => w.refusal? "Path" true true text
  | "--integration-folder" => w.refusal? "Directory" false true text
  | "--parallel" => integerRefusal? "integer" text
  | "--burn" => countRefusal? text
  | _ => none

/-- The fault of an option's last value. -/
def Site.optionFault? (w : Site) (r : Reader) (a : Arguments) (name : String) :
    Option UsageFault := do
  let reason ← w.optionRefusal? name (← a.value? name)
  let o ← Opt.find? r.options name
  return .badValue r o.names reason

/-- The answer to a plea for help or for the version, if one stands there. -/
def plea? (r : Reader) (a : Arguments) : Option Invocation :=
  (a.order.find? fun n => n = "--help" || n = "--version").map fun n =>
    if n = "--help" then .help r else .version

/-- Goes on with the arguments that a reader has read, unless an option asks for something else
or has a bad value. -/
def Site.read (w : Site) (r : Reader) (args : List String)
    (next : Arguments → Except UsageFault Invocation) : Except UsageFault Invocation := do
  let a ← (Arguments.read r.options (r != .program) args).mapError (.ofArguments r)
  match plea? r a, a.order.findSome? (w.optionFault? r a) with
  | some x, _ => return x
  | none, some f => throw f
  | none, none => next a

/-- Nothing stands behind the options. -/
def noOperands (r : Reader) (operands : List String) : Except UsageFault Unit :=
  if operands.isEmpty then .ok () else .error (.extra r operands)

/-- The task of `list`. -/
def Site.listTask (w : Site) (a : Arguments) : Except UsageFault Task := do
  let r : Reader := .command .list
  match a.operands with
  | [] => throw (.missing r "SPEC_FILE")
  | file :: rest =>
    match w.refusal? "File" true false file with
    | some reason => throw (.badValue r ["SPEC_FILE"] reason)
    | none => pure ()
    noOperands r rest
    return .list
      { file := .ofText file, title := a.value? "--grep", tags := a.value? "--tags",
        untagged := a.has "--untagged", burn := (a.value? "--burn").bind Decimal.readInt? }

def selectTask (a : Arguments) : Task :=
  .select
    { title := a.value? "--grep", tags := a.value? "--tags",
      patterns := a.values "--spec-pattern", excludes := a.values "--exclude",
      folder := (a.value? "--integration-folder").map .ofText,
      workers := (a.value? "--parallel").bind Decimal.readInt? }

def Site.task (w : Site) (name : Name) (a : Arguments) : Except UsageFault Task := do
  match name with
  | .list => w.listTask a
  | name =>
    noOperands (.command name) a.operands
    return match name with
      | .parse => .parse (a.value? "--grep") (a.value? "--tags")
      | .select => selectTask a
      | _ => .version

/-- The command that a word calls. A word like an option stands there only behind the mark for
operands; then it is read once more as one. -/
def Site.command (w : Site) (word : String) (rest : List String) :
    Except UsageFault (Name ⊕ Invocation) := do
  match Name.ofText? word with
  | some name => return .inl name
  | none =>
    if Text.startsWith word "-" then
      return .inr (← w.read .program (word :: rest) fun _ => throw (.noCommand word))
    else throw (.noCommand word)

/-- The command line that arguments spell. -/
def Invocation.read (w : Site) (args : List String) : Except UsageFault Invocation :=
  w.read .program args fun a => do
    let manner : Manner := ⟨(a.value? "--config").map .ofText, a.has "--verbose"⟩
    match a.operands with
    | [] => return .help .program
    | word :: rest =>
      match ← w.command word rest with
      | .inr x => return x
      | .inl name =>
        w.read (.command name) rest fun a => return .run manner (← w.task name a)

end Sieve.Command
