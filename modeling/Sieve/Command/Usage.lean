import Sieve.Command.Arguments
import Sieve.Program
import Sieve.Text.Quoted

/-!
The commands with their options, and what is said of a command line that does not fit them.
-/

namespace Sieve.Command

inductive Name where
  | version
  | parse
  | select
  | list
deriving DecidableEq, Repr

def Name.text : Name → String
  | version => "version"
  | parse => "parse"
  | select => "select"
  | list => "list"

def Name.all : List Name := [version, parse, select, list]

def Name.ofText? (s : String) : Option Name := all.find? (·.text = s)

/-- Who reads arguments: the program itself or one of its commands. -/
inductive Reader where
  | program
  | command (name : Name)
deriving DecidableEq, Repr

namespace Reader

def helpOption : Opt := ⟨["--help"], false⟩

def titleOption : Opt := ⟨["--grep"], true⟩

def tagsOption : Opt := ⟨["--tags"], true⟩

def options : Reader → List Opt
  | program => [⟨["--config", "-c"], true⟩, ⟨["--verbose", "-v"], false⟩, ⟨["--version"], false⟩, helpOption]
  | command .version => [helpOption]
  | command .parse => [titleOption, tagsOption, helpOption]
  | command .select =>
    [titleOption, tagsOption, ⟨["--spec-pattern", "-s"], true⟩, ⟨["--exclude", "-e"], true⟩,
      ⟨["--integration-folder"], true⟩, ⟨["--parallel"], true⟩, helpOption]
  | command .list =>
    [titleOption, tagsOption, ⟨["--untagged"], false⟩, ⟨["--burn"], true⟩, helpOption]

/-- The words that call the reader. -/
def path : Reader → String
  | .program => Sieve.program
  | command name => s!"{Sieve.program} {name.text}"

/-- What may stand behind those words. -/
def shape : Reader → String
  | program => "[OPTIONS] [COMMAND] [ARGS]..."
  | command .list => "[OPTIONS] SPEC_FILE"
  | command _ => "[OPTIONS]"

def usage (r : Reader) : String := s!"Usage: {r.path} {r.shape}"

/-- What the reader is for. -/
def purpose : Reader → String
  | program => "select tests and spec files by title and tag expressions."
  | command .version => "Show specgrep version information."
  | command .parse => "Print the parsed form of a title and/or tag expression as JSON."
  | command .select => "Print the spec files that contain tests matching the filter."
  | command .list => "List the tests of SPEC_FILE that would run under the filter."

def optionLine (o : Opt) : String :=
  let names := ", ".intercalate o.names
  if o.takesValue then s!"  {names} VALUE" else s!"  {names}"

/-- The help page. -/
def help (r : Reader) : List String :=
  let commands :=
    match r with
    | program => ["", "Commands:"] ++ Name.all.map fun n => s!"  {n.text}"
    | command _ => []
  [r.usage, "", s!"  {r.purpose}", "", "Options:"] ++ r.options.map optionLine ++ commands

end Reader

/-- What is wrong with a command line, by the reader that finds it. Some faults are found where no
reader is known. -/
structure UsageFault where
  reader : Option Reader
  message : String
deriving DecidableEq, Repr

namespace UsageFault

def lines (f : UsageFault) : List String :=
  let context :=
    match f.reader with
    | some r => [r.usage, s!"Try '{r.path} --help' for help.", ""]
    | none => []
  context ++ [s!"Error: {f.message}"]

/-- A hint at words of a kind that were perhaps meant. -/
def hint (kind : String) (words : List String) : String :=
  match words with
  | [] => ""
  | [w] => s!" Did you mean {Text.quoted w}?"
  | ws =>
    let names := ", ".intercalate ((ws.mergeSort fun a b => !(b < a)).map Text.quoted)
    s!" (Possible {kind}: {names})"

def ofArguments (r : Reader) (f : ArgumentFault) : UsageFault :=
  match f with
  | .noOption name similar =>
    ⟨some r, s!"No such option {Text.quoted name}." ++ hint "options" similar⟩
  | .needsValue name => ⟨none, s!"Option {Text.quoted name} requires an argument."⟩
  | .takesNoValue name => ⟨none, s!"Option {Text.quoted name} does not take a value."⟩

def noCommand (word : String) : UsageFault :=
  let similar := Text.similarTo word (Name.all.map Name.text)
  ⟨some .program, s!"No such command {Text.quoted word}." ++ hint "commands" similar⟩

/-- Operands that nothing asks for. -/
def extra (r : Reader) (operands : List String) : UsageFault :=
  let noun := if operands.length = 1 then "argument" else "arguments"
  let words := " ".intercalate operands
  ⟨some r, s!"Got unexpected extra {noun} ({words})"⟩

def missing (r : Reader) (operand : String) : UsageFault :=
  ⟨some r, s!"Missing argument {Text.quoted operand}."⟩

/-- A value that is not what its option or operand takes. -/
def badValue (r : Reader) (names : List String) (reason : String) : UsageFault :=
  let shown := " / ".intercalate (names.map Text.quoted)
  ⟨some r, s!"Invalid value for {shown}: {reason}"⟩

end UsageFault

end Sieve.Command
