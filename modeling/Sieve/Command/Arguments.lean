import Sieve.Text.Similar

/-!
Options and operands of a command line. An option has long names such as `--grep` and short ones
such as `-c`. A long one takes its value after `=` or from the next argument; short ones without
a value may stand together behind one dash, and one with a value takes the characters behind it.
After `--` all is operands.
-/

namespace Sieve.Command

structure Opt where
  names : List String
  takesValue : Bool
deriving DecidableEq, Repr

/-- An occurrence of an option, by the first of its names, with its value. -/
structure Given where
  name : String
  value : Option String
deriving DecidableEq, Repr

/-- Options in the order in which they stand, and operands. -/
structure Arguments where
  given : List Given
  operands : List String
deriving DecidableEq, Repr

/-- Why arguments cannot be read. -/
inductive ArgumentFault where
  | noOption (name : String) (similar : List String)
  | needsValue (name : String)
  | takesNoValue (name : String)
deriving DecidableEq, Repr

namespace Opt

def key (o : Opt) : String := o.names.headD ""

/-- A name with a single dash and a single character. -/
def isShort (name : String) : Bool :=
  match name.toList with
  | ['-', c] => c != '-'
  | _ => false

def longNames (opts : List Opt) : List String :=
  (opts.flatMap (·.names)).filter fun n => !isShort n

def find? (opts : List Opt) (name : String) : Option Opt := opts.find? (·.names.contains name)

end Opt

/-- What a single argument is. -/
inductive Argument where
  | operand
  /-- The mark after which all is operands. -/
  | mark
  | options (given : List Given)
  /-- Options, the last of which takes the next argument. -/
  | waiting (given : List Given) (name key : String)
deriving DecidableEq, Repr

namespace Argument

/-- The options that the characters behind a dash spell. -/
def ofShort (opts : List Opt) (before : List Given) : List Char → Except ArgumentFault Argument
  | [] => .ok (options before)
  | c :: r =>
    let name := String.ofList ['-', c]
    match Opt.find? opts name with
    | none => .error (.noOption name [])
    | some o =>
      if !o.takesValue then ofShort opts (before ++ [⟨o.key, none⟩]) r
      else if r.isEmpty then .ok (waiting before name o.key)
      else .ok (options (before ++ [⟨o.key, some (String.ofList r)⟩]))

/-- The option with a long name and perhaps a value. -/
def ofLong (o : Opt) (name : String) (value : Option String) : Except ArgumentFault Argument :=
  match value with
  | some v =>
    if o.takesValue then .ok (options [⟨o.key, some v⟩]) else .error (.takesNoValue name)
  | none => .ok (if o.takesValue then waiting [] name o.key else options [⟨o.key, none⟩])

/-- The name in front of the first `=` and the value behind it. -/
def splitValue (arg : String) : String × Option String :=
  let l := arg.toList
  match l.dropWhile (· != '=') with
  | [] => (arg, none)
  | _ :: value => (String.ofList (l.takeWhile (· != '=')), some (String.ofList value))

def read (opts : List Opt) (arg : String) : Except ArgumentFault Argument :=
  match arg.toList with
  | ['-', '-'] => .ok mark
  | '-' :: c :: r =>
    let (name, value) := splitValue arg
    match if Opt.isShort name then none else Opt.find? opts name with
    | some o => ofLong o name value
    | none =>
      if c = '-' then .error (.noOption name (Text.similarTo name (Opt.longNames opts)))
      else ofShort opts [] (c :: r)
  | _ => .ok operand

end Argument

namespace Arguments

def withGiven (g : List Given) (a : Arguments) : Arguments := { a with given := g ++ a.given }

def withOperand (s : String) (a : Arguments) : Arguments :=
  { a with operands := s :: a.operands }

/-- Reads arguments. If options may not stand behind operands, all that follows the first operand
is operands. -/
def read (opts : List Opt) (mixed : Bool) : List String → Except ArgumentFault Arguments
  | [] => .ok ⟨[], []⟩
  | arg :: rest => do
    match ← Argument.read opts arg with
    | .mark => return ⟨[], rest⟩
    | .operand =>
      if mixed then return (← read opts mixed rest).withOperand arg
      else return ⟨[], arg :: rest⟩
    | .options g => return (← read opts mixed rest).withGiven g
    | .waiting g name key =>
      match rest with
      | [] => throw (.needsValue name)
      | v :: rest => return (← read opts mixed rest).withGiven (g ++ [⟨key, some v⟩])

/-- The value of the last occurrence of an option. -/
def value? (a : Arguments) (name : String) : Option String :=
  (a.given.filter (·.name = name)).getLast?.bind (·.value)

/-- The values of all occurrences. -/
def values (a : Arguments) (name : String) : List String :=
  (a.given.filter (·.name = name)).filterMap (·.value)

def has (a : Arguments) (name : String) : Bool := a.given.any (·.name = name)

/-- The options that stand there, each once, in the order of their first occurrences. -/
def order (a : Arguments) : List String := (a.given.map (·.name)).eraseDups

end Arguments

end Sieve.Command
