import Sieve.Text.Quoted
import Sieve.Text.Utf8

/-!
Faults of YAML texts: a broken rule at a place, a character that no text may hold, bytes that are
no text, or a scalar whose value does not exist.
-/

namespace Sieve.Yaml

/-- A place in a text, counted from zero. -/
structure Mark where
  index : Nat
  line : Nat
  column : Nat
deriving DecidableEq, Repr, Inhabited

/-- What kind of rule a value breaks that is no fault of the notation. -/
inductive Failure where
  | value
  | index
  | key
  | attribute
  | type
  | overflow
  /-- Two comments in one place. -/
  | comment
  /-- Something lies too deep inside something else. -/
  | depth
deriving DecidableEq, Repr

inductive Fault where
  /-- A rule of the notation, with what was being read and what went wrong. -/
  | broken (context : Option String) (contextMark : Option Mark) (problem : Option String)
      (problemMark : Option Mark)
  | character (code : Nat) (position : Nat)
  | undecodable (f : Text.Utf8.Fault)
  | failed (kind : Failure) (message : String)
deriving DecidableEq, Repr

namespace Fault

/-- The stack of a reader is used up. -/
def tooDeep : Fault := .failed .depth "maximum recursion depth exceeded"

/-- The place at which a rule is broken. -/
def place? : Fault → Option Nat
  | broken _ _ _ problemMark => problemMark.map (·.index)
  | _ => none

/-- A fault with the construct in which it stands. -/
def inside (context : String) (start : Mark) (problem : String) (mark : Mark) : Fault :=
  .broken (some context) (some start) (some problem) (some mark)

/-- A fault that needs no surroundings. -/
def plain (problem : String) (mark : Mark) : Fault := .broken none none (some problem) (some mark)

/-- Four hexadecimal digits or as many as are needed. -/
def hexCode (n : Nat) : String :=
  String.ofList (Text.hexDigits (if n < 0x10000 then 4 else if n < 0x100000 then 5 else 6) n)

/-- A place in the text of the given name. -/
def markText (name : String) (m : Mark) : String :=
  s!"  in \"{name}\", line {m.line + 1}, column {m.column + 1}"

/-- What is said of a character that no text may hold. -/
def characterMessage (name : String) (code position : Nat) : String :=
  s!"unacceptable character #x{hexCode code}: special characters are not allowed\n" ++
    s!"  in \"{name}\", position {position}"

/-- The full report on the text of the given name. The place of the context is left out where
it is that of the problem. -/
def report (name : String) : Fault → String
  | broken context contextMark problem problemMark =>
    let contextPlace :=
      match contextMark with
      | none => []
      | some m =>
        if problem.isNone || problemMark.isNone || problemMark.map (·.line) ≠ some m.line ||
            problemMark.map (·.column) ≠ some m.column then [markText name m]
        else []
    "\n".intercalate (context.toList ++ contextPlace ++ problem.toList ++
      (problemMark.map (markText name)).toList)
  | character code position => characterMessage name code position
  | undecodable f => f.message
  | failed _ message => message

end Fault

end Sieve.Yaml
