import Sieve.Fault.Place
import Sieve.Spec.Load

/-!
What makes a document no spec, and where.
-/

namespace Sieve.Spec

/-- A place in a spec: the positions in the `tests` lists that lead there. -/
abbrev Location := List Nat

def Location.text (l : Location) : String :=
  l.foldl (fun s i => s ++ s!".tests[{i}]") "spec"

/-- The rule that a document breaks. -/
inductive Rule where
  | document
  | tagsType (key : String)
  | tag (key shown : String)
  | nameType (key : String)
  | nameBlank (key : String)
  | testsType
  | entryType
  | entryNameless
  | titleTaken (title : String)
deriving DecidableEq, Repr

def Rule.message : Rule → String
  | document => "spec document must be a mapping"
  | tagsType key => s!"'{key}' must be a string or a list of strings"
  | tag key shown => s!"'{key}' contains an invalid tag {shown}"
  | nameType key => s!"'{key}' must be a string"
  | nameBlank key => s!"'{key}' must not be empty"
  | testsType => "'tests' must be a list"
  | entryType => "entry must be a mapping"
  | entryNameless => "entry needs a 'name' or a 'suite'"
  | titleTaken title => s!"duplicate test title '{title}'"

/-- A broken rule with its place; the document itself has none. -/
structure Violation where
  rule : Rule
  location : Option Location
  line : Option Nat
deriving DecidableEq, Repr

def Violation.message (v : Violation) : String :=
  match v.location with
  | some l => s!"{l.text}: {v.rule.message}"
  | none => v.rule.message

/-- The message behind its line. -/
def Violation.report (v : Violation) : String :=
  Place.locate { Place.unknown with line := v.line.map Int.ofNat } v.message

/-- Why nothing is extracted from a text. -/
inductive Failure where
  | load (e : LoadError)
  | violation (v : Violation)
  /-- An integer has too many digits to be written. -/
  | noText
  /-- The document is one of its own suites. -/
  | endless
deriving DecidableEq, Repr

def Failure.message : Failure → String
  | load e => e.message none
  | violation v => v.report
  | noText => Value.noTextMessage
  | endless => "maximum recursion depth exceeded while calling a Python object"

end Sieve.Spec
