import Sieve.Text.Blank
import Sieve.Value.Basic

/-!
The parameters that the class of settings has beside the settings. A key that is given and has the
name of one of them is no setting. It is an argument of the class, which may refuse it or read
settings in another way.
-/

namespace Sieve.Settings.Parameter

/-- The first parameter, which is the settings themselves. -/
def self : String := "__pydantic_self__"

/-- The names of files of variables, instead of the usual one. -/
def envFile : String := "_env_file"

/-- The names of directories of secrets. -/
def secretsDir : String := "_secrets_dir"

/-- How the names of all parameters but the first begin. -/
def starts : List String := ["_build_", "_case_", "_cli_", "_env_", "_nested_", "_secrets_"]

/-- The type of a value that can be no list of names, as messages show it. -/
def notIterable? : Value → Option String
  | .bool _ => some "bool"
  | .int _ => some "int"
  | .float _ => some "float"
  | .date _ => some "datetime.date"
  | .moment _ => some "datetime.datetime"
  | _ => none

/-- The argument has an effect that is not followed here. Null is as good as no argument, but asks
for no file of variables at all. -/
def isInstruction (name : String) (v : Value) : Bool :=
  starts.any (Text.startsWith name) &&
    match v with
    | .null => name = envFile
    | v => (name ≠ envFile && name ≠ secretsDir) || (notIterable? v).isNone

/-- The first instruction among entries. -/
def instruction? (es : List (Value × Value)) : Option String :=
  (es.filterMap (·.1.string?)).find? fun name =>
    (Value.lookup es name).any (isInstruction name)

/-- Why the value of a parameter is no list of names. -/
def noNames? (es : List (Value × Value)) (name : String) : Option String :=
  ((Value.lookup es name).bind notIterable?).map fun type =>
    s!"{Text.quoted type} object is not iterable"

/-- Why the class refuses its arguments. -/
def refusal? (es : List (Value × Value)) : Option String :=
  if (Value.lookup es self).isSome then
    some s!"BaseSettings.__init__() got multiple values for argument {Text.quoted self}"
  else noNames? es envFile

/-- Why it refuses them after it has read the variables. -/
def lateRefusal? (es : List (Value × Value)) : Option String := noNames? es secretsDir

end Sieve.Settings.Parameter
