import Sieve.Settings.Basic
import Sieve.Settings.ConfigFile
import Sieve.Settings.Parameter
import Sieve.Settings.Variables

/-!
The settings of a run from all their sources: what is given, then environment variables, a file of
variables, a file of settings, and defaults. A file of settings that is named counts as given.
-/

namespace Sieve

open Files Log Schema

/-- What surrounds a run. -/
structure Surroundings where
  tree : Tree
  cwd : Path
  environment : List (String × String)

namespace Settings

/-- Why there are no settings. -/
inductive LoadFault where
  | missing (path : Path)
  | invalid (issues : List Issue)
  /-- A given key is no text. -/
  | keyType
  /-- A given key is a parameter of the class of settings, which refuses its value. -/
  | parameter (message : String)
  /-- A given key tells the class to read settings in another way, which is not followed here. -/
  | instruction (name : String)
  | source (f : SourceFault)
  | file (f : FileFault)

def LoadFault.message : LoadFault → String
  | missing path => s!"Config file not found: {path.text}"
  | invalid issues => Issue.report "Invalid configuration" issues
  | keyType => "keywords must be strings"
  | parameter message => message
  | instruction name => s!"{name} is not followed"
  | source f => f.message
  | file f => f.message

/-- The name of a file of variables. -/
def envFileName : String := ".env"

/-- The file of variables in the working directory. -/
def envFile (s : Surroundings) : Except FileFault (List EnvFile.Binding) :=
  match s.tree.bytesAt s.cwd ⟨.here, [envFileName]⟩ with
  | .error _ => .ok []
  | .ok bytes =>
    match Text.Utf8.readText bytes with
    | .ok text => .ok (EnvFile.read s.environment text)
    | .error f => .error (.undecodable f)

/-- Given keys that differ from a field in the case of letters only stand for it. -/
def renameGiven (es : List (Value × Value)) : List (Value × Value) :=
  es.foldl
    (fun acc (k, v) =>
      match k with
      | .str s =>
        let small := Text.lower s
        let isField := (Variables.fields.lookup small).isSome
        if isField && s ≠ small && (Value.lookup es small).isNone then Value.put acc small v
        else Value.put acc s v
      | k => Value.putKey acc k v)
    []

/-- The entries of a file beneath those given. The parts of `env` and `logging` are merged. -/
def mergeFile (file given : List (Value × Value)) : List (Value × Value) :=
  ["env", "logging"].foldl
    (fun acc key =>
      match Value.lookup file key with
      | some (.map below) =>
        let above := ((Value.lookup given key).bind Value.entries?).getD []
        Value.put acc key (.map (Value.overlay below above))
      | _ => acc)
    (Value.overlay file given)

/-- A fault that is no more than a bad value is an issue of the settings as a whole. -/
def ofFileFault (f : FileFault) : LoadFault :=
  match f with
  | .undecodable _ | .noValue .value _ => .invalid [⟨[], .rule f.message⟩]
  | f => .file f

/-- The entries with those of the nearest file of settings beneath them. -/
def withFoundFile (s : Surroundings) (es : List (Value × Value)) :
    Logged (Except LoadFault (List (Value × Value))) := do
  let skips := ((Value.lookup es Variables.skipKey).getD .null).isTruthy
  match if skips then none else ConfigFile.find? s.tree s.cwd with
  | none => return .ok es
  | some p =>
    match ← ConfigFile.load s.tree s.cwd p with
    | .error f => return .error (ofFileFault f)
    | .ok file => return .ok (mergeFile file es)

/-- The entries of all variables and those given over them. -/
def gather (s : Surroundings) (given : List (Value × Value)) :
    Except LoadFault (List (Value × Value)) := do
  let bindings ← (envFile s).mapError .file
  let process := Variables.Table.ofBindings (s.environment.map fun (k, v) => (k, some v))
  let fromProcess ← (Variables.entries .process process).mapError .source
  let fromFile ← (Variables.entries .file (.ofBindings bindings)).mapError .source
  return Value.deepEntries (renameGiven given) (Value.deepEntries fromProcess fromFile)

/-- What keeps entries from being given. -/
def givenFault? (given : List (Value × Value)) : Option LoadFault :=
  if given.any fun (k, _) => k.string?.isNone then some .keyType
  else
    match Parameter.instruction? given with
    | some name => some (.instruction name)
    | none => (Parameter.refusal? given).map .parameter

/-- The settings with some entries given. -/
def build (s : Surroundings) (given : List (Value × Value)) :
    Logged (Except LoadFault Settings) := do
  if let some f := givenFault? given then return .error f
  match gather s given with
  | .error f => return .error f
  | .ok es =>
    if let some message := Parameter.lateRefusal? given then return .error (.parameter message)
    match ← withFoundFile s es with
    | .error f => return .error f
    | .ok es => return (ofEntries es).mapError .invalid

/-- The settings with some entries given and a file of settings that may be named. -/
def load (s : Surroundings) (file : Option Path) (given : List (Value × Value)) :
    Logged (Except LoadFault Settings) := do
  match file with
  | none => build s given
  | some p =>
    if !s.tree.existsAt s.cwd p then return .error (.missing p)
    match ← ConfigFile.load s.tree s.cwd p with
    | .error f => return .error (.file f)
    | .ok entries =>
      let merged := Value.overlay entries given
      let merged :=
        match Value.lookup entries "env", Value.lookup given "env" with
        | some (.map below), some (.map above) =>
          Value.put merged "env" (.map (Value.overlay below above))
        | _, _ => merged
      build s (Value.overlay [(.str Variables.skipKey, .bool true)] merged)

end Settings

end Sieve
