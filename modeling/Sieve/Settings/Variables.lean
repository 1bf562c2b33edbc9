import Sieve.Json.Reader
import Sieve.Settings.EnvFile
import Sieve.Text.Lower
import Sieve.Value.Basic

/-!
Settings from environment variables. A variable is the name of a field behind a common start,
whatever the case of its letters; two underscores lead into a field that has parts.
-/

namespace Sieve.Settings

/-- Where variables come from. -/
inductive Source where
  | process
  | file
deriving DecidableEq, Repr

def Source.name : Source → String
  | process => "EnvSettingsSource"
  | file => "DotEnvSettingsSource"

/-- The value of a variable is not JSON, where only JSON will do, or JSON with too much inside each
other. -/
structure SourceFault where
  field : String
  source : Source
  reason : Json.Fault
deriving DecidableEq, Repr

def SourceFault.message (f : SourceFault) : String :=
  match f.reason with
  | .malformed => s!"error parsing value for field \"{f.field}\" from source \"{f.source.name}\""
  | .depth => "maximum recursion depth exceeded"

namespace Variables

/-- Names in small letters; the last value of a name counts. -/
abbrev Table := List EnvFile.Binding

def Table.ofBindings (l : List EnvFile.Binding) : Table :=
  l.foldl (fun t (k, v) => EnvFile.put t (Text.lower k, v)) []

def start : String := "specgrep_"

def separator : String := "__"

/-- How the value of a field is written. -/
inductive Form where
  /-- A text or JSON. -/
  | patterns
  | text
  /-- JSON, or parts of any names. -/
  | dictionary
  /-- JSON, or parts with given names. -/
  | record
deriving DecidableEq, Repr

def fields : List (String × Form) :=
  [("spec_pattern", .patterns), ("exclude_spec_pattern", .patterns), ("parallel_workers", .text),
   ("env", .dictionary), ("logging", .record)]

def recordFields : List String := ["level", "json_output", "file", "module_levels"]

/-- The pieces between separators of two characters. -/
def splitParts : List Char → List (List Char)
  | [] => [[]]
  | '_' :: '_' :: r => [] :: splitParts r
  | c :: r =>
    match splitParts r with
    | [] => [[c]]
    | p :: ps => (c :: p) :: ps

/-- How many lists and objects can lie inside each other before the stack is used up. -/
def room : Nat := 960

def json (s : String) : Except Json.Fault Value := (Json.read room s).map Value.ofJson

/-- The value of a text that need not be JSON. -/
def jsonOrText (s : String) : Except Json.Fault Value :=
  match json s with
  | .error .malformed => .ok (.str s)
  | r => r

/-- The value of a variable that names a part of a field. -/
def partValue (form : Form) (path : List String) (v : Option String) : Except Json.Fault Value :=
  match v with
  | none => .ok .null
  | some s =>
    let isNested := 1 < path.length
    if form = .dictionary && isNested && !s.isEmpty then jsonOrText s
    else if form = .record && path = ["module_levels"] && !s.isEmpty then json s
    else .ok (.str s)

/-- The parts of a field that variables set. -/
def parts (field : String) (form : Form) (t : Table) : Except Json.Fault (List (Value × Value)) :=
  let head := (start ++ field ++ separator).toList
  t.foldlM
    (fun es (name, v) =>
      if head.isPrefixOf name.toList then
        let path := (splitParts (name.toList.drop head.length)).map String.ofList
        (partValue form path v).map fun value => Value.insertAt es path value
      else .ok es)
    []

/-- The parts of a record under the names that they have there. -/
def renameParts (es : List (Value × Value)) : List (Value × Value) :=
  es.foldl
    (fun acc (k, v) =>
      match k with
      | .str s =>
        let small := Text.lower s
        Value.put acc (if recordFields.contains small then small else s) v
      | k => Value.putKey acc k v)
    []

/-- The value of a field that is written as a text of its own. -/
def wholeValue (form : Form) (s : String) : Except Json.Fault Value :=
  match form with
  | .text => .ok (.str s)
  | .patterns => jsonOrText s
  | .dictionary | .record => json s

/-- The value of a field; variables for its parts are laid over JSON for the whole. -/
def fieldValue (form : Form) (field : String) (t : Table) : Except Json.Fault (Option Value) :=
  match (t.lookup (start ++ field)).join with
  | some s =>
    match wholeValue form s with
    | .error f => .error f
    | .ok (.map es) => (parts field form t).map fun more => some (.map (Value.deepEntries more es))
    | .ok v => .ok (some v)
  | none =>
    if form = .text then .ok none
    else (parts field form t).map fun more => if more.isEmpty then none else some (.map more)

def renamed (form : Form) (v : Value) : Value :=
  match form, v with
  | .record, .map es => .map (renameParts es)
  | _, v => v

/-- The entries that variables give. -/
def entriesOf (source : Source) (t : Table) : List (String × Form) →
    Except SourceFault (List (Value × Value))
  | [] => .ok []
  | (field, form) :: rest => do
    match fieldValue form field t with
    | .error reason => throw ⟨field, source, reason⟩
    | .ok none => entriesOf source t rest
    | .ok (some v) => return (.str field, renamed form v) :: (← entriesOf source t rest)

/-- The key that keeps settings from looking for a file. -/
def skipKey : String := "_skip_file_loading"

/-- In a file of variables the key may be set too. -/
def skipEntries (t : Table) : List (Value × Value) :=
  [skipKey, start ++ skipKey].filterMap fun name =>
    match (t.lookup name).join with
    | some s => if s.isEmpty then none else some (.str skipKey, .str s)
    | none => none

def entries (source : Source) (t : Table) : Except SourceFault (List (Value × Value)) := do
  let es ← entriesOf source t fields
  return if source = .file then es ++ skipEntries t else es

end Variables

end Sieve.Settings
