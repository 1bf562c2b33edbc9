import Sieve.Settings.Options

/-!
The settings of a run, and the reading of them from values of any type. All faults are collected,
in the order of the fields.
-/

namespace Sieve

open Schema

/-- How the run reports. -/
structure LogSettings where
  level : String
  json : Option Bool
  file : Option String
  /-- Levels of parts of the program, by their names. -/
  moduleLevels : List (String × String)
deriving DecidableEq, Repr

structure Settings where
  patterns : List String
  excludes : List String
  /-- How many files are looked at at once. -/
  workers : Int
  env : List (String × Value)
  logging : LogSettings

namespace LogSettings

def default : LogSettings := ⟨"INFO", none, none, []⟩

def levels : List String := ["CRITICAL", "DEBUG", "ERROR", "INFO", "WARNING"]

def badLevel (s : String) : String :=
  let names := ", ".intercalate (levels.map Text.quoted)
  s!"Invalid log level: {s}. Must be one of \x7b{names}\x7d"

def readLevel (v : Value) : Read String :=
  match Read.text v with
  | .ok s =>
    let word := Text.upper s
    if levels.contains word then .ok word else .fail (.rule (badLevel s))
  | .error e => .error e

def read : Value → Read LogSettings
  | .map es =>
    let level := Read.field es "level" readLevel default.level
    let json := Read.field es "json_output" (Read.optional Read.boolean) none
    let file := Read.field es "file" (Read.optional Read.text) none
    let moduleLevels := Read.field es "module_levels" (Read.dictionary Read.text) []
    (Read.both (Read.both level json) (Read.both file moduleLevels)).map
      fun ((level, json), file, moduleLevels) => ⟨level, json, file, moduleLevels⟩
  | _ => .fail (.record "LoggingSettings")

end LogSettings

namespace Settings

/-- A list of texts; members of sets count as items. -/
def readList : Value → Read (List String)
  | .list xs => Read.items Read.text 0 xs
  | .tuple xs => Read.items Read.text 0 xs
  | .set xs => Read.items Read.text 0 xs
  | _ => .fail .list

/-- One pattern or a list of them; blank ones are left out. -/
def readPatterns (v : Value) : Read (List String) :=
  let nonBlank (l : List String) : List String := l.filter fun s => !(Text.trimmed s).isEmpty
  match readList v, Read.text v with
  | .ok l, _ => .ok (nonBlank l)
  | .error _, .ok s => .ok (nonBlank [s])
  | .error e, .error f =>
    .error (e.map (·.within "list[str]") ++ f.map (·.within "str"))

/-- The settings that the entries of a mapping give. -/
def ofEntries (es : List (Value × Value)) : Read Settings :=
  let patterns := Read.field es "spec_pattern" readPatterns []
  let excludes := Read.field es "exclude_spec_pattern" readPatterns []
  let workers := Read.field es "parallel_workers" (Read.integerWithin 1 64) 8
  let env := Read.field es "env" (Read.dictionary fun v => .ok v) []
  let logging := Read.field es "logging" LogSettings.read .default
  (Read.both (Read.both patterns excludes) (Read.both workers (Read.both env logging))).map
    fun ((patterns, excludes), workers, env, logging) => ⟨patterns, excludes, workers, env, logging⟩

/-- The environment as the entries of a mapping. -/
def envEntries (s : Settings) : List (Value × Value) := s.env.map fun (k, v) => (.str k, v)

/-- The options in the environment. -/
def options (s : Settings) : Read Options := Options.ofEntries s.envEntries

end Settings

/-- The faults of settings or options on lines of their own below a headline. -/
def Schema.Issue.report (headline : String) (issues : List Issue) : String :=
  let lines := issues.map fun i =>
    let place := ".".intercalate i.place
    s!"{place}: {i.cause.message}"
  s!"{headline}:\n  " ++ "\n  ".intercalate lines

end Sieve
