import Sieve.Log.Correlation
import Sieve.Selection.Select

/-!
Settings narrowed to the spec files that are worth running. They stay as they are unless that is
asked for, there is something to filter by, and some file is kept.
-/

namespace Sieve.Selection

open Files Log

inductive NarrowFault where
  | noPattern
  | select (f : SelectFault)

def NarrowFault.message : NarrowFault → String
  | noPattern => "specgrep requires spec_pattern to locate spec files"
  | select f => f.message

/-- The settings with the selected files as patterns; there are none if nothing is narrowed. -/
def narrowed? (s : Settings) (x : Selection) : Option Settings :=
  if !x.isFiltered || x.isFallback then none
  else some { s with patterns := x.files.map (·.text) }

/-- The selection that the options in the environment ask for, if they do. -/
def selectIfAsked (w : Surroundings) (s : Settings) (ex : Extractors) :
    Logged (Except NarrowFault (Option Selection)) := do
  match s.options with
  | .error issues => return .error (.select (.options issues))
  | .ok o =>
    say .debug "runner env"
    announce o
    if !o.filterSpecs then return .ok none
    return ((← select w s (some o) ex).map some).mapError .select

/-- The narrowed settings, if there are any, and the correlation after the run. All that the
run reports carries the id. -/
def narrowSettings (w : Surroundings) (s : Settings) (ex : Extractors) (id : String)
    (c : Correlation) : Logged (Except NarrowFault (Option Settings)) × Correlation :=
  if s.env.isEmpty then (.pure (.ok none), c)
  else if s.patterns.isEmpty then (.pure (.error .noPattern), c)
  else
    let (x, c) := c.within id (selectIfAsked w s ex)
    (x.map fun r => r.map fun found => found.bind (narrowed? s), c)

end Sieve.Selection
