import Sieve.Selection.Prefilter
import Sieve.Text.Blank

/-!
What a run reports of its options.
-/

namespace Sieve.Selection

open Log

def logger : String := "specgrep.selection.plugin"

def say (level : Level) (message : String) : Logged Unit := .tell logger level message

/-- Reports something if there is something to report. -/
def sayAny {α : Type} (level : Level) (a : Option α) (message : α → String) : Logged Unit :=
  match a with
  | some a => say level (message a)
  | none => .pure ()

/-- Reports the options in effect. -/
def announce (o : Options) : Logged Unit := do
  sayAny .info (nonEmpty o.title) fun t =>
    s!"specgrep: tests with \"{Text.trimmed t}\" in their names"
  sayAny .info (nonEmpty o.tags) fun t => s!"specgrep: filtering using tag(s) \"{t}\""
  sayAny .info o.burn fun n => s!"specgrep: running filtered tests {n} times"
  if o.untagged then say .info "specgrep: running untagged tests"
  if o.omitFiltered then say .info "specgrep: will omit filtered tests"

end Sieve.Selection
