import Sieve.Log.Record
import Sieve.Spec.Outline

/-!
Where the names and tags of a spec come from. Texts of other formats have extractors of their
own.
-/

namespace Sieve.Selection

open Log

/-- Why an extractor yields nothing. -/
inductive ExtractFault where
  /-- The text is no spec. -/
  | spec (f : Spec.Failure)
  /-- An extractor of its own does not understand the text. -/
  | unusable (message : String)
  /-- An extractor of its own fails for another reason. -/
  | foreign (kind message : String)
deriving DecidableEq, Repr

def ExtractFault.message : ExtractFault → String
  | spec f => f.message
  | unusable message => message
  | foreign _ message => message

/-- The text is to blame, not the extractor. -/
def ExtractFault.blamesText : ExtractFault → Bool
  | spec (.load _) => true
  | spec (.violation _) => true
  | spec .noText => false
  | spec .endless => false
  | unusable _ => true
  | foreign .. => false

/-- The tags of every test under its title. -/
abbrev TagTable := List (String × Spec.EffectiveTags)

abbrev Extractor (α : Type) := String → Logged (Except ExtractFault α)

/-- Where names come from and where tags do. -/
structure Extractors where
  names : Extractor Spec.Names
  tags : Extractor TagTable

/-- The tests of a spec, which are counted in a report. -/
def candidatesOf (text : String) : Logged (Except Spec.Failure (List Candidate)) := do
  match Spec.candidatesOfText text with
  | .ok cs =>
    Logged.tell "specgrep.loader.extractors" .debug s!"Extracted {cs.length} tests"
    return .ok cs
  | .error e => return .error e

/-- The extractors of specs. -/
def Extractors.specs : Extractors where
  names text := .pure ((Spec.namesOfText text).mapError .spec)
  tags text := (candidatesOf text).map fun r => (r.map Spec.tagsByTitle).mapError .spec

end Sieve.Selection
