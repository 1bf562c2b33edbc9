import Sieve.Filter.Expression
import Sieve.Selection.Extractor
import Sieve.Settings.Load

/-!
Which spec files are worth running. A file is kept if one of its tests could run; so is a file
that cannot be read or understood, for then nothing is known of its tests.

With a title expression the names of suites and tests decide, each on its own. Otherwise the tags
of the tests decide.
-/

namespace Sieve.Selection

open Files Log

/-- An expression without any character is no expression. -/
def nonEmpty (e : Option String) : Option String := e.filter (!·.isEmpty)

structure Prefilter where
  filter : Filter
  /-- Names decide, not tags. -/
  byNames : Bool
  extractors : Extractors
  /-- How many files are looked at at once. -/
  workers : Nat

/-- Why a file shows no names or tags. -/
inductive LookFault where
  | content (f : ContentFault)
  | extract (f : ExtractFault)
deriving DecidableEq, Repr

namespace LookFault

def message : LookFault → String
  | content f => f.message
  | extract f => f.message

/-- The file is to blame. -/
def blamesFile : LookFault → Bool
  | content _ => true
  | extract f => f.blamesText

end LookFault

namespace Prefilter

def logger : String := "specgrep.selection.filters"

/-- The prefilter of two expressions; the first counts alone unless it is empty. There is one
worker at least. -/
def ofExpressions (title tags : Option String) (extractors : Extractors) (workers : Int) :
    Prefilter :=
  let filter :=
    match nonEmpty title with
    | some t => Filter.ofExpressions (some t) none
    | none => Filter.ofExpressions none tags
  { filter, byNames := (nonEmpty title).isSome, extractors, workers := (max 1 workers).toNat }

/-- There is something to filter by. -/
def isActive (f : Prefilter) : Bool := !f.filter.isEmpty

def admitsName (f : Prefilter) (name : String) : Bool := f.filter.admits ⟨name, [], false⟩ false

def admitsTags (f : Prefilter) (t : Spec.EffectiveTags) : Bool :=
  f.filter.admits ⟨"", t.effective, !t.required.isEmpty⟩ false

/-- Some name of the text could be that of a test that runs. -/
def holdsName (f : Prefilter) (text : String) : Logged (Except ExtractFault Bool) :=
  (f.extractors.names text).map fun r => r.map fun names => names.all.any f.admitsName

/-- Some test of the text could run by its tags. -/
def holdsTags (f : Prefilter) (text : String) : Logged (Except ExtractFault Bool) :=
  (f.extractors.tags text).map fun r => r.map fun table => table.any fun (_, t) => f.admitsTags t

/-- Whether some test of the file could run. -/
def look (f : Prefilter) (t : Tree) (cwd p : Path) : Logged (Except LookFault Bool) :=
  match t.textAt cwd p with
  | .error e => .pure (.error (.content e))
  | .ok text =>
    (if f.byNames then f.holdsName text else f.holdsTags text).map (·.mapError .extract)

/-- Whether the file is kept. -/
def keeps (f : Prefilter) (t : Tree) (cwd p : Path) : Logged (Except LookFault Bool) := do
  if !f.isActive then return .ok true
  match ← f.look t cwd p with
  | .ok b =>
    Logged.tell logger .debug s!"Looked at spec file {p.text}"
    return .ok b
  | .error e =>
    if e.blamesFile then
      Logged.tell logger .debug s!"Extraction failed for {p.text}"
      Logged.tell logger .error (s!"Could not determine test names in file {p.text}: {e.message}. " ++
        "Will run it to let the grep filter the tests")
      return .ok true
    return .error e

/-- A file with what a worker finds of it. -/
abbrev Finding := Path × Logged (Except LookFault Bool)

def fails (x : Finding) : Bool := !x.2.value.isOk

/-- The findings up to the end: when a worker fails, the files that others have begun by then are
the last ones. -/
def begun (workers : Nat) (l : List Finding) : List Finding :=
  match l.findIdx? fails with
  | some i => l.take (i + workers + 1)
  | none => l

/-- The files that are kept, or the first failure. -/
def kept : List Finding → Except LookFault (List Path)
  | [] => .ok []
  | (p, x) :: l => do
    let keep ← x.value
    let rest ← kept l
    return if keep then p :: rest else rest

/-- The files that are kept, in their order. -/
def run (f : Prefilter) (t : Tree) (cwd : Path) (files : List Path) :
    Logged (Except LookFault (List Path)) :=
  let found := files.map fun p => (p, f.keeps t cwd p)
  ⟨(begun f.workers found).flatMap (·.2.records), kept found⟩

end Prefilter

end Sieve.Selection
