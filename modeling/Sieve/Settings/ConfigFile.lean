import Sieve.Files.Content
import Sieve.Log.Record
import Sieve.Settings.Document

/-!
Files of settings: where they are looked for, and what they hold. A file that cannot be read or is
no YAML is reported and counts as empty.
-/

namespace Sieve.Settings

open Files Log

/-- Why a file of settings ends the run. -/
inductive FileFault where
  | undecodable (f : Text.Utf8.Fault)
  /-- A scalar has no value, or too much lies inside each other. -/
  | noValue (kind : Yaml.Failure) (message : String)
deriving DecidableEq, Repr

def FileFault.message : FileFault → String
  | undecodable f => f.message
  | noValue _ message => message

namespace ConfigFile

def names : List String := ["specgrep.config.yaml", "specgrep.config.yml"]

/-- How many directories are searched. -/
def searchDepth : Nat := 10

/-- A directory and those above it, the nearest first. -/
def upwards : (depth : Nat) → Path → List Path
  | 0, _ => []
  | k + 1, p => p :: if p.parent = p then [] else upwards k p.parent

/-- Where a file of settings may lie, the nearest place first. -/
def places (cwd : Path) : List Path :=
  (upwards searchDepth cwd).flatMap fun p => names.map fun n => p.join ⟨.here, [n]⟩

/-- The nearest file of settings in a directory and those above it. -/
def find? (t : Tree) (cwd : Path) : Option Path :=
  (places cwd).find? fun p => (t.find? p).isSome

def logger : String := "specgrep.core.settings"

def warn (message : String) : Logged Unit := .tell logger .warning message

/-- The entries that the bytes of a file give. -/
def entriesOf (p : Path) (bytes : List UInt8) :
    Logged (Except FileFault (List (Value × Value))) := do
  match readDocument bytes with
  | .ok (.map es) => return .ok es
  | .ok _ => return .ok []
  | .error (.undecodable f) => return .error (.undecodable f)
  | .error (.failed kind message) => return .error (.noValue kind message)
  | .error f =>
    warn s!"Failed to parse config file {p.text}: {f.report p.text}"
    return .ok []

/-- The entries of the file at a path, which is read in the directory `base`. -/
def load (t : Tree) (base p : Path) : Logged (Except FileFault (List (Value × Value))) := do
  match t.bytesAt base p with
  | .error f =>
    warn s!"Failed to read config file {p.text}: {f.message}"
    return .ok []
  | .ok bytes => entriesOf p bytes

end ConfigFile

end Sieve.Settings
