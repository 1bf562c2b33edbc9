import Sieve.Files.Content
import Sieve.Spec.Load

/-!
Documents from files.
-/

namespace Sieve.Spec

open Files

inductive FileError where
  | missing (path : Path)
  | unreadable (path : Path) (f : ContentFault)
  | load (path : Path) (e : LoadError)

def FileError.message : FileError → String
  | missing path => s!"File not found: {path.text}"
  | unreadable path f => s!"Failed to read YAML file {path.text}: {f.message}"
  | load path e => e.message (some path.text)

/-- The document in the file at a path, which is read in the directory `base`. -/
def loadFile (t : Tree) (base path : Path) : Except FileError Document :=
  if !t.existsAt base path then .error (.missing path)
  else
    match t.textAt base path with
    | .error f => .error (.unreadable path f)
    | .ok text => (load text).mapError (.load path)

end Sieve.Spec
