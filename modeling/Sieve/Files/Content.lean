import Sieve.Files.Tree
import Sieve.Text.Utf8

/-!
The texts of files.
-/

namespace Sieve.Files

/-- Why a file has no text. -/
inductive ContentFault where
  | file (f : Fault) (path : Path)
  | text (f : Text.Utf8.Fault)
deriving DecidableEq, Repr

def ContentFault.message : ContentFault → String
  | file f path => f.message path.text
  | text f => f.message

namespace Tree

/-- The bytes of the file at a path, which is read in the directory `base`. -/
def bytesAt (t : Tree) (base p : Path) : Except ContentFault (List UInt8) :=
  (t.read (base.join p)).mapError fun f => .file f p

/-- The text of the file at a path. -/
def textAt (t : Tree) (base p : Path) : Except ContentFault String := do
  (Text.Utf8.readText (← t.bytesAt base p)).mapError .text

def existsAt (t : Tree) (base p : Path) : Bool := (t.find? (base.join p)).isSome

end Tree

end Sieve.Files
