import Sieve.Files.Path
import Sieve.Text.Quoted

/-!
A tree of files. A path is followed name by name through directories, so a file on the way is a
fault even if `..` comes next.

A tree holds files and directories alone: there are no links, and all may be read and written. No
name in it is empty, too long, or holds a slash or a null character. The paths that are followed
hold no null character either. Those in settings and patterns may hold one, and are refused before.
-/

namespace Sieve.Files

inductive Tree where
  | file (bytes : List UInt8)
  | dir (children : List (String × Tree))
deriving Inhabited

/-- Why a path leads to no text. -/
inductive Fault where
  | missing
  | notDirectory
  | isDirectory
  /-- The path holds a null character. -/
  | null
deriving DecidableEq, Repr

/-- What is said of a path that shows itself as `path`. -/
def Fault.message (f : Fault) (path : String) : String :=
  match f with
  | missing => s!"[Errno 2] No such file or directory: {Text.quoted path}"
  | notDirectory => s!"[Errno 20] Not a directory: {Text.quoted path}"
  | isDirectory => s!"[Errno 21] Is a directory: {Text.quoted path}"
  | null => "embedded null byte"

namespace Tree

def isDir : Tree → Bool
  | dir _ => true
  | file _ => false

def children : Tree → List (String × Tree)
  | dir cs => cs
  | file _ => []

/-- What lies at the end of a list of names. -/
def get? (t : Tree) : List String → Option Tree
  | [] => some t
  | name :: rest =>
    match t.children.lookup name with
    | some c => c.get? rest
    | none => none

/-- Follows names from the place `at_`. -/
def follow (t : Tree) (at_ : List String) : List String → Except Fault Tree
  | [] =>
    match t.get? at_ with
    | some n => .ok n
    | none => .error .missing
  | name :: rest =>
    match t.get? at_ with
    | none => .error .missing
    | some (file _) => .error .notDirectory
    | some (dir _) => t.follow (Path.stepTo at_ name) rest

/-- What an absolute path leads to. -/
def find (t : Tree) (p : Path) : Except Fault Tree := t.follow [] p.parts

def find? (t : Tree) (p : Path) : Option Tree := (t.find p).toOption

def isFileAt (t : Tree) (p : Path) : Bool :=
  match t.find p with
  | .ok (file _) => true
  | _ => false

def isDirAt (t : Tree) (p : Path) : Bool :=
  match t.find p with
  | .ok (dir _) => true
  | _ => false

/-- The bytes of the file at a path. -/
def read (t : Tree) (p : Path) : Except Fault (List UInt8) :=
  match t.find p with
  | .ok (file bytes) => .ok bytes
  | .ok (dir _) => .error .isDirectory
  | .error f => .error f

/-- The children of both, those of the first where a name is in both. -/
def bothChildren (cs ds : List (String × Tree)) : List (String × Tree) :=
  cs ++ ds.filter fun (name, _) => (cs.lookup name).isNone

/-- A tree with something more at the end of the names and directories on the way. A file takes
the place of what is there, a directory adds its children. -/
def put (t : Tree) (names : List String) (leaf : Tree) : Tree :=
  match names with
  | [] =>
    match leaf, t with
    | dir ds, dir cs => dir (bothChildren cs ds)
    | l, _ => l
  | name :: rest =>
    let child := (t.children.lookup name).getD (dir [])
    dir (t.children.filter (·.1 != name) ++ [(name, child.put rest leaf)])

end Tree

end Sieve.Files
