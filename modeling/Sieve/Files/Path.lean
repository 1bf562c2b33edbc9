import Sieve.Text.Blank

/-!
Paths as lists of names behind an anchor. Empty names and the name `.` are left out; `..` stays
until a path is resolved.
-/

namespace Sieve.Files

/-- Where a path starts. -/
inductive Anchor where
  | here
  | root
  /-- Two slashes in front, which stay two. -/
  | twoSlashes
deriving DecidableEq, Repr

def Anchor.text : Anchor → String
  | here => ""
  | root => "/"
  | twoSlashes => "//"

/-- Where an anchor leads: two slashes to the root, as one does. -/
def Anchor.place : Anchor → Anchor
  | here => here
  | root => root
  | twoSlashes => root

structure Path where
  anchor : Anchor
  parts : List String
deriving DecidableEq, Repr

namespace Path

def anchorOf : List Char → Anchor
  | '/' :: '/' :: '/' :: _ => .root
  | '/' :: '/' :: _ => .twoSlashes
  | '/' :: _ => .root
  | _ => .here

def ofText (s : String) : Path :=
  ⟨anchorOf s.toList, (Text.pieces '/' s).filter fun p => p != "" && p != "."⟩

def text (p : Path) : String :=
  let t := p.anchor.text ++ "/".intercalate p.parts
  if t.isEmpty then "." else t

def isAbsolute (p : Path) : Bool := p.anchor != .here

/-- A path with a null character leads nowhere, and following it is a fault. -/
def holdsNull (p : Path) : Bool := p.parts.any fun name => name.toList.contains '\x00'

/-- The path `q` read in the directory `p`. -/
def join (p q : Path) : Path := if q.isAbsolute then q else ⟨p.anchor, p.parts ++ q.parts⟩

/-- One name further; `.` stays, `..` leads back, and nothing lies before the start. -/
def stepTo (parts : List String) (name : String) : List String :=
  if name = "." then parts
  else if name = ".." then parts.dropLast
  else parts ++ [name]

/-- The path without `..`, read in the directory `base`. -/
def absolute (base p : Path) : Path :=
  let q := base.join p
  ⟨q.anchor, q.parts.foldl stepTo []⟩

/-- The place that the path leads to from the directory `base`. -/
def resolve (base p : Path) : Path :=
  let q := base.absolute p
  ⟨q.anchor.place, q.parts⟩

/-- The names that lead from `folder` to the path. -/
def relativeTo? (p folder : Path) : Option (List String) :=
  if p.anchor = folder.anchor && folder.parts.isPrefixOf p.parts then
    some (p.parts.drop folder.parts.length)
  else none

/-- The path one level up; an anchor alone is its own parent. -/
def parent (p : Path) : Path := { p with parts := p.parts.dropLast }

/-- The order of paths compares anchor and names one by one. -/
def key (p : Path) : List String := p.anchor.text :: p.parts

def le (p q : Path) : Bool := !(q.key < p.key)

end Path

end Sieve.Files
