import Sieve.Files.Exclude
import Sieve.Files.Glob

/-!
The files that patterns name in a folder, less those that other patterns leave out.
-/

namespace Sieve.Files

/-- What is looked for: patterns of files, the folder that they start in, and patterns of files
that are left out. -/
structure Search where
  patterns : List String
  folder : Path
  excludes : List String

/-- What a search finds, in ascending order and without repetitions. -/
structure Discovery where
  files : List Path
  excluded : List Path
deriving DecidableEq, Repr

/-- Why a search fails. -/
inductive SearchFault where
  /-- A path that is looked up holds a null character. -/
  | null
  | exclude (f : ExcludeFault)
deriving DecidableEq, Repr

def SearchFault.message : SearchFault → String
  | null => "embedded null byte"
  | exclude f => f.message

namespace Search

/-- The folder that a path names. One that holds a null character leads nowhere. -/
def folderAt (cwd p : Path) : Path := if p.holdsNull then cwd.join p else cwd.resolve p

/-- The pattern seen from the folder; there is none for an absolute pattern outside. -/
def fromFolder? (folder : Path) (pattern : String) : Option String :=
  let p := Path.ofText pattern
  if p.isAbsolute then
    ((folder.resolve p).relativeTo? folder).map fun names => Path.text ⟨.here, names⟩
  else some pattern

/-- The absolute patterns that lead out of the folder. They are ignored. -/
def outside (s : Search) : List String :=
  s.excludes.filter fun p => (fromFolder? s.folder p).isNone

/-- The patterns of what is left out. -/
def excluded? (s : Search) : Except ExcludeFault (List Exclude) := do
  let found ← (s.excludes.filterMap (fromFolder? s.folder)).mapM fun p =>
    Exclude.ofLine? ("/" ++ p)
  return found.filterMap id

/-- The path lies in the folder and one of the patterns leaves it out. -/
def isExcluded (folder : Path) (excludes : List Exclude) (p : Path) : Bool :=
  match p.relativeTo? folder with
  | some names => excludes.any (·.leavesOut names)
  | none => false

/-- Paths in ascending order, each once. -/
def sorted (l : List Path) : List Path := l.eraseDups.mergeSort Path.le

/-- The places in which the patterns start, each before those in it. -/
def starts (s : Search) : List Path :=
  sorted (s.patterns.map fun p =>
    let g := Glob.ofText p
    s.folder.resolve ⟨g.anchor, g.start⟩)

/-- The absolute pattern cannot be placed, since it holds a null character. -/
def isUnplaced (pattern : String) : Bool :=
  let p := Path.ofText pattern
  p.isAbsolute && p.holdsNull

/-- The pattern looks for files in a directory whose path holds a null character. A path without
wildcards, or a part behind one, is not looked up so: no file has it, and that is no fault. -/
def isUnreachable (pattern : String) : Bool :=
  let g := Glob.ofText pattern
  !g.segments.all Segment.isName && Path.holdsNull ⟨.here, g.start⟩

/-- The search up to the first patterns that cannot be followed. -/
def untilNull (s : Search) : Search where
  patterns := s.patterns.takeWhile fun p => !isUnreachable p
  folder := s.folder
  excludes := s.excludes.takeWhile fun p => !isUnplaced p

/-- What a search without null characters finds. -/
def run (t : Tree) (s : Search) : Except ExcludeFault Discovery := do
  let excludes ← s.excluded?
  let found := sorted (s.patterns.flatMap fun p => (Glob.ofText p).files t s.folder)
  let (out, kept) := found.partition (isExcluded s.folder excludes)
  return ⟨kept, out⟩

end Search

end Sieve.Files
