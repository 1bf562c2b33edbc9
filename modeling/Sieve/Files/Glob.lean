import Sieve.Files.Tree
import Sieve.Files.Wildcard

/-!
Files named by patterns. A segment `**` stands for any number of directories, other wildcards for
one name. Names that begin with a dot are found only by a pattern that begins so.
-/

namespace Sieve.Files

/-- One step of a pattern. -/
inductive Segment where
  | name (text : String)
  | wild (pattern : List Wild) (showsHidden : Bool)
  | anyDepth
deriving DecidableEq, Repr

def Segment.name? : Segment → Option String
  | name text => some text
  | _ => none

def Segment.isName (s : Segment) : Bool := s.name?.isSome

structure Glob where
  anchor : Anchor
  segments : List Segment
  /-- A slash at the end asks for directories. -/
  wantsDirectory : Bool
deriving DecidableEq, Repr

def isHidden (name : String) : Bool := Text.startsWith name "."

namespace Glob

/-- Only an exclamation mark negates a set, and nothing is escaped. -/
def dialect : Wild.Dialect := ⟨['!'], false⟩

def segmentOf (s : String) : Segment :=
  if s = "**" then .anyDepth
  else if Wild.isWild s then .wild ((Wild.ofText? dialect s).getD []) (isHidden s)
  else .name s

def ofText (s : String) : Glob :=
  { anchor := Path.anchorOf s.toList
    segments := ((Text.pieces '/' s).filter (· != "")).map segmentOf
    wantsDirectory := s.toList.getLast?.all (· == '/') }

mutual

/-- The paths of all that lies below a tree and is not hidden. -/
def visibleBelow : Tree → List (List String)
  | .file _ => []
  | .dir cs => visibleIn cs

def visibleIn : List (String × Tree) → List (List String)
  | [] => []
  | (name, t) :: cs =>
    if isHidden name then visibleIn cs
    else [name] :: (visibleBelow t).map (name :: ·) ++ visibleIn cs

end

/-- What one segment leads to from a place below `base`. Before the last segment wildcards find
directories only. -/
def expand (t : Tree) (base : Path) (isLast : Bool) (at_ : List String) (s : Segment) :
    List (List String) :=
  let place (names : List String) : Path := base.join ⟨.here, names⟩
  let fits (names : List String) : Bool := isLast || t.isDirAt (place names)
  match s with
  | .name n => if (t.find? (place (at_ ++ [n]))).isSome then [at_ ++ [n]] else []
  | .wild pattern showsHidden =>
    let names := ((t.find? (place at_)).map fun d => d.children.map (·.1)).getD []
    let found := names.filter fun n =>
      (showsHidden || !isHidden n) && Wild.matchesAll pattern n.toList
    (found.map fun n => at_ ++ [n]).filter fits
  | .anyDepth =>
    let below := ((t.find? (place at_)).map visibleBelow).getD []
    at_ :: (below.map fun b => at_ ++ b).filter fits

/-- Follows the segments from several places. -/
def expandAll (t : Tree) (base : Path) (places : List (List String)) :
    List Segment → List (List String)
  | [] => places
  | s :: rest => expandAll t base (places.flatMap fun p => expand t base rest.isEmpty p s) rest

/-- The names before the first wildcard. -/
def start (g : Glob) : List String := (g.segments.takeWhile Segment.isName).filterMap Segment.name?

/-- The place that the names of a pattern are counted from. -/
def base (folder : Path) (g : Glob) : Path := if g.anchor = .here then folder else ⟨g.anchor, []⟩

/-- The names that a pattern leads to. Names before its first wildcard are not looked up, and
`**` finds its own place whatever lies there, only not the start itself. -/
def places (t : Tree) (folder : Path) (g : Glob) : List (List String) :=
  let rest := g.segments.dropWhile Segment.isName
  if g.wantsDirectory then []
  else if rest.isEmpty then
    if (t.find? ((g.base folder).join ⟨.here, g.start⟩)).isSome then [g.start] else []
  else (expandAll t (g.base folder) [g.start] rest).filter (!·.isEmpty)

/-- The files that a pattern names in a folder. -/
def files (t : Tree) (folder : Path) (g : Glob) : List Path :=
  ((g.places t folder).map fun names => folder.resolve ⟨g.anchor, names⟩).filter t.isFileAt

end Glob

end Sieve.Files
