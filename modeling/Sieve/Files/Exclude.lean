import Sieve.Files.Path
import Sieve.Files.Wildcard
import Sieve.Text.Quoted

/-!
Patterns of paths that are left out. A pattern starts at the folder; one that leads to a directory
leaves out all below it. A segment `**` stands for any number of directories.
-/

namespace Sieve.Files

/-- One step of a pattern; a star alone wants at least one character. -/
inductive ExcludeSegment where
  | name (pattern : List Wild)
  | anyDepth
deriving DecidableEq, Repr

structure Exclude where
  segments : List ExcludeSegment
  /-- A slash at the end leaves out what lies in directories only. -/
  wantsDirectory : Bool
deriving DecidableEq, Repr

/-- Why a pattern leaves out nothing but fails. -/
inductive ExcludeFault where
  /-- The line ends within an escape. -/
  | openEscape (line : String)
  /-- A range runs backwards; the place counts in the expanded form of the line. -/
  | backwardRange (first last : Char) (place : Nat)
deriving DecidableEq, Repr

namespace ExcludeFault

/-- A character of a set in the expanded form. -/
def setChar (c : Char) : String := if c = '\\' then "\\\\" else c.toString

def message : ExcludeFault → String
  | openEscape line => s!"Invalid git pattern: {Text.quoted line}"
  | backwardRange first last place =>
    s!"bad character range {setChar first}-{setChar last} at position {place}"

end ExcludeFault

namespace Exclude

/-- Both an exclamation mark and a caret negate a set, and a backslash escapes. -/
def dialect : Wild.Dialect := ⟨['!', '^'], true⟩

def segmentOf? (s : String) : Option ExcludeSegment :=
  if s = "**" then some .anyDepth
  else if s = "*" then some (.name [.one, .run])
  else (Wild.ofText? dialect s).map .name

/-- Of several `**` in a row one stays. -/
def collapse : List ExcludeSegment → List ExcludeSegment
  | .anyDepth :: .anyDepth :: l => collapse (.anyDepth :: l)
  | s :: l => s :: collapse l
  | [] => []

/-- The line without blanks around it; a blank behind a backslash at the end stays. -/
def stripped (line : String) : List Char :=
  let l := line.toList
  if [' ', '\\'].isPrefixOf l.reverse then l.dropWhile Text.isBlank else Text.trim l

/-- The segments of a line behind its slash in front. A slash at the end adds `**`. -/
def segmentTexts (line : List Char) : List String × Bool :=
  let parts := (Text.splitOn '/' (line.drop 1)).map String.ofList
  if 1 < parts.length && parts.getLast? = some "" then (parts.dropLast ++ ["**"], true)
  else (parts, false)

/-- The characters of a text that are written with a backslash in the expanded form. -/
def isSpecial (c : Char) : Bool :=
  "()[]\x7b\x7d?*+-|^$\\.&~# \t\n\x0d\x0b\x0c".toList.contains c

def setWidth (ranges : List (Char × Char)) : Nat :=
  let width (c : Char) : Nat := if c = '\\' then 2 else 1
  ranges.foldl (fun n (a, b) => n + if a = b then width a else width a + 1 + width b) 0

/-- The length of the expanded form. -/
def width : Wild → Nat
  | .char c => if isSpecial c then 2 else 1
  | .one => 4
  | .run => 5
  | .oneOf negated ranges => setWidth ranges + (if negated then 3 else 2)

/-- The first range that runs backwards in wildcards whose expanded form begins at `place`. -/
def backwardIn (place : Nat) : List Wild → Option ExcludeFault
  | [] => none
  | .oneOf negated ranges :: ws =>
    let (before, after) := ranges.span fun (a, b) => a ≤ b
    match after with
    | (a, b) :: _ =>
      some (.backwardRange a b (place + (if negated then 2 else 1) + setWidth before))
    | [] => backwardIn (place + width (.oneOf negated ranges)) ws
  | w :: ws => backwardIn (place + width w) ws

/-- The first range that runs backwards in the segments. -/
def backward (place : Nat) (slashed : Bool) : List ExcludeSegment → Option ExcludeFault
  | [] => none
  | .anyDepth :: l => backward (place + 8) slashed l
  | .name ws :: l =>
    let start := place + (if slashed then 1 else 0)
    let size := if ws = [.one, .run] then 5 else ws.foldl (fun n w => n + width w) 0
    match backwardIn start ws with
    | some f => some f
    | none => backward (start + size) true l

/-- The pattern of a line that begins with a slash; a slash alone is none. -/
def ofLine? (line : String) : Except ExcludeFault (Option Exclude) :=
  let l := stripped line
  if l = ['/'] then .ok none
  else
    let (texts, wantsDirectory) := segmentTexts l
    match texts.mapM segmentOf? with
    | none => .error (.openEscape line)
    | some segments =>
      let segments := collapse segments
      match backward 1 false segments with
      | some f => .error f
      | none => .ok (some ⟨segments, wantsDirectory⟩)

/-- `k` holds of the text or of a part of it behind a slash. -/
def atSomeName (k : List Char → Bool) : List Char → Bool
  | [] => k []
  | c :: l => k (c :: l) || laterName (c :: l)
where
  laterName : List Char → Bool
    | [] => false
    | c :: l => (c == '/' && k l) || laterName l

def behindSlash (k : List Char → Bool) : List Char → Bool
  | '/' :: l => k l
  | _ => false

def endsOrGoesBelow : List Char → Bool
  | [] => true
  | c :: _ => c == '/'

/-- The segments lead to a path, from where a name begins. -/
def leadsTo : List ExcludeSegment → List Char → Bool
  | [] => fun _ => true
  | [.anyDepth] => fun _ => true
  | .anyDepth :: rest => atSomeName (leadsTo rest)
  | [.name ws] => Wild.allBefore ws endsOrGoesBelow
  | .name ws :: rest => Wild.allBefore ws (behindSlash (leadsTo rest))

/-- The pattern leaves out the path with these names; the folder itself is a dot. -/
def leavesOut (e : Exclude) (names : List String) : Bool :=
  let path := (Path.text ⟨.here, names⟩).toList
  if e.segments = [.anyDepth] then !e.wantsDirectory || path.contains '/'
  else leadsTo e.segments path

end Exclude

end Sieve.Files
