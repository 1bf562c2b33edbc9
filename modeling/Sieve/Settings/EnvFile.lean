import Sieve.Text.Blank

/-!
Files of environment variables: one assignment a line, with optional quotes and comments. A line
that is none is passed over. In all values a name in braces behind a dollar sign stands for the
variable.
-/

namespace Sieve.Settings.EnvFile

open Text

/-- A variable with its value; a name alone has none. -/
abbrev Binding := String × Option String

def isInlineBlank (c : Char) : Bool := isBlank c && c ≠ '\n' && c ≠ '\r'

def isLineEnd (c : Char) : Bool := c = '\n' || c = '\r'

/-- The word in front of an assignment that means nothing here. -/
def behindExport (l : List Char) : List Char :=
  let word := "export".toList
  if word.isPrefixOf l then
    let r := l.drop word.length
    if r.head?.any isInlineBlank then r.dropWhile isInlineBlank else l
  else l

/-- The name of a variable, perhaps in quotes; a comment has none. On failure the rest of the
text is given. -/
def readName (l : List Char) : Except (List Char) (Option String × List Char) :=
  match l with
  | '#' :: _ => .ok (none, l)
  | '\'' :: r =>
    let name := r.takeWhile (· ≠ '\'')
    match r.drop name.length with
    | _ :: rest => if name.isEmpty then .error l else .ok (some (String.ofList name), rest)
    | [] => .error l
  | _ =>
    let name := l.takeWhile fun c => c ≠ '=' && c ≠ '#' && !isBlank c
    if name.isEmpty then .error l else .ok (some (String.ofList name), l.drop name.length)

/-- The number of characters before the first quote that no backslash precedes. -/
def openLength? (q before : Char) : List Char → Option Nat
  | [] => none
  | c :: r =>
    if c = q && before ≠ '\\' then some 0 else (openLength? q c r).map (· + 1)

/-- The number of characters before the last quote. -/
def lastLength? (q : Char) (l : List Char) : Option Nat :=
  let r := l.reverse.dropWhile (· ≠ q)
  if r.isEmpty then none else some (r.length - 1)

/-- The characters in quotes behind the opening one. -/
def quotedBody? (q : Char) (l : List Char) : Option (List Char × List Char) :=
  ((openLength? q q l).orElse fun _ => lastLength? q l).map fun n => (l.take n, l.drop (n + 1))

/-- The characters that stand behind a backslash for others. -/
def escapesOf (q : Char) : List (Char × Char) :=
  let common := [('\\', '\\'), ('\'', '\'')]
  if q = '"' then
    common ++ [('"', '"'), ('a', '\x07'), ('b', '\x08'), ('f', '\x0c'), ('n', '\n'), ('r', '\r'),
      ('t', '\t'), ('v', '\x0b')]
  else common

def unescape (q : Char) : List Char → List Char
  | '\\' :: c :: r =>
    match (escapesOf q).lookup c with
    | some x => x :: unescape q r
    | none => '\\' :: unescape q (c :: r)
  | c :: r => c :: unescape q r
  | [] => []

/-- The text before blanks that a number sign follows. -/
def beforeComment : List Char → List Char
  | [] => []
  | c :: r =>
    if isBlank c && (r.dropWhile isBlank).head? = some '#' then [] else c :: beforeComment r

def readValue (l : List Char) : Except (List Char) (String × List Char) :=
  let inQuotes (q : Char) (r : List Char) : Except (List Char) (String × List Char) :=
    match quotedBody? q r with
    | some (body, rest) => .ok (String.ofList (unescape q body), rest)
    | none => .error l
  match l with
  | '\'' :: r => inQuotes '\'' r
  | '"' :: r => inQuotes '"' r
  | _ =>
    let line := l.takeWhile fun c => !isLineEnd c
    .ok (String.ofList (dropEndWhile isBlank (beforeComment line)), l.drop line.length)

/-- The rest behind a comment, if there is one. -/
def behindComment (l : List Char) : List Char :=
  match l.dropWhile isInlineBlank with
  | '#' :: r => r.dropWhile fun c => !isLineEnd c
  | _ => l

/-- Nothing but blanks stands before the end of the line. -/
def behindLine (l : List Char) : Except (List Char) (List Char) :=
  match l.dropWhile isInlineBlank with
  | [] => .ok []
  | '\r' :: '\n' :: r => .ok r
  | c :: r => if isLineEnd c then .ok r else .error l

/-- One line that begins with no blank. -/
def readLine (l : List Char) : Except (List Char) (Option Binding × List Char) := do
  let (name, l) ← readName (behindExport l)
  let l := l.dropWhile isInlineBlank
  let (value, l) ←
    match l with
    | '=' :: r => (readValue (r.dropWhile isInlineBlank)).map fun (v, rest) => (some v, rest)
    | l => pure (none, l)
  let rest ← behindLine (behindComment l)
  return (name.map (·, value), rest)

/-- All assignments of a text; `fuel` bounds the number of lines. -/
def readLines : (fuel : Nat) → List Char → List Binding
  | 0, _ => []
  | k + 1, l =>
    match l.dropWhile isBlank with
    | [] => []
    | l =>
      match readLine l with
      | .ok (b, rest) => b.toList ++ readLines k rest
      | .error rest => readLines k ((rest.dropWhile fun c => !isLineEnd c).drop 1)

/-- A variable in a value, behind its opening brace: its name, its default and the rest. -/
def reference? (l : List Char) : Option (String × Option String × List Char) :=
  let name := l.takeWhile fun c => c ≠ '\x7d' && c ≠ ':'
  match l.drop name.length with
  | '\x7d' :: rest => some (String.ofList name, none, rest)
  | ':' :: '-' :: r =>
    let default := r.takeWhile (· ≠ '\x7d')
    match r.drop default.length with
    | _ :: rest => some (String.ofList name, some (String.ofList default), rest)
    | [] => none
  | _ => none

/-- A value with its variables replaced; `fuel` bounds their number. -/
def expand (known : List Binding) : (fuel : Nat) → List Char → List Char
  | 0, l => l
  | _, [] => []
  | k + 1, c :: r =>
    match c, r with
    | '$', '\x7b' :: inner =>
      match reference? inner with
      | some (name, default, rest) =>
        let value := ((known.lookup name).getD (some (default.getD ""))).getD ""
        value.toList ++ expand known k rest
      | none => c :: expand known k r
    | _, _ => c :: expand known k r

/-- The last assignment of a name counts, in the place of the first. -/
def put (l : List Binding) (b : Binding) : List Binding :=
  match l with
  | [] => [b]
  | a :: r => if a.1 = b.1 then b :: r else a :: put r b

/-- The variables that a text sets. Values may use variables of the surroundings and those set
before. -/
def read (surroundings : List (String × String)) (text : String) : List Binding :=
  let l := text.toList
  let outer := surroundings.map fun (k, v) => (k, some v)
  (readLines (l.length + 1) l).foldl
    (fun done (name, value) =>
      put done (name, value.map fun v =>
        String.ofList (expand (done ++ outer) (v.toList.length + 1) v.toList)))
    []

end Sieve.Settings.EnvFile
