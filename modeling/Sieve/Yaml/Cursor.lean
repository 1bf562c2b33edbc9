import Sieve.Yaml.Fault

/-!
A position in a text with the characters ahead. Past the end stands the character zero, which no
text holds.
-/

namespace Sieve.Yaml

/-- Which notation is read, and what the reading keeps. -/
structure Dialect where
  /-- Specs are read with their lines and comments, settings without. -/
  isSpec : Bool
  /-- The version of the notation. -/
  version : Nat × Nat
deriving DecidableEq, Repr

namespace Dialect

/-- Specs are written in version 1.2 unless they say otherwise. -/
def spec : Dialect := ⟨true, (1, 2)⟩

/-- Settings are written in version 1.1. -/
def settings : Dialect := ⟨false, (1, 1)⟩

/-- The rules of version 1.1 for colons and question marks in flow collections. -/
def isOld (d : Dialect) : Bool := d.version = (1, 1)

/-- The version is above 1.1. -/
def isNew (d : Dialect) : Bool :=
  1 < d.version.1 || (d.version.1 = 1 && 1 < d.version.2)

end Dialect

/-- The character past the end. -/
def nul : Char := '\x00'

/-- Line breaks of all kinds. -/
def isBreak (c : Char) : Bool :=
  c = '\r' || c = '\n' || c = '\x85' || c = '\u2028' || c = '\u2029'

/-- What ends a line in the sense of markers and comments. -/
def Dialect.isEnd (d : Dialect) (c : Char) : Bool :=
  c = nul || c = '\n' || c = '\r' || c = '\x85' ||
    (!d.isSpec && (c = '\u2028' || c = '\u2029'))

/-- The end of a line, a space or a tab. -/
def Dialect.isEndOrBlank (d : Dialect) (c : Char) : Bool :=
  c = ' ' || c = '\t' || d.isEnd c

/-- The end of the text, a space, or a line break of any kind. -/
def isGap (c : Char) : Bool := c = nul || c = ' ' || isBreak c

structure Cursor where
  dialect : Dialect
  rest : List Char
  mark : Mark
deriving Repr

namespace Cursor

def start (d : Dialect) (text : List Char) : Cursor := ⟨d, text, ⟨0, 0, 0⟩⟩

/-- The character `k` places ahead. -/
def peek (c : Cursor) (k : Nat) : Char := c.rest.getD k nul

/-- The character at the position. -/
def char (c : Cursor) : Char := c.rest.headD nul

/-- The character moves on to a new line. A carriage return before a line feed does not; the
rarer line breaks do in settings only. -/
def breaksLine (d : Dialect) (ch : Char) (next : List Char) : Bool :=
  ch = '\n' || (ch = '\r' && next.head? ≠ some '\n') ||
    (!d.isSpec && (ch = '\x85' || ch = '\u2028' || ch = '\u2029'))

/-- The place after one character. A byte order mark takes no column. -/
def Mark.after (d : Dialect) (m : Mark) (ch : Char) (next : List Char) : Mark :=
  if breaksLine d ch next then ⟨m.index + 1, m.line + 1, 0⟩
  else if ch = '\ufeff' then { m with index := m.index + 1 }
  else ⟨m.index + 1, m.line, m.column + 1⟩

/-- One character further; the end stays where it is. -/
def next (c : Cursor) : Cursor :=
  match c.rest with
  | [] => c
  | ch :: r => { c with rest := r, mark := Mark.after c.dialect c.mark ch r }

/-- `k` characters further. -/
def forward (c : Cursor) : Nat → Cursor
  | 0 => c
  | k + 1 => c.next.forward k

/-- Past all characters of a kind. -/
def skipWhile (c : Cursor) (p : Char → Bool) : Cursor := c.forward (c.rest.takeWhile p).length

def skipSpaces (c : Cursor) : Cursor := c.skipWhile (· = ' ')

/-- The break at the position and the cursor behind it: most kinds become a line feed. -/
def lineBreak (c : Cursor) : List Char × Cursor :=
  match c.rest with
  | '\r' :: '\n' :: _ => (['\n'], c.forward 2)
  | ch :: _ =>
    if ch = '\r' || ch = '\n' || ch = '\x85' then (['\n'], c.next)
    else if ch = '\u2028' || ch = '\u2029' then ([ch], c.next)
    else ([], c)
  | [] => ([], c)

/-- Three dashes or dots of a document marker, with nothing glued to them. -/
def isAtSeparator (c : Cursor) : Bool :=
  match c.rest with
  | '-' :: '-' :: '-' :: r => c.dialect.isEndOrBlank (r.headD nul)
  | '.' :: '.' :: '.' :: r => c.dialect.isEndOrBlank (r.headD nul)
  | _ => false

def isAtDocumentStart (c : Cursor) : Bool :=
  c.mark.column = 0 && c.char = '-' && c.isAtSeparator

def isAtDocumentEnd (c : Cursor) : Bool :=
  c.mark.column = 0 && c.char = '.' && c.isAtSeparator

end Cursor

/-- Reading on from a cursor. -/
abbrev Scan := StateT Cursor (Except Fault)

/-- A fault at the cursor, inside a construct that begins at `start`. -/
def Scan.fail {α : Type} (context : String) (start : Mark) (problem : String) : Scan α := do
  throw (.inside context start problem (← get).mark)

/-- A character as messages show it. -/
def shown (c : Char) : String := Text.quoted (String.singleton c)

end Sieve.Yaml
