import Sieve.Yaml.Lexeme.Flow

/-!
Block scalars: a header line, then all lines at or beyond an indentation. Folded ones join lines
that are not indented further. What becomes of the breaks at the end the header says: one is
kept, or none, or all.
-/

namespace Sieve.Yaml

inductive Chomping where
  | clip
  | strip
  | keep
deriving DecidableEq, Repr

/-- The header of a block scalar: what happens at its end, and its indentation if that is given. -/
structure BlockHeader where
  chomping : Chomping
  increment : Option Nat
deriving DecidableEq, Repr

def blockContext : String := "while scanning a block scalar"

/-- A digit that gives an indentation, if one stands here. -/
def scanIncrement (start : Mark) : Scan (Option Nat) := do
  let c ← get
  if Decimal.isDigit c.char then
    if c.char = '0' then
      Scan.fail blockContext start
        "expected indentation indicator in the range 1-9, but found 0"
    set c.next
    return some (Decimal.digitValue c.char)
  else return none

def chompingOf? (c : Char) : Option Chomping :=
  if c = '+' then some .keep else if c = '-' then some .strip else none

def scanBlockHeader (start : Mark) : Scan BlockHeader := do
  let c ← get
  let header ← match chompingOf? c.char with
    | some chomping => do
      set c.next
      pure { chomping, increment := ← scanIncrement start }
    | none => do
      match ← scanIncrement start with
      | none => pure ⟨.clip, none⟩
      | some n =>
        let c ← get
        match chompingOf? c.char with
        | some chomping =>
          set c.next
          pure ⟨chomping, some n⟩
        | none => pure ⟨.clip, some n⟩
  let c ← get
  if !isGap c.char then
    Scan.fail blockContext start
      s!"expected chomping or indentation indicators, but found {shown c.char}"
  return header

/-- The comment on the rest of a line that may hold nothing else, with the blanks before it. -/
def scanIgnoredLine (context : String) (start : Mark) : Scan (Option (List Char)) := do
  let before ← get
  let c := before.skipSpaces
  let isComment := c.char = '#'
  let c := if isComment then c.skipWhile (!c.dialect.isEnd ·) else c
  set c
  if !c.dialect.isEnd c.char then
    Scan.fail context start s!"expected a comment or a line break, but found {shown c.char}"
  set c.lineBreak.2
  return if isComment then some (before.rest.take (c.mark.index - before.mark.index)) else none

/-- Empty lines before the first line of a block scalar. -/
structure LeadingLines where
  breaks : List Char
  /-- The column of the first empty line. -/
  firstIndent : Option Nat
  maxIndent : Nat

def scanLeadingLines : (fuel : Nat) → LeadingLines → Cursor → LeadingLines × Cursor
  | 0, acc, c => (acc, c)
  | k + 1, acc, c =>
    if c.char = ' ' then
      let c := c.next
      scanLeadingLines k { acc with maxIndent := max acc.maxIndent c.mark.column } c
    else if isBreak c.char then
      let (b, c') := c.lineBreak
      scanLeadingLines k
        { acc with breaks := acc.breaks ++ b,
                   firstIndent := acc.firstIndent.orElse fun _ => some c.mark.column } c'
    else (acc, c)

/-- Spaces up to an indentation. -/
def Cursor.skipIndent (indent : Nat) (c : Cursor) : Cursor :=
  let spaces := (c.rest.takeWhile (· = ' ')).length
  c.forward (min spaces (indent - c.mark.column))

/-- Empty lines inside a block scalar. -/
def scanBlockBreaks (indent : Nat) : (fuel : Nat) → Cursor → List Char × Cursor
  | 0, c => ([], c)
  | k + 1, c =>
    let c := c.skipIndent indent
    if isBreak c.char then
      let (b, c) := c.lineBreak
      let (bs, c) := scanBlockBreaks indent k c
      (b ++ bs, c)
    else ([], c)

def Cursor.blockBreaks (indent : Nat) (c : Cursor) : List Char × Cursor :=
  scanBlockBreaks indent (c.rest.length + 1) c

/-- The lines of a block scalar read so far: its text, the last break, and the breaks after it. -/
structure BlockLines where
  text : List Char
  lineBreak : List Char
  breaks : List Char

/-- Spec documents end a block scalar without indentation at a document marker. -/
def Cursor.endsBlock (minIndent : Nat) (c : Cursor) : Bool :=
  c.dialect.isSpec && minIndent = 0 && (c.isAtDocumentStart || c.isAtDocumentEnd)

def scanBlockLines (folded : Bool) (minIndent indent : Nat) : (fuel : Nat) → BlockLines →
    Cursor → BlockLines × Cursor
  | 0, acc, c => (acc, c)
  | k + 1, acc, c =>
    if c.mark.column = indent && !c.rest.isEmpty then
      let isText := c.char ≠ ' ' && c.char ≠ '\t'
      let line := c.rest.takeWhile (!c.dialect.isEnd ·)
      let c := c.forward line.length
      let (b, c) := c.lineBreak
      let (bs, c) := c.blockBreaks indent
      let text := acc.text ++ acc.breaks ++ line
      if c.endsBlock minIndent then (⟨text, b, bs⟩, c)
      else if c.mark.column = indent && !c.rest.isEmpty then
        let joint :=
          if folded && b = ['\n'] && isText && c.char ≠ ' ' && c.char ≠ '\t' then
            if bs.isEmpty then [' '] else []
          else b
        scanBlockLines folded minIndent indent k ⟨text ++ joint, b, bs⟩ c
      else (⟨text, b, bs⟩, c)
    else (acc, c)

/-- A block scalar as read: its text, the comment in its header, and the breaks at its end that are
no part of the text. -/
structure BlockScalar where
  text : List Char
  header : Option (List Char)
  dropped : List Char

/-- A block scalar, the cursor being at its indicator and `parent` the indentation around it. -/
def scanBlock (folded : Bool) (parent : Int) : Scan BlockScalar := do
  let c ← get
  let start := c.mark
  set c.next
  let header ← scanBlockHeader start
  let comment ← scanIgnoredLine blockContext start
  let least := (parent + 1).toNat
  let c ← get
  let (minIndent, indent, breaks) ←
    match header.increment with
    | none => do
      let minIndent := if c.dialect.isSpec then least else max least 1
      let (lead, c) := scanLeadingLines (c.rest.length + 1) ⟨[], none, 0⟩ c
      set c
      if c.dialect.isSpec then
        if let some n := lead.firstIndent then
          if 0 < n && n < lead.maxIndent then
            throw (.broken (some "more indented follow up line than first in a block scalar")
              (some c.mark) none none)
      pure (minIndent, max minIndent lead.maxIndent, lead.breaks)
    | some n => do
      let minIndent := max least 1
      let indent := minIndent + n - 1
      let (breaks, c) := c.blockBreaks indent
      set c
      pure (minIndent, indent, breaks)
  let c ← get
  let (lines, c) := scanBlockLines folded minIndent indent (c.rest.length + 1) ⟨[], [], breaks⟩ c
  set c
  return match header.chomping with
    | .clip => ⟨lines.text ++ lines.lineBreak, comment, lines.breaks⟩
    | .strip => ⟨lines.text, comment, lines.breaks⟩
    | .keep => ⟨lines.text ++ lines.lineBreak ++ lines.breaks, comment, []⟩

end Sieve.Yaml
