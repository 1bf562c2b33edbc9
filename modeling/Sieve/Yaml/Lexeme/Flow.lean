import Sieve.Decimal.Read
import Sieve.Yaml.Comment
import Sieve.Yaml.Cursor

/-!
Scalars without quotes and in quotes. Line breaks inside them fold: a single one becomes a
space, and of several the first is dropped.
-/

namespace Sieve.Yaml

/-- A scalar as read: its text, its end, the blanks after it, and whether a line ended in them. -/
structure PlainScalar where
  text : List Char
  finish : Mark
  blanks : List Char
  endsLine : Bool

/-- The empty lines after a scalar as a comment behind it. -/
def PlainScalar.comments (p : PlainScalar) (start : Mark) : Option Comments :=
  if p.blanks.head? = some '\n' then
    some (.ofBehind ⟨String.ofList (p.blanks ++ ['\n']), some start⟩)
  else none

def flowIndicators : List Char := [',', ':', '?', '[', ']', '\x7b', '\x7d']

def flowBrackets : List Char := [',', '[', ']', '\x7b', '\x7d']

/-- A plain scalar stops at `c`, which stands before `next`. -/
def Dialect.stopsPlain (d : Dialect) (inFlow : Bool) (c next : Char) : Bool :=
  if d.isSpec then
    if c = ':' && !d.isEndOrBlank next then false
    else if c = '?' && !d.isOld then false
    else
      d.isEndOrBlank c || (!inFlow && c = ':' && d.isEndOrBlank next) ||
        (inFlow && flowIndicators.contains c)
  else
    d.isEndOrBlank c ||
      (c = ':' && (d.isEndOrBlank next || (inFlow && flowBrackets.contains next))) ||
      (inFlow && (c = '?' || flowBrackets.contains c))

/-- The characters of a plain scalar up to a blank or an indicator. -/
def Dialect.plainRun (d : Dialect) (inFlow : Bool) : List Char → List Char
  | [] => []
  | c :: r => if d.stopsPlain inFlow c (r.headD nul) then [] else c :: d.plainRun inFlow r

/-- Line breaks with the spaces between them, up to a document separator, at which nothing is
returned. -/
def breaksAhead : (fuel : Nat) → Cursor → Option (List Char) × Cursor
  | 0, c => (some [], c)
  | k + 1, c =>
    if c.char = ' ' then breaksAhead k c.next
    else if isBreak c.char then
      let (b, c') := c.lineBreak
      if c'.isAtSeparator then (none, c')
      else
        let (bs, c'') := breaksAhead k c'
        (bs.map (b ++ ·), c'')
    else (some [], c)

/-- What a line break and the breaks behind it mean inside a scalar. -/
def foldBreaks (first : List Char) (others : List Char) : List Char :=
  if first ≠ ['\n'] then first ++ others
  else if others.isEmpty then [' ']
  else others

/-- The blanks after a part of a plain scalar, and whether a line ended in them. -/
def plainSpaces (c : Cursor) : List Char × Bool × Cursor :=
  let spaces := c.rest.takeWhile (· = ' ')
  let c := c.forward spaces.length
  if isBreak c.char then
    let (b, c) := c.lineBreak
    if c.isAtSeparator then ([], true, c)
    else
      match breaksAhead (c.rest.length + 1) c with
      | (none, c) => ([], true, c)
      | (some bs, c) => (foldBreaks b bs, true, c)
  else (spaces, false, c)

/-- The parts of a plain scalar at indentation `indent`, each after the blanks `spaces`. -/
def plainParts (inFlow : Bool) (indent : Int) : (fuel : Nat) → (spaces : List Char) →
    PlainScalar → Cursor → PlainScalar × Cursor
  | 0, _, acc, c => (acc, c)
  | k + 1, spaces, acc, c =>
    let run := if c.char = '#' then [] else c.dialect.plainRun inFlow c.rest
    if run.isEmpty then (acc, c)
    else
      let c := c.forward run.length
      let finish := c.mark
      let (blanks, crossed, c) := plainSpaces c
      let acc : PlainScalar := ⟨acc.text ++ spaces ++ run, finish, blanks, crossed⟩
      if blanks.isEmpty || c.char = '#' || (!inFlow && (c.mark.column : Int) < indent) then (acc, c)
      else plainParts inFlow indent k blanks acc c

def scanPlain (inFlow : Bool) (indent : Int) (c : Cursor) : PlainScalar × Cursor :=
  plainParts inFlow indent (c.rest.length + 1) [] ⟨[], c.mark, [], false⟩ c

/-- The character that an escape of one letter stands for. -/
def escapeReplacement? : Char → Option Char
  | '0' => some '\x00'
  | 'a' => some '\x07'
  | 'b' => some '\x08'
  | 't' => some '\t'
  | '\t' => some '\t'
  | 'n' => some '\n'
  | 'v' => some '\x0b'
  | 'f' => some '\x0c'
  | 'r' => some '\r'
  | 'e' => some '\x1b'
  | ' ' => some ' '
  | '"' => some '"'
  | '/' => some '/'
  | '\\' => some '\\'
  | 'N' => some '\x85'
  | '_' => some '\xa0'
  | 'L' => some '\u2028'
  | 'P' => some '\u2029'
  | _ => none

/-- The number of digits after an escape letter. -/
def escapeWidth? : Char → Option Nat
  | 'x' => some 2
  | 'u' => some 4
  | 'U' => some 8
  | _ => none

/-- Breaks inside a quoted scalar with the blanks between them. -/
def quotedBreaks (start : Mark) : (fuel : Nat) → Scan (List Char)
  | 0 => return []
  | k + 1 => do
    let c ← get
    if c.isAtSeparator then
      Scan.fail "while scanning a quoted scalar" start "found unexpected document separator"
    let c := c.skipWhile fun ch => ch = ' ' || ch = '\t'
    set c
    if isBreak c.char then
      let (b, c) := c.lineBreak
      set c
      return b ++ (← quotedBreaks start k)
    else return []

/-- The blanks inside a quoted scalar. -/
def quotedSpaces (start : Mark) : Scan (List Char) := do
  let c ← get
  let blanks := c.rest.takeWhile fun ch => ch = ' ' || ch = '\t'
  let c := c.forward blanks.length
  set c
  if c.rest.isEmpty then
    Scan.fail "while scanning a quoted scalar" start "found unexpected end of stream"
  else if isBreak c.char then
    let (b, c) := c.lineBreak
    set c
    return foldBreaks b (← quotedBreaks start (c.rest.length + 1))
  else return blanks

/-- The character with a code, and what is wrong with a code that has none. -/
def charOfCode (code : Nat) : Except Fault Nat :=
  if 0x80000000 ≤ code then
    .error (.failed .overflow "Python int too large to convert to C int")
  else if 0x10FFFF < code then
    .error (.failed .value "chr() arg not in range(0x110000)")
  else .ok code

/-- Codes as characters; the two halves of a pair are one character. One half alone is no character,
and U+FFFD stands for it. -/
def joinCodes : List Nat → List Char
  | [] => []
  | [n] => [if 0xD800 ≤ n && n < 0xE000 then '\ufffd' else Char.ofNat n]
  | hi :: lo :: r =>
    if 0xD800 ≤ hi && hi < 0xDC00 && 0xDC00 ≤ lo && lo < 0xE000 then
      Char.ofNat (0x10000 + (hi - 0xD800) * 0x400 + (lo - 0xDC00)) :: joinCodes r
    else (if 0xD800 ≤ hi && hi < 0xE000 then '\ufffd' else Char.ofNat hi) :: joinCodes (lo :: r)

/-- How messages call hexadecimal digits. -/
def Dialect.hexWord (d : Dialect) : String := if d.isSpec then "hexdecimal" else "hexadecimal"

/-- One escape, the cursor being behind the backslash. -/
def quotedEscape (start : Mark) : Scan (List Nat) := do
  let c ← get
  let context := "while scanning a double-quoted scalar"
  match escapeReplacement? c.char with
  | some ch =>
    set c.next
    return [ch.toNat]
  | none =>
    match escapeWidth? c.char with
    | some width =>
      let c := c.next
      set c
      let digits := c.rest.take width
      match (digits ++ List.replicate (width - digits.length) nul).find?
          (fun ch => (Decimal.hexValue? ch).isNone) with
      | some ch =>
        Scan.fail context start
          s!"expected escape sequence of {width} {c.dialect.hexWord} numbers, but found {shown ch}"
      | none =>
        let code ← charOfCode ((Decimal.natOfBase? 16 digits).getD 0)
        set (c.forward width)
        return [code]
    | none =>
      if isBreak c.char then
        set c.lineBreak.2
        return (← quotedBreaks start (c.rest.length + 1)).map Char.toNat
      else Scan.fail context start s!"found unknown escape character {shown c.char}"

/-- The characters that end a run inside quotes. -/
def stopsQuoted (c : Char) : Bool :=
  c = ' ' || c = '\t' || c = '\'' || c = '"' || c = '\\' || c = nul || isBreak c

/-- The text up to the next blank or the closing quote. -/
def quotedNonSpaces (double : Bool) (start : Mark) : (fuel : Nat) → Scan (List Nat)
  | 0 => return []
  | k + 1 => do
    let c ← get
    let run := c.rest.takeWhile (!stopsQuoted ·)
    let c := c.forward run.length
    set c
    let codes := run.map Char.toNat
    let more (found : List Nat) : Scan (List Nat) := do
      return codes ++ found ++ (← quotedNonSpaces double start k)
    if !double && c.char = '\'' && c.peek 1 = '\'' then
      set (c.forward 2)
      more ['\''.toNat]
    else if (double && c.char = '\'') || (!double && (c.char = '"' || c.char = '\\')) then
      set c.next
      more [c.char.toNat]
    else if double && c.char = '\\' then
      set c.next
      more (← quotedEscape start)
    else return codes

/-- The rest of a quoted scalar up to its closing quote. -/
def quotedRest (double : Bool) (quote : Char) (start : Mark) : (fuel : Nat) → Scan (List Nat)
  | 0 => return []
  | k + 1 => do
    let c ← get
    if c.char = quote then
      set c.next
      return []
    else
      let spaces ← quotedSpaces start
      let text ← quotedNonSpaces double start ((← get).rest.length + 1)
      return spaces.map Char.toNat ++ text ++ (← quotedRest double quote start k)

/-- A scalar in quotes. -/
def scanQuoted : Scan (List Char) := do
  let c ← get
  let quote := c.char
  let double := quote = '"'
  set c.next
  let first ← quotedNonSpaces double c.mark (c.rest.length + 1)
  return joinCodes (first ++ (← quotedRest double quote c.mark (c.rest.length + 1)))

end Sieve.Yaml
