import Sieve.Text.Utf8
import Sieve.Yaml.Lexeme.Block
import Sieve.Yaml.Token

/-!
Anchors and references to them, tags, and directives.
-/

namespace Sieve.Yaml

def isAsciiWord (c : Char) : Bool :=
  ('0' ≤ c && c ≤ '9') || ('A' ≤ c && c ≤ 'Z') || ('a' ≤ c && c ≤ 'z') || c = '-' || c = '_'

/-- Characters of anchor names: specs admit all that are no blanks, brackets or commas. -/
def Dialect.isNameChar (d : Dialect) (c : Char) : Bool :=
  if d.isSpec then
    let n := c.toNat
    !(c = ',' || c = '[' || c = ']' || c = '\x7b' || c = '\x7d') &&
      ((0x21 ≤ n && n ≤ 0x7e) || (0xa0 ≤ n && n ≤ 0xd7ff) ||
        (0xe000 ≤ n && n ≤ 0xfffd && n ≠ 0xfeff) || 0x10000 ≤ n)
  else isAsciiWord c

/-- What may follow an anchor name. -/
def Dialect.endsName (d : Dialect) (c : Char) : Bool :=
  isGap c || c = '\t' || ['?', ':', ',', ']', '\x7d', '%', '@', '\x60'].contains c ||
    (d.isSpec && (c = '[' || c = '\x7b'))

/-- The name behind an ampersand or an asterisk. -/
def scanName : Scan String := do
  let c ← get
  let context := if c.char = '*' then "while scanning an alias" else "while scanning an anchor"
  let start := c.mark
  let c := c.next
  let name := c.rest.takeWhile c.dialect.isNameChar
  let c := c.forward name.length
  let wrong (ch : Char) : Scan String :=
    Scan.fail context start s!"expected alphabetic or numeric character, but found {shown ch}"
  set c
  if name.isEmpty || !c.dialect.endsName c.char then wrong c.char
  else return String.ofList name

/-- What is being read when a tag is: the tag of a node, or the one that a directive defines. -/
inductive TagUse where
  | node
  | directive
deriving DecidableEq, Repr

def TagUse.word : TagUse → String
  | node => "tag"
  | directive => "directive"

def TagUse.scanning (u : TagUse) : String := s!"while scanning a {u.word}"

def TagUse.parsing (u : TagUse) : String := s!"while parsing a {u.word}"

/-- A handle: exclamation marks around a word, or a single one. -/
def scanHandle (u : TagUse) (start : Mark) : Scan String := do
  let c ← get
  if c.char ≠ '!' then
    Scan.fail u.scanning start s!"expected '!', but found {shown c.char}"
  if c.peek 1 = ' ' then
    set c.next
    return "!"
  else
    let word := (c.rest.drop 1).takeWhile isAsciiWord
    let c := c.forward (word.length + 1)
    if c.char ≠ '!' then
      set c
      let comma := if c.dialect.isSpec then "" else ","
      Scan.fail u.scanning start s!"expected '!'{comma} but found {shown c.char}"
    set c.next
    return String.ofList ('!' :: word ++ ['!'])

def uriMarks : List Char := "-;/?:@&=+$,_.!~*'()[]%".toList

def Dialect.isUriChar (d : Dialect) (c : Char) : Bool :=
  isAsciiWord c || uriMarks.contains c || (d.isNew && c = '#')

/-- The bytes of percent escapes. -/
def scanUriBytes (u : TagUse) (start : Mark) : (fuel : Nat) → Scan (List UInt8)
  | 0 => return []
  | k + 1 => do
    let c ← get
    if c.char ≠ '%' then return []
    let c := c.next
    set c
    let digits := [c.peek 0, c.peek 1]
    match digits.find? (fun ch => (Decimal.hexValue? ch).isNone) with
    | some ch =>
      Scan.fail u.scanning start
        s!"expected URI escape sequence of 2 {c.dialect.hexWord} numbers, but found {shown ch}"
    | none =>
      set (c.forward 2)
      let b := UInt8.ofNat ((Decimal.natOfBase? 16 digits).getD 0)
      return b :: (← scanUriBytes u start k)

/-- The parts of a tag between percent escapes, and the escapes. -/
def scanUriParts (u : TagUse) (start : Mark) : (fuel : Nat) → Scan (List Char)
  | 0 => return []
  | k + 1 => do
    let c ← get
    if c.char = '%' then
      let bytes ← scanUriBytes u start (c.rest.length + 1)
      match Text.Utf8.decode bytes with
      | .ok s => return s.toList ++ (← scanUriParts u start k)
      | .error f => throw (.inside u.scanning start f.message c.mark)
    else
      let run := c.rest.takeWhile fun ch => c.dialect.isUriChar ch && ch ≠ '%'
      if run.isEmpty then return []
      set (c.forward run.length)
      return run ++ (← scanUriParts u start k)

def scanUri (u : TagUse) (start : Mark) : Scan String := do
  let c ← get
  if !c.dialect.isUriChar c.char then
    Scan.fail u.parsing start s!"expected URI, but found {shown c.char}"
  return String.ofList (← scanUriParts u start (c.rest.length + 1))

/-- The characters of a tag up to a second exclamation mark contain one. -/
def hasSecondMark (l : List Char) : Bool := (l.takeWhile (!isGap ·)).contains '!'

/-- A tag: in angle brackets, a lone mark, or a handle with a suffix. -/
def scanTag : Scan Token.Kind := do
  let c ← get
  let start := c.mark
  let (handle, suffix) ←
    if c.peek 1 = '<' then do
      set (c.forward 2)
      let suffix ← scanUri .node start
      let c ← get
      if c.char ≠ '>' then
        let comma := if c.dialect.isSpec then "" else ","
        Scan.fail "while parsing a tag" start s!"expected '>'{comma} but found {shown c.char}"
      set c.next
      pure (none, suffix)
    else if c.dialect.isEndOrBlank (c.peek 1) then do
      set c.next
      pure (none, "!")
    else do
      let handle ←
        if hasSecondMark (c.rest.drop 1) then scanHandle .node start
        else do
          set c.next
          pure "!"
      pure (some handle, ← scanUri .node start)
  let c ← get
  if !isGap c.char then
    Scan.fail "while scanning a tag" start s!"expected ' ', but found {shown c.char}"
  return .tag handle suffix

def directiveContext : String := "while scanning a directive"

def Dialect.isDirectiveChar (d : Dialect) (c : Char) : Bool :=
  isAsciiWord c || (d.isSpec && (c = ':' || c = '.'))

def scanDirectiveName (start : Mark) : Scan String := do
  let c ← get
  let name := c.rest.takeWhile c.dialect.isDirectiveChar
  let c := c.forward name.length
  set c
  if name.isEmpty || !isGap c.char then
    Scan.fail directiveContext start
      s!"expected alphabetic or numeric character, but found {shown c.char}"
  return String.ofList name

def scanVersionNumber (start : Mark) : Scan Nat := do
  let c ← get
  let digits := c.rest.takeWhile Decimal.isDigit
  if digits.isEmpty then
    Scan.fail directiveContext start s!"expected a digit, but found {shown c.char}"
  set (c.forward digits.length)
  return Decimal.natOf digits

def scanVersion (start : Mark) : Scan Directive := do
  modify Cursor.skipSpaces
  let major ← scanVersionNumber start
  let c ← get
  if c.char ≠ '.' then
    Scan.fail directiveContext start s!"expected a digit or '.', but found {shown c.char}"
  set c.next
  let minor ← scanVersionNumber start
  let c ← get
  if !isGap c.char then
    Scan.fail directiveContext start s!"expected a digit or ' ', but found {shown c.char}"
  return .version major minor

def scanTagDirective (start : Mark) : Scan Directive := do
  modify Cursor.skipSpaces
  let handle ← scanHandle .directive start
  let c ← get
  if c.char ≠ ' ' then
    Scan.fail directiveContext start s!"expected ' ', but found {shown c.char}"
  set c.skipSpaces
  let uri ← scanUri .directive start
  let c ← get
  if !isGap c.char then
    Scan.fail directiveContext start s!"expected ' ', but found {shown c.char}"
  return .tag handle uri

/-- A directive up to the end of its line, with the place where it ends itself. A version counts
for the rest of a spec from there on. -/
def scanDirective : Scan (Directive × Mark) := do
  let c ← get
  let start := c.mark
  set c.next
  let name ← scanDirectiveName start
  let directive ←
    if name = "YAML" then scanVersion start
    else if name = "TAG" then scanTagDirective start
    else pure (.other name)
  let c ← get
  let finish := c.mark
  if let .other _ := directive then set (c.skipWhile (!c.dialect.isEnd ·))
  if let .version major minor := directive then
    if c.dialect.isSpec then
      set { c with dialect := { c.dialect with version := (major, minor) } }
  discard (scanIgnoredLine directiveContext start)
  return (directive, finish)

end Sieve.Yaml
