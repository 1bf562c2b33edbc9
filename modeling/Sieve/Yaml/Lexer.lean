import Sieve.Yaml.Lexeme.Comment
import Sieve.Yaml.Lexeme.Property
import Sieve.Yaml.Supply

/-!
The tokens of a text, one after another.

Tokens wait in a queue. A scalar, a bracket or an anchor may turn out to be the key of a mapping
only when the colon behind it is met, so such a token is not handed out before that is settled:
a key has to stand on one line and be no longer than 1024 characters. Indentation opens and
closes block collections.

In specs comments and empty lines are tokens too. When the queue is looked at, those in front of
it go to the token behind them. One token beyond the first is always read, so a fault there is met
first.

Where a text breaks off, nothing is known of what follows: a token that ends there is not handed
out, and the fault behind the text is met instead.
-/

namespace Sieve.Yaml

/-- A token that may be a key. -/
structure PendingKey where
  /-- The number of the token, counted from the start of the text. -/
  number : Nat
  /-- At this place nothing but a key may stand. -/
  isRequired : Bool
  mark : Mark
deriving DecidableEq, Repr

inductive FlowKind where
  | sequence
  | mapping
deriving DecidableEq, Repr

structure Lexer where
  cursor : Cursor
  /-- The fault that is met at the end of the text. -/
  beyond : Option Fault
  /-- The queue, first token first. -/
  tokens : List Token
  /-- How many tokens have left the queue. -/
  taken : Nat
  isDone : Bool
  flow : List FlowKind
  indent : Int
  indents : List Int
  keyAllowed : Bool
  /-- At most one for each depth of flow collections. -/
  pending : List (Nat × PendingKey)
deriving Repr

namespace Lexer

def start (d : Dialect) (supply : Supply) : Lexer :=
  let c := Cursor.start d supply.text
  { cursor := c, beyond := supply.fault, tokens := [⟨.streamStart, c.mark, c.mark, none⟩],
    taken := 0, isDone := false, flow := [], indent := -1, indents := [], keyAllowed := true,
    pending := [] }

/-- Steps that may meet a fault. -/
abbrev Step := StateT Lexer (Except Fault)

def inFlow (s : Lexer) : Bool := !s.flow.isEmpty

def level (s : Lexer) : Nat := s.flow.length

def mark (s : Lexer) : Mark := s.cursor.mark

def dialect (s : Lexer) : Dialect := s.cursor.dialect

def pushToken (s : Lexer) (t : Token) : Lexer := { s with tokens := s.tokens ++ [t] }

def push (s : Lexer) (kind : Token.Kind) (start : Mark) (finish : Mark) : Lexer :=
  s.pushToken ⟨kind, start, finish, none⟩

/-- A list with an element put in before position `i`. -/
def insertAt {α : Type} (l : List α) (i : Nat) (a : α) : List α := l.take i ++ a :: l.drop i

/-- Runs a reading from the cursor. -/
def scan {α : Type} (f : Scan α) : Step α := do
  let s ← get
  let (a, c) ← f.run s.cursor
  set { s with cursor := c }
  return a

def missingColon (k : PendingKey) (m : Mark) : Fault :=
  .inside "while scanning a simple key" k.mark "could not find expected ':'" m

/-- Keys that can no longer be settled are given up. -/
def dropStale : Step Unit := do
  let s ← get
  let isStale (k : PendingKey) : Bool :=
    k.mark.line ≠ s.mark.line || 1024 < s.mark.index - k.mark.index
  match s.pending.find? fun (_, k) => isStale k && k.isRequired with
  | some (_, k) => throw (missingColon k s.mark)
  | none => set { s with pending := s.pending.filter fun (_, k) => !isStale k }

/-- The pending key of this depth is given up. -/
def dropPending : Step Unit := do
  let s ← get
  match s.pending.lookup s.level with
  | some k =>
    if k.isRequired then throw (missingColon k s.mark)
    set { s with pending := s.pending.filter fun (l, _) => l ≠ s.level }
  | none => return

/-- The token about to be read may be a key. -/
def savePending : Step Unit := do
  if (← get).keyAllowed then
    dropPending
    let s ← get
    let key : PendingKey :=
      { number := s.taken + s.tokens.length,
        isRequired := !s.inFlow && s.indent = s.mark.column, mark := s.mark }
    set { s with pending := s.pending ++ [(s.level, key)] }

/-- Closes the block collections that are indented beyond the column. -/
def unwindTo (column : Int) : (fuel : Nat) → Lexer → Lexer
  | 0, s => s
  | k + 1, s =>
    if column < s.indent then
      let s := s.push .blockEnd s.mark s.mark
      unwindTo column k { s with indent := s.indents.headD (-1), indents := s.indents.tail }
    else s

def unwind (s : Lexer) (column : Int) : Lexer :=
  if s.inFlow then s else unwindTo column (s.indents.length + 1) s

/-- A block collection begins at the column, if that is further in than the one around it. -/
def opensBlock (s : Lexer) (column : Nat) : Bool := s.indent < column

def openBlock (s : Lexer) (column : Nat) : Lexer :=
  { s with indents := s.indent :: s.indents, indent := column }

/-- One token of a fixed number of characters. -/
def take (kind : Token.Kind) (size : Nat) : Step Unit :=
  modify fun s =>
    let c := s.cursor.forward size
    { s with cursor := c }.push kind s.mark c.mark

def endStream : Step Unit := do
  modify (·.unwind (-1))
  dropPending
  modify fun s =>
    { s with keyAllowed := false, pending := [], isDone := true }.push .streamEnd s.mark s.mark

def readDirective : Step Unit := do
  modify (·.unwind (-1))
  dropPending
  modify ({ · with keyAllowed := false })
  let start := (← get).mark
  let (d, finish) ← scan scanDirective
  modify (·.push (.directive d) start finish)

def readDocumentMarker (kind : Token.Kind) : Step Unit := do
  modify (·.unwind (-1))
  dropPending
  modify ({ · with keyAllowed := false })
  take kind 3

def openFlow (kind : Token.Kind) (flow : FlowKind) : Step Unit := do
  savePending
  modify fun s => { s with flow := flow :: s.flow, keyAllowed := true }
  take kind 1

def closeFlow (kind : Token.Kind) : Step Unit := do
  dropPending
  modify fun s => { s with flow := s.flow.tail, keyAllowed := false }
  take kind 1

def readFlowEntry : Step Unit := do
  modify ({ · with keyAllowed := true })
  dropPending
  take .flowEntry 1

/-- In block context an entry, a key or a value needs a place where a key could stand; it may
begin a collection there. -/
def beginBlock (kind : Token.Kind) (refusal : String) : Step Unit := do
  let s ← get
  if !s.inFlow then
    if !s.keyAllowed then throw (.plain refusal s.mark)
    if s.opensBlock s.mark.column then
      set ((s.openBlock s.mark.column).push kind s.mark s.mark)

def readBlockEntry : Step Unit := do
  beginBlock .blockSequenceStart "sequence entries are not allowed here"
  modify ({ · with keyAllowed := true })
  dropPending
  take .blockEntry 1

def readKey : Step Unit := do
  beginBlock .blockMappingStart "mapping keys are not allowed here"
  modify fun s => { s with keyAllowed := !s.inFlow }
  dropPending
  take .key 1

/-- The pending key is one: it gets its token, and perhaps begins a mapping. -/
def settleKey (k : PendingKey) : Step Unit :=
  modify fun s =>
    let s := { s with pending := s.pending.filter fun (l, _) => l ≠ s.level, keyAllowed := false }
    let place := k.number - s.taken
    let s := { s with tokens := insertAt s.tokens place ⟨.key, k.mark, k.mark, none⟩ }
    if !s.inFlow && s.opensBlock k.mark.column then
      let s := s.openBlock k.mark.column
      { s with tokens := insertAt s.tokens place ⟨.blockMappingStart, k.mark, k.mark, none⟩ }
    else s

def readValue : Step Unit := do
  let s ← get
  match s.pending.lookup s.level with
  | some k => settleKey k
  | none =>
    beginBlock .blockMappingStart "mapping values are not allowed here"
    modify fun s => { s with keyAllowed := !s.inFlow }
    dropPending
  take .value 1

/-- A token that may be a key and after which none may begin. -/
def readAtom (f : Scan Token.Kind) : Step Unit := do
  savePending
  modify ({ · with keyAllowed := false })
  let start := (← get).mark
  let kind ← scan f
  modify fun s => s.push kind start s.mark

/-- Passes blanks, breaks and comments. In specs it stops behind a comment or empty lines. -/
def skipToToken : (fuel : Nat) → Lexer → Option Comment × Lexer
  | 0, s => (none, s)
  | k + 1, s =>
    let isSpec := s.dialect.isSpec
    let c := s.cursor.skipWhile fun ch => ch = ' ' || (isSpec && s.inFlow && ch = '\t')
    let allowed := s.keyAllowed || !s.inFlow
    if c.char = '#' then
      if isSpec then
        let (comment, c) := lineComment c
        (some comment, { s with cursor := c, keyAllowed := allowed })
      else
        skipToToken k { s with cursor := c.skipWhile (!c.dialect.isEnd ·) }
    else if isBreak c.char then
      let c := c.lineBreak.2
      if isSpec && c.char = '\n' then
        let (comment, c) := emptyComment c
        (some comment, { s with cursor := c, keyAllowed := allowed })
      else skipToToken k { s with cursor := c, keyAllowed := allowed }
    else (none, { s with cursor := c })

/-- Comments and empty lines that follow at once, each at its column. -/
def commentsAhead : (fuel : Nat) → Lexer → List Comment × Lexer
  | 0, s => ([], s)
  | k + 1, s =>
    match skipToToken (s.cursor.rest.length + 1) s with
    | (none, s) => ([], s)
    | (some c, s) =>
      let (cs, s) := commentsAhead k s
      (c :: cs, s)

/-- A block scalar of a spec takes the comments behind it where breaks at its end are dropped. -/
def blockComments (b : BlockScalar) (s : Lexer) : Option Comments × Lexer :=
  let before := (b.header.map fun l => (⟨String.ofList l, none⟩ : Comment)).toList
  if !s.dialect.isSpec then (none, s)
  else if b.dropped.isEmpty then
    (if before.isEmpty then none else some ⟨none, before, none⟩, s)
  else
    let (cs, s') := commentsAhead (s.cursor.rest.length + 1) s
    let behind : Comment := ⟨String.ofList b.dropped, some { s.mark with column := 0 }⟩
    (some ⟨some (behind.joined cs), before, none⟩, s')

def readBlockScalar (style : Style) : Step Unit := do
  modify ({ · with keyAllowed := true })
  dropPending
  let start := (← get).mark
  let b ← scan (scanBlock (style = .folded) (← get).indent)
  modify fun s =>
    let (comments, s') := blockComments b s
    s'.pushToken ⟨.scalar (String.ofList b.text) style, start, s.mark, comments⟩

def readPlain : Step Unit := do
  savePending
  modify fun s =>
    let (p, c) := scanPlain s.inFlow (s.indent + 1) s.cursor
    let comments := if s.dialect.isSpec then p.comments s.mark else none
    { s with cursor := c, keyAllowed := p.endsLine }.pushToken
      ⟨.scalar (String.ofList p.text) .plain, s.mark, p.finish, comments⟩

def quotedToken (style : Style) : Scan Token.Kind := do
  return .scalar (String.ofList (← scanQuoted)) style

/-- A colon at the cursor separates a key from its value. -/
def isAtValue (s : Lexer) : Bool :=
  let isApart := s.dialect.isEndOrBlank (s.cursor.peek 1)
  match s.flow with
  | [] => isApart
  | kind :: _ =>
    if s.dialect.isOld then true
    else
      match kind with
      | .sequence => isApart
      | .mapping =>
        if (s.tokens.getLast?.map (·.kind)) = some .value then isApart else true

def plainRefusals : List Char :=
  ['-', '?', ':', ',', '[', ']', '\x7b', '\x7d', '#', '&', '*', '!', '|', '>', '\'', '"', '%', '@',
    '\x60']

/-- A plain scalar begins at the cursor. -/
def isAtPlain (s : Lexer) : Bool :=
  let c := s.cursor.char
  let next := s.cursor.peek 1
  let d := s.dialect
  let ordinary := !(isGap c || c = '\t' || plainRefusals.contains c)
  let glued := !d.isEndOrBlank next
  ordinary || (glued && (c = '-' || (!s.inFlow && (c = '?' || c = ':')))) ||
    (!d.isOld && c = ':' && s.inFlow && next ≠ ' ' && next ≠ '\t')

/-- A byte order mark at the very start is passed over. -/
def skipByteOrderMark (s : Lexer) : Lexer :=
  if s.mark.index = 0 && s.cursor.char = '\ufeff' then { s with cursor := s.cursor.next } else s

/-- Reads the token at the cursor. -/
def readToken : Step Unit := do
  let s ← get
  let c := s.cursor
  let apart := s.dialect.isEndOrBlank (c.peek 1)
  let ch := c.char
  if c.rest.isEmpty then endStream
  else if ch = '%' && c.mark.column = 0 then readDirective
  else if c.isAtDocumentStart then readDocumentMarker .documentStart
  else if c.isAtDocumentEnd then readDocumentMarker .documentEnd
  else if ch = '[' then openFlow .flowSequenceStart .sequence
  else if ch = '\x7b' then openFlow .flowMappingStart .mapping
  else if ch = ']' then closeFlow .flowSequenceEnd
  else if ch = '\x7d' then closeFlow .flowMappingEnd
  else if ch = ',' then readFlowEntry
  else if ch = '-' && apart then readBlockEntry
  else if ch = '?' && (s.inFlow || apart) then readKey
  else if ch = ':' && s.isAtValue then readValue
  else if ch = '*' then readAtom (return .reference (← scanName))
  else if ch = '&' then readAtom (return .anchor (← scanName))
  else if ch = '!' then readAtom scanTag
  else if ch = '|' && !s.inFlow then readBlockScalar .literal
  else if ch = '>' && !s.inFlow then readBlockScalar .folded
  else if ch = '\'' then readAtom (quotedToken .single)
  else if ch = '"' then readAtom (quotedToken .double)
  else if s.isAtPlain then readPlain
  else
    throw (.broken (some "while scanning for the next token") none
      (some s!"found character {shown ch} that cannot start any token") (some c.mark))

/-- At the end of a text that breaks off its fault is met. -/
def checkEnd : Step Unit := do
  let s ← get
  if s.cursor.rest.isEmpty then
    if let some f := s.beyond then throw f

/-- Reads the token at the cursor as far as the text goes. A rule that is broken only at its end may
be kept by what follows. -/
def readKnown : Step Unit := do
  let s ← get
  try readToken
  catch f =>
    throw (if f.place? = some (s.mark.index + s.cursor.rest.length) then s.beyond.getD f else f)
  checkEnd

/-- Puts at least one more token, which may be a comment, into the queue. -/
def fetch : Step Unit := do
  let s := (← get).skipByteOrderMark
  let (comment, s) := skipToToken (s.cursor.rest.length + 1) s
  set s
  checkEnd
  match comment with
  | some c =>
    let text := String.ofList (Text.dropEndWhile (· = ' ') c.text.toList)
    set (s.push (.comment text) (c.start.getD s.mark) s.mark)
  | none =>
    dropStale
    modify fun s => s.unwind s.mark.column
    readKnown

/-- The head of the queue is missing or may still turn into a key. -/
def needsMore : Step Bool := do
  let s ← get
  if s.isDone then return false
  if s.tokens.isEmpty then return true
  dropStale
  return (← get).pending.any fun (_, k) => k.number = s.taken

/-- The comment that a token is. -/
def comment? (t : Token) : Option Comment :=
  match t.kind with
  | .comment text => some ⟨text, some t.start⟩
  | _ => none

/-- Reads until the head of the queue is settled. -/
def settleHead : (fuel : Nat) → Step Unit
  | 0 => return
  | k + 1 => do
    if ← needsMore then
      fetch
      settleHead k

/-- Takes the comment at the head of the queue, if there is one. -/
def takeComment : Step (List Comment) := do
  let s ← get
  match s.tokens with
  | [] => return []
  | t :: r =>
    match comment? t with
    | none => return []
    | some c =>
      set { s with tokens := r, taken := s.taken + 1 }
      return [c]

/-- Settles the head of the queue, taking every comment that comes to stand there. -/
def settlePastComments : (fuel : Nat) → Step (List Comment)
  | 0 => return []
  | k + 1 => do
    if ← needsMore then
      fetch
      let cs ← takeComment
      return cs ++ (← settlePastComments k)
    else return []

/-- Changes the comments of the head of the queue. -/
def setComments (c : Option Comments) : Step Unit :=
  modify fun s =>
    match s.tokens with
    | t :: r => { s with tokens := { t with comments := c } :: r }
    | [] => s

/-- Comments come to stand before the head of the queue. -/
def placeBefore (l : List Comment) : Step Unit := do
  if !l.isEmpty then
    match Comments.withBefore? ((← get).tokens.head?.bind (·.comments)) l with
    | none => throw (.failed .comment "")
    | c => setComments c

/-- The steps that can at most be needed: each reads a character or ends the text. -/
def fuel (s : Lexer) : Nat := 2 * s.cursor.rest.length + 4

/-- Makes the head of the queue ready to be looked at. -/
def ready : Step Unit := do
  settleHead (← get).fuel
  let s ← get
  if s.dialect.isSpec then
    let first ← takeComment
    placeBefore (first ++ (← settlePastComments s.fuel))
    let s ← get
    if !s.isDone && s.tokens.length < 2 then fetch

/-- The next token. -/
def peek : Step Token := do
  ready
  let s ← get
  return s.tokens.headD ⟨.streamEnd, s.mark, s.mark, none⟩

/-- Comments behind a scalar, or behind other tokens on their line, leave with them. -/
def takesComments (t c : Token) : Bool :=
  (comment? c).isSome &&
    match t.kind with
    | .scalar _ _ => true
    | .value | .flowSequenceEnd | .flowMappingEnd => t.finish.line = c.start.line
    | _ => false

/-- Takes the comments behind the head of the queue, reading on after each. -/
def takeFollowing : (fuel : Nat) → Step (List Comment)
  | 0 => return []
  | k + 1 => do
    let s ← get
    match s.tokens with
    | t :: c :: r =>
      match comment? c with
      | none => return []
      | some comment =>
        set { s with tokens := t :: r, taken := s.taken + 1 }
        fetch
        return comment :: (← takeFollowing k)
    | _ => return []

/-- The head of the queue with the comments that leave with it. -/
def withFollowing (t : Token) : Step Token := do
  let s ← get
  match s.tokens with
  | _ :: c :: _ =>
    if s.dialect.isSpec && takesComments t c then
      match ← takeFollowing s.fuel with
      | [] => return t
      | first :: others =>
        let behind := first.joined others
        return { t with comments := some ((t.comments.getD (.ofBehind behind)).withBehind behind) }
    else return t
  | _ => return t

/-- Takes the next token. -/
def pop : Step Token := do
  let t ← withFollowing (← peek)
  modify fun s => { s with tokens := s.tokens.tail, taken := s.taken + 1 }
  return t

end Lexer

end Sieve.Yaml
