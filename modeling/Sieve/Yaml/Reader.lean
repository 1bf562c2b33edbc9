import Sieve.Yaml.Lexer
import Sieve.Yaml.Node

/-!
The document of a text.

The grammar is read top down with one token of lookahead. Collections are read item by item; a
missing key or value is an empty scalar. A text holds at most one document. Each collection inside
another one takes its share of a stack, which is bounded.
-/

namespace Sieve.Yaml

/-- A name given to a node. It stands for the place of a node that is kept apart or still read. -/
structure Anchor where
  name : String
  start : Mark
  node : Node

structure Reader where
  lexer : Lexer
  anchors : List Anchor
  /-- What the handles of tags stand for. -/
  handles : List (String × String)
  /-- The nodes that are kept apart, by their numbers. -/
  nodes : List (Nat × Node)
  /-- How many nodes with a number have begun. -/
  begun : Nat
  /-- How many more collections can begin inside each other. -/
  room : Nat

namespace Reader

abbrev Step := StateT Reader (Except Fault)

def coreTag : String := "tag:yaml.org,2002:"

def defaultHandles : List (String × String) := [("!", "!"), ("!!", coreTag)]

/-- How many collections can lie inside each other before the stack is used up. Those of specs take
twice as much of it. -/
def depthLimit (d : Dialect) : Nat := if d.isSpec then 235 else 480

def start (d : Dialect) (supply : Supply) : Reader :=
  ⟨Lexer.start d supply, [], defaultHandles, [], 0, depthLimit d⟩

def onLexer {α : Type} (f : Lexer.Step α) : Step α := do
  let s ← get
  let (a, l) ← f.run s.lexer
  set { s with lexer := l }
  return a

def peek : Step Token := onLexer Lexer.peek

def pop : Step Token := onLexer Lexer.pop

def next : Step Token.Kind := return (← peek).kind

def dialect : Step Dialect := return (← get).lexer.dialect

/-- Hands the comments of a token that is no part of the tree on to the next one. -/
def handOn (t : Token) (isColon : Bool) : Step (Except Fault Unit) := do
  if !(← dialect).isSpec then return .ok ()
  let n ← peek
  match t.comments, n.kind with
  | none, _ | some _, .streamEnd | some _, .documentStart => return .ok ()
  | some c, _ =>
    match c.handedTo isColon n.comments with
    | .error f => return .error f
    | .ok d =>
      onLexer (Lexer.setComments (some d))
      return .ok ()

/-- Takes a token that is no part of the tree. -/
def popMark : Step Unit := do
  if let .error f ← handOn (← pop) false then throw f

/-- The comment behind a colon stays with the empty value behind it; of a next token's comments
only those before it stay. -/
def keepBefore : Step Unit := do
  if (← dialect).isSpec then
    if let some c := (← peek).comments then
      onLexer (Lexer.setComments (some ⟨none, c.before, none⟩))

/-- The comment behind the next token goes to the collection that begins there. -/
def dropBehind : Step Unit := do
  if let some c := (← peek).comments then
    onLexer (Lexer.setComments (some { c with behind := none }))

/-- A token name as messages show it. -/
def labelText (t : Token) : String := Text.quoted t.kind.label

/-- The type of a scalar can be told from its text in versions 1.1 and 1.2 only. -/
def checkVersion : Step Unit := do
  let d ← dialect
  if d.isSpec && d.version ≠ (1, 1) && d.version ≠ (1, 2) then
    throw (.failed .key s!"({d.version.1}, {d.version.2})")

/-- A scalar that is not there. -/
def emptyScalar (m : Mark) : Step Node := do
  checkVersion
  return .scalar m (.implicit true) "" false

/-- What stands before a node: a tag and an anchor in any order. -/
structure Properties where
  start : Option Mark
  anchor : Option String
  tag : Option (Option String × String × Mark)

def tagOf : Token → Option (Option String × String × Mark)
  | ⟨.tag handle suffix, m, _, _⟩ => some (handle, suffix, m)
  | _ => none

def properties : Step Properties := do
  let t ← peek
  match t.kind with
  | .anchor name =>
    popMark
    let u ← peek
    match tagOf u with
    | some tag =>
      discard pop
      return ⟨some t.start, some name, some tag⟩
    | none => return ⟨some t.start, some name, none⟩
  | .tag _ _ =>
    discard (handOn (← pop) false)
    let u ← peek
    match u.kind with
    | .anchor name =>
      discard pop
      return ⟨some t.start, some name, tagOf t⟩
    | _ => return ⟨some t.start, none, tagOf t⟩
  | _ => return ⟨none, none, none⟩

/-- The type that the properties name; a lone exclamation mark names none. -/
def resolveTag (p : Properties) (start : Mark) : Step (Option Tag) := do
  match p.tag with
  | none => return none
  | some (none, suffix, _) =>
    return if suffix = "!" then some (.implicit true) else some (.explicit none suffix)
  | some (some handle, suffix, m) =>
    match (← get).handles.lookup handle with
    | some uri => return some (.explicit (some handle) (uri ++ suffix))
    | none =>
      let shownHandle := Text.quoted handle
      throw (.inside "while parsing a node" start s!"found undefined tag handle {shownHandle}" m)

/-- Settings give no name twice. -/
def checkName (anchor : Option String) (m : Mark) : Step Unit := do
  let s ← get
  if !s.lexer.dialect.isSpec then
    if let some a := s.anchors.find? (some ·.name = anchor) then
      let shownName := Text.quoted a.name
      throw (.inside s!"found duplicate anchor {shownName}; first occurrence" a.start
        "second occurrence" m)

/-- From now on the name stands for the node. -/
def giveName (anchor : Option String) (m : Mark) (n : Node) : Step Unit := do
  if let some name := anchor then
    modify fun s => { s with anchors := ⟨name, m, n⟩ :: s.anchors }

/-- A collection begins. -/
def enter (anchor : Option String) (m : Mark) : Step Nat := do
  checkName anchor m
  let s ← get
  if s.room = 0 then throw .tooDeep
  set { s with begun := s.begun + 1, room := s.room - 1 }
  giveName anchor m (.place m s.begun)
  return s.begun

/-- The name of the place stands for the node in it. -/
def Anchor.filled (number : Nat) (n : Node) (a : Anchor) : Anchor :=
  if a.node.isPlace number then { a with node := n } else a

/-- A collection is complete. In specs its name stands for a copy from now on, in settings for the
collection itself. -/
def leave (number : Nat) (n : Node) : Step Node := do
  modify fun s => { s with room := s.room + 1 }
  if (← dialect).isSpec then
    modify fun s => { s with anchors := s.anchors.map (Anchor.filled number n) }
    return n
  else
    modify fun s => { s with nodes := (number, n) :: s.nodes }
    return .place n.mark number

/-- A scalar. One that settings can refer to is kept apart. -/
def scalarNode (anchor : Option String) (m : Mark) (tag : Tag) (text : String) : Step Node := do
  checkName anchor m
  let s ← get
  let n := Node.scalar m tag text anchor.isSome
  if s.lexer.dialect.isSpec || anchor.isNone then
    giveName anchor m n
    return n
  else
    set { s with nodes := (s.begun, n) :: s.nodes, begun := s.begun + 1 }
    giveName anchor m (.place m s.begun)
    return .place m s.begun

def reference (name : String) (m : Mark) : Step Node := do
  match (← get).anchors.find? (·.name = name) with
  | some a => return a.node
  | none =>
    let shownName := Text.quoted name
    throw (.plain s!"found undefined alias {shownName}" m)

def scalarTag (tag : Option Tag) (style : Style) : Tag :=
  match tag with
  | none => .implicit (style = .plain)
  | some t => t

/-- A fault of a collection that begins at `start`. -/
def unexpected {α : Type} (context : String) (start : Mark) (expected : String) : Step α := do
  let t ← peek
  throw (.inside context start s!"{expected} {labelText t}" t.start)

/-- Whether a token can end an entry of a kind of collection. -/
def isOneOf (kinds : List Token.Kind) : Step Bool := return kinds.contains (← next)

mutual

/-- A node: in block context it may be a block collection, and after a key also a sequence that
is not indented. -/
def node (block indentless : Bool) : (fuel : Nat) → Step Node
  | 0 => throw (.failed .value "")
  | k + 1 => do
    let t ← peek
    match t.kind with
    | .reference name =>
      popMark
      reference name t.start
    | _ =>
      let p ← properties
      let t ← peek
      let start := p.start.getD t.start
      let tag ← resolveTag p start
      let collectionTag := tag.getD (.implicit false)
      match t.kind with
      | .blockEntry =>
        if indentless then
          dropBehind
          let number ← enter p.anchor start
          leave number (.seq start collectionTag (← indentlessItems k))
        else contentless block p tag start
      | .scalar text style =>
        discard pop
        let tag := scalarTag tag style
        if tag = .implicit true then checkVersion
        scalarNode p.anchor start tag text
      | .flowSequenceStart =>
        let number ← enter p.anchor start
        let open_ ← pop
        leave number (.seq start collectionTag (← flowItems open_.start true k))
      | .flowMappingStart =>
        let number ← enter p.anchor start
        let open_ ← pop
        leave number (.map start collectionTag (← flowEntries open_.start true k))
      | .blockSequenceStart =>
        if block then
          let number ← enter p.anchor start
          let open_ ← pop
          leave number (.seq start collectionTag (← blockItems open_.start k))
        else contentless block p tag start
      | .blockMappingStart =>
        if block then
          let number ← enter p.anchor start
          let open_ ← pop
          leave number (.map start collectionTag (← blockEntries open_.start k))
        else contentless block p tag start
      | _ => contentless block p tag start

/-- With a tag or an anchor, nothing is an empty scalar. -/
def contentless (block : Bool) (p : Properties) (tag : Option Tag) (start : Mark) : Step Node := do
  if p.anchor.isSome || p.tag.isSome then
    let tag := tag.getD (.implicit true)
    if tag = .implicit true then checkVersion
    scalarNode p.anchor start tag ""
  else
    let word := if block then "block" else "flow"
    unexpected s!"while parsing a {word} node" start "expected the node content, but found"

def blockItems (start : Mark) : (fuel : Nat) → Step (List Node)
  | 0 => return []
  | k + 1 => do
    let t ← peek
    match t.kind with
    | .blockEntry =>
      popMark
      let item ←
        if ← isOneOf [.blockEntry, .blockEnd] then emptyScalar t.finish
        else node true false k
      return item :: (← blockItems start k)
    | .blockEnd =>
      discard pop
      return []
    | _ =>
      unexpected "while parsing a block collection" start "expected <block end>, but found"

def indentlessItems : (fuel : Nat) → Step (List Node)
  | 0 => return []
  | k + 1 => do
    let t ← peek
    match t.kind with
    | .blockEntry =>
      popMark
      let item ←
        if ← isOneOf [.blockEntry, .key, .value, .blockEnd] then emptyScalar t.finish
        else node true false k
      return item :: (← indentlessItems k)
    | _ => return []

def blockEntries (start : Mark) : (fuel : Nat) → Step (List (Node × Node))
  | 0 => return []
  | k + 1 => do
    let t ← peek
    match t.kind with
    | .key =>
      popMark
      let key ←
        if ← isOneOf [.key, .value, .blockEnd] then emptyScalar t.finish
        else node true true k
      let value ← blockValue k
      return (key, value) :: (← blockEntries start k)
    | .blockEnd =>
      popMark
      return []
    | kind =>
      if kind = .value && (← dialect).isNew then
        let key ← emptyScalar t.start
        let value ← blockValue k
        return (key, value) :: (← blockEntries start k)
      else
        unexpected "while parsing a block mapping" start "expected <block end>, but found"

def blockValue : (fuel : Nat) → Step Node
  | 0 => throw (.failed .value "")
  | k + 1 => do
    let t ← peek
    if t.kind = .value then
      let colon ← pop
      let n ← next
      if n ≠ .key then
        if let .error f ← handOn colon (n ≠ .value) then throw f
      if n = .key || n = .value || n = .blockEnd then
        if n ≠ .key || colon.comments.isNone then keepBefore
        emptyScalar t.finish
      else node true true k
    else emptyScalar t.start

def flowItems (start : Mark) (isFirst : Bool) : (fuel : Nat) → Step (List Node)
  | 0 => return []
  | k + 1 => do
    if ← isOneOf [.flowSequenceEnd] then
      discard pop
      return []
    if !isFirst then
      if ← isOneOf [.flowEntry] then discard pop
      else unexpected "while parsing a flow sequence" start "expected ',' or ']', but got"
    let t ← peek
    match t.kind with
    | .flowSequenceEnd =>
      discard pop
      return []
    | .key =>
      discard pop
      let number ← enter none t.start
      let key ←
        if ← isOneOf [.value, .flowEntry, .flowSequenceEnd] then emptyScalar t.finish
        else node false false k
      let value ← flowValue [.flowEntry, .flowSequenceEnd] k
      let item ← leave number (.map t.start (.implicit false) [(key, value)])
      return item :: (← flowItems start false k)
    | _ =>
      let item ← node false false k
      return item :: (← flowItems start false k)

/-- The value after a key in a flow collection, empty before one of the `ends`. -/
def flowValue (ends : List Token.Kind) : (fuel : Nat) → Step Node
  | 0 => throw (.failed .value "")
  | k + 1 => do
    let t ← peek
    if t.kind = .value then
      discard pop
      if ← isOneOf ends then emptyScalar t.finish else node false false k
    else emptyScalar t.start

def flowEntries (start : Mark) (isFirst : Bool) : (fuel : Nat) → Step (List (Node × Node))
  | 0 => return []
  | k + 1 => do
    if ← isOneOf [.flowMappingEnd] then
      discard pop
      return []
    if !isFirst then
      if ← isOneOf [.flowEntry] then discard pop
      else unexpected "while parsing a flow mapping" start "expected ',' or '\x7d', but got"
    let t ← peek
    match t.kind with
    | .flowMappingEnd =>
      discard pop
      return []
    | .key =>
      discard pop
      let key ←
        if ← isOneOf [.value, .flowEntry, .flowMappingEnd] then emptyScalar t.finish
        else node false false k
      let value ← flowValue [.flowEntry, .flowMappingEnd] k
      return (key, value) :: (← flowEntries start false k)
    | kind =>
      if kind = .value && (← dialect).isNew then
        let key ← emptyScalar t.finish
        let value ← flowValue [.flowEntry, .flowMappingEnd] k
        return (key, value) :: (← flowEntries start false k)
      else
        let key ← node false false k
        let t ← peek
        let value ← emptyScalar t.start
        return (key, value) :: (← flowEntries start false k)

end

/-- Directives before a document. -/
def directives : (fuel : Nat) → (hasVersion : Bool) → (handles : List (String × String)) →
    Step (List (String × String))
  | 0, _, handles => return handles
  | k + 1, hasVersion, handles => do
    let t ← peek
    match t.kind with
    | .directive (.version major _) =>
      discard pop
      if hasVersion then throw (.plain "found duplicate YAML directive" t.start)
      if major ≠ 1 then
        throw (.plain "found incompatible YAML document (version 1.* is required)" t.start)
      directives k true handles
    | .directive (.tag handle uri) =>
      discard pop
      if (handles.lookup handle).isSome then
        let shownHandle := Text.quoted handle
        throw (.plain s!"duplicate tag handle {shownHandle}" t.start)
      directives k hasVersion (handles ++ [(handle, uri)])
    | .directive (.other _) =>
      discard pop
      directives k hasVersion handles
    | _ => return handles

def skipDocumentEnds : (fuel : Nat) → Step Unit
  | 0 => return
  | k + 1 => do
    if ← isOneOf [.documentEnd] then
      discard pop
      skipDocumentEnds k

/-- The mark of a document that begins with a marker, or nothing at the end of the text. -/
def explicitStart (fuel : Nat) : Step (Option Mark) := do
  skipDocumentEnds fuel
  if ← isOneOf [.streamEnd] then return none
  let first ← peek
  let handles ← directives fuel false []
  let t ← peek
  if t.kind ≠ .documentStart then
    throw (.plain s!"expected '<document start>', but found {labelText t}" t.start)
  discard pop
  modify ({ · with handles := handles ++ defaultHandles.filter fun (h, _) => (handles.lookup h).isNone })
  return some first.start

/-- Nothing announces a document but its content. -/
def beginsBare : Step Bool := do
  match ← next with
  | .directive _ | .documentStart | .streamEnd => return false
  | _ => return true

def content (fuel : Nat) : Step Node := do
  let t ← peek
  match t.kind with
  | .directive _ | .documentStart | .documentEnd | .streamEnd => emptyScalar t.start
  | _ => node true false fuel

/-- The root of the only document, if there is one. -/
def document (fuel : Nat) : Step (Option Node) := do
  discard pop
  let bare ← beginsBare
  let start? ← if bare then pure none else explicitStart fuel
  if !bare && start?.isNone then return none
  let root ← if bare then node true false fuel else content fuel
  let ended ← isOneOf [.documentEnd]
  if ended then discard pop
  let d ← dialect
  let another ←
    if ended && !d.isOld && (← beginsBare) then pure (some (← peek).start)
    else explicitStart fuel
  match another with
  | none => return some root
  | some m =>
    throw (.inside "expected a single document in the stream" root.mark
      "but found another document" m)

end Reader

/-- What a text holds: the root node of its document, if it has one, the nodes that are kept apart,
and the dialect in which it is written. -/
structure Contents where
  root : Option Node
  nodes : List (Nat × Node)
  dialect : Dialect

/-- What can be read of a text. -/
def readSupply (d : Dialect) (supply : Supply) : Except Fault Contents :=
  ((Reader.document (4 * supply.text.length + 16)).run (Reader.start d supply)).map fun (n, s) =>
    ⟨n, s.nodes, s.lexer.dialect⟩

/-- What a text holds that is all there. -/
def read (d : Dialect) (text : String) : Except Fault Contents :=
  let l := text.toList
  match forbidden? l with
  | some (c, place) => .error (.character c.toNat place)
  | none => readSupply d (.whole l)

end Sieve.Yaml
