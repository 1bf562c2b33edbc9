import Sieve.Settings.Scalar

/-!
Settings documents as values.

The nodes of a document are a graph. A collection is begun where it is met first, empty, and filled
after all that was met before it, so of several faults the one in the least depth counts, and of
these the first. The entries that merge marks add stand before the entries of the mapping itself;
of two entries with one key the later one counts.

A collection may be met again inside itself. Its value holds it to the depth in which settings are
read, and further in as far as it can be shown.
-/

namespace Sieve.Settings

open Yaml

/-- What a node is built as: a scalar, or a collection that is filled later. -/
inductive Item where
  | scalar (v : Scalar)
  | collection (number : Nat)
  /-- A collection that cannot be filled. -/
  | unfilled

/-- What a collection is filled with. -/
inductive Content where
  | list (items : List Item)
  | pairs (items : List (Item × Item))
  | map (entries : List (Scalar × Item))
  | set (members : List Scalar)

/-- Something to be done for a collection that has been met. -/
inductive Task where
  | fill (number : Nat)
  | fail (f : Fault)

/-- The state of a building. -/
structure Builder where
  /-- The nodes that can be referred to. Merges change their entries. -/
  nodes : List (Nat × Node)
  /-- The collections that have been met. -/
  met : List Nat
  /-- What is still to be done, first things first. -/
  tasks : List Task
  contents : List (Nat × Content)

abbrev Build := StateT Builder (Except Fault)

namespace Builder

/-- How often a step can lead into itself before the stack is used up. -/
def chainLimit : Nat := 960

/-! ### Nodes by their places -/

/-- The node at a place; any other node is itself. -/
def look (nodes : List (Nat × Node)) : Node → Node
  | .place m number => (nodes.lookup number).getD (.place m number)
  | n => n

def hasType (nodes : List (Nat × Node)) (type : NodeType) (n : Node) : Bool :=
  NodeType.ofNode? (look nodes n) = some type

def nodeAt (nodes : List (Nat × Node)) (number : Nat) : Node := (nodes.lookup number).getD default

/-- The entries of a mapping. -/
def entriesAt (nodes : List (Nat × Node)) (number : Nat) : List (Node × Node) :=
  match nodeAt nodes number with
  | .map _ _ es => es
  | _ => []

/-- Changes the node at a place. -/
def alter (number : Nat) (f : Node → Node) : Build Unit :=
  modify fun b =>
    { b with nodes := b.nodes.map fun (k, n) => if k = number then (k, f n) else (k, n) }

def setEntries (number : Nat) (es : List (Node × Node)) : Build Unit :=
  alter number fun
    | .map m tag _ => .map m tag es
    | n => n

/-! ### Scalars -/

/-- The text of a scalar, or of the value that a mapping has as one. -/
def textOf (nodes : List (Nat × Node)) : (room : Nat) → Node → Except Fault String
  | 0, _ => .error .tooDeep
  | k + 1, n =>
    match look nodes n with
    | .scalar _ _ text _ => .ok text
    | .map m _ es =>
      match es.find? fun (key, _) => hasType nodes .value key with
      | some (_, v) => textOf nodes k v
      | none => .error (expectedKind m "scalar" "mapping")
    | n => .error (expectedKind n.mark "scalar" "sequence")

/-- The scalar that a node of a scalar type is. -/
def scalarOf (nodes : List (Nat × Node)) (type : NodeType) (n : Node) : Except Fault Scalar := do
  let text ← textOf nodes chainLimit n
  match type, n with
  | .timestamp, .map _ _ _ =>
    throw (.failed .type "expected string or bytes-like object, got 'list'")
  | type, n => readScalar n.mark type text

/-! ### Building -/

def noSequence (context : String) (m : Mark) (found : String) : Fault :=
  .inside context m s!"expected a sequence, but found {found}" m

def orderedMap : String := "while constructing an ordered map"

def pairs : String := "while constructing pairs"

def mapping : String := "while constructing a mapping"

/-- What is wrong with a node that is of another kind than its type demands. -/
def kindFault? (type : NodeType) (n : Node) : Option Fault :=
  let found := n.kindName
  match type, n with
  | .seq, .seq _ _ _ | .omap, .seq _ _ _ | .pairs, .seq _ _ _ => none
  | .map, .map _ _ _ | .set, .map _ _ _ => none
  | .seq, n => some (expectedKind n.mark "sequence" found)
  | .omap, n => some (noSequence orderedMap n.mark found)
  | .pairs, n => some (noSequence pairs n.mark found)
  | _, n => some (expectedKind n.mark "mapping" found)

def addTask (t : Task) : Build Unit := modify fun b => { b with tasks := b.tasks ++ [t] }

/-- A collection is to be filled once, wherever it is met again. -/
def meet (number : Nat) : Build Item := do
  if !(← get).met.contains number then
    modify fun b => { b with met := number :: b.met }
    addTask (.fill number)
  return .collection number

/-- What a node is built as. -/
def build (place : Node) : Build Item := do
  let nodes := (← get).nodes
  let n := look nodes place
  match NodeType.ofNode? n with
  | none | some .merge | some .value => throw (noType n)
  | some type =>
    if type.isCollection then
      match kindFault? type n, place with
      | none, .place _ number => meet number
      | none, _ => return .unfilled
      | some f, _ =>
        addTask (.fail f)
        return .unfilled
    else
      match scalarOf nodes type n with
      | .ok v => return .scalar v
      | .error f => throw f

/-! ### Merges -/

def noMerge (start : Mark) (expected : String) (n : Node) : Fault :=
  .inside mapping start s!"expected a {expected} for merging, but found {n.kindName}" n.mark

/-- What the first merge mark among entries names, and the other entries. -/
def takeMerge? (nodes : List (Nat × Node)) :
    List (Node × Node) → Option (Node × List (Node × Node))
  | [] => none
  | (k, v) :: es =>
    if hasType nodes .merge k then some (v, es)
    else (takeMerge? nodes es).map fun (source, others) => (source, (k, v) :: others)

/-- The entries of a mapping whose own merge marks are resolved first. -/
def sourceEntries (flatten : Nat → Build Unit) (start : Mark) (expected : String) (source : Node) :
    Build (List (Node × Node)) := do
  match source, look (← get).nodes source with
  | .place _ number, .map _ _ _ =>
    flatten number
    return entriesAt (← get).nodes number
  | _, n => throw (noMerge start expected n)

/-- The entries that a merge mark adds. Of several mappings those of the last stand first. -/
def mergeEntries (flatten : Nat → Build Unit) (start : Mark) (source : Node) :
    Build (List (Node × Node)) := do
  match look (← get).nodes source with
  | .seq _ _ items => return (← items.mapM (sourceEntries flatten start "mapping")).reverse.flatten
  | _ => sourceEntries flatten start "mapping or list of mappings" source

/-- Takes the merge marks out of a mapping and gathers what they add; `marks` bounds their
number. -/
def gatherMerges (flatten : Nat → Build Unit) (start : Mark) (number : Nat) :
    (marks : Nat) → Build (List (Node × Node))
  | 0 => return []
  | k + 1 => do
    let nodes := (← get).nodes
    match takeMerge? nodes (entriesAt nodes number) with
    | none => return []
    | some (source, others) =>
      setEntries number others
      let these ← mergeEntries flatten start source
      return these ++ (← gatherMerges flatten start number k)

/-- The node as a text. -/
def asText : Node → Node
  | .scalar m _ text a => .scalar m (.explicit none (Reader.coreTag ++ "str")) text a
  | .seq m _ items => .seq m (.explicit none (Reader.coreTag ++ "str")) items
  | .map m _ es => .map m (.explicit none (Reader.coreTag ++ "str")) es
  | .place m number => .place m number

/-- A key that is the value mark becomes a text. -/
def withTextKey (e : Node × Node) : Build (Node × Node) := do
  if !hasType (← get).nodes .value e.1 then return e
  match e.1 with
  | .place _ number =>
    alter number asText
    return e
  | k => return (asText k, e.2)

/-- Resolves the merge marks of a mapping and of those that it merges. -/
def flatten : (room : Nat) → (number : Nat) → Build Unit
  | 0, _ => throw .tooDeep
  | room + 1, number => do
    let nodes := (← get).nodes
    let merged ← gatherMerges (flatten room) (nodeAt nodes number).mark number
      (entriesAt nodes number).length
    let own := entriesAt (← get).nodes number
    setEntries number (← (merged ++ own).mapM withTextKey)

/-! ### Filling -/

/-- Pairs given as a sequence of mappings with one entry. -/
def pairOf (context : String) (start : Mark) (item : Node) : Build (Item × Item) := do
  match look (← get).nodes item with
  | .map _ _ [(k, v)] => return (← build k, ← build v)
  | .map m _ es =>
    throw (.inside context start s!"expected a single mapping item, but found {es.length} items" m)
  | n =>
    throw (.inside context start s!"expected a mapping of length 1, but found {n.kindName}" n.mark)

/-- An entry of a mapping that begins at `start`. -/
def entryOf (start : Mark) (e : Node × Node) : Build (Scalar × Item) := do
  match ← build e.1 with
  | .scalar key => return (key, ← build e.2)
  | _ => throw (.inside mapping start "found unhashable key" e.1.mark)

/-- What a node of the right kind is filled with. -/
def contentOf (number : Nat) : Node → Build Content
  | .seq m tag items => do
    match NodeType.ofTag? tag .seq with
    | some .omap => return .pairs (← items.mapM (pairOf orderedMap m))
    | some .pairs => return .pairs (← items.mapM (pairOf pairs m))
    | _ => return .list (← items.mapM build)
  | .map m tag _ => do
    flatten chainLimit number
    let entries ← (entriesAt (← get).nodes number).mapM (entryOf m)
    match NodeType.ofTag? tag .map with
    | some .set => return .set (entries.map (·.1))
    | _ => return .map entries
  | _ => return .list []

/-- Does what is to be done for a collection. -/
def perform : Task → Build Unit
  | .fail f => throw f
  | .fill number => do
    let content ← contentOf number (nodeAt (← get).nodes number)
    modify fun b => { b with contents := (number, content) :: b.contents }

/-- Does all that is to be done; each collection is filled once at most. -/
def performAll : (fuel : Nat) → Build Unit
  | 0 => return
  | k + 1 => do
    match (← get).tasks with
    | [] => return
    | t :: rest =>
      modify fun b => { b with tasks := rest }
      perform t
      performAll k

end Builder

/-! ### Values -/

/-- The depth to which settings are read before they are shown as a whole. -/
def shownDepth : Nat := 2

/-- The entries of a mapping, filled in one after another. -/
def fill (l : List (Scalar × Value)) : List (Value × Value) :=
  l.foldl (fun acc (k, v) => Value.putKey acc k.value v) []

/-- The members of a set are the keys of a mapping. -/
def fillSet (l : List Scalar) : List Value := (fill (l.map fun k => (k, .null))).map (·.1)

def Content.isMap : Content → Bool
  | map _ => true
  | _ => false

/-- The value of what has been built. From the depth in which values are shown as a whole, a
collection of the `path` that leads to it is not followed again. -/
def unroll (contents : List (Nat × Content)) :
    (fuel : Nat) → (depth : Nat) → (path : List Nat) → Item → Value
  | 0, _, _, _ => .null
  | _, _, _, .scalar v => v.value
  | _, _, _, .unfilled => .null
  | k + 1, depth, path, .collection number =>
    let inner := unroll contents k (depth + 1) (if depth < shownDepth then [] else number :: path)
    match contents.lookup number with
    | none => .null
    | some c =>
      if path.contains number then .again c.isMap
      else
        match c with
        | .list items => .list (items.map inner)
        | .pairs items => .list (items.map fun (a, b) => .tuple [inner a, inner b])
        | .map entries => .map (fill (entries.map fun (key, v) => (key, inner v)))
        | .set members => .set (fillSet members)

/-- The value of a document with this root and these nodes. -/
def valueOf (nodes : List (Nat × Node)) (root : Node) : Except Fault Value := do
  let (item, b) ← (Builder.build root).run ⟨nodes, [], [], []⟩
  let (_, b) ← (Builder.performAll (nodes.length + 1)).run b
  return unroll b.contents (b.contents.length + shownDepth + 2) 0 [] item

/-- The value of a settings document; a text without one is null. -/
def readDocument (bytes : List UInt8) : Except Fault Value := do
  let c ← readSupply .settings (.ofBytes bytes)
  match c.root with
  | none => return .null
  | some root => valueOf c.nodes root

end Sieve.Settings
