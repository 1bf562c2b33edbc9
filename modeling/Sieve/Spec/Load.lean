import Sieve.Spec.Document
import Sieve.Text.Base64
import Sieve.Yaml.Number
import Sieve.Yaml.Tag

/-!
Spec documents from YAML texts.

In a mapping every key is given once. The mark `<<` adds the entries of other mappings whose
keys the mapping lacks, behind its own. A reference to the whole document from inside is kept as
such; one to another node around it is null. A scalar with a tag of its own or with the core tag
for texts is special, one with another core tag has that type.

The mark adds nothing where it names the whole document from inside: how much of it the YAML
library has built by then, and what it looks up there later, is not followed.
-/

namespace Sieve.Spec

open Yaml

/-- The place of a collection as a line counted from one. -/
def lineOf (m : Mark) : Option Nat := some (m.line + 1)

def boolWords : List (String × Bool) :=
  [("yes", true), ("no", false), ("y", true), ("n", false), ("true", true), ("false", false),
   ("on", true), ("off", false)]

def readBool (isAnchored : Bool) (text : String) : Except Fault Document :=
  let word := Text.lower text
  match boolWords.lookup word with
  | some b => .ok (if isAnchored then .int (if b then 1 else 0) else .bool b)
  | none => .error (.failed .key (Text.quoted word))

/-- A moment as a document: one with the mark `T` or an offset has a type of its own. -/
def momentDocument (p : TimestampParts) (m : Moment) : Document :=
  if p.hasMark || p.offset.isSome then
    let text := if p.hasMark then m.text.map (fun c => if c = ' ' then 'T' else c) else m.text
    .special ⟨"TimeStamp", text, m.detailedAs "TimeStamp"⟩
  else .special ⟨"datetime", m.text, m.detailed⟩

/-- The fraction rounds to microseconds; the offset is taken off. -/
def readTimestamp (m : Mark) (text : String) : Except Fault Document :=
  match TimestampParts.ofText? text.toList with
  | none => .error (.plain s!"failed to construct timestamp from \"{text}\"" m)
  | some p =>
    match p.time with
    | none => do
      calendar p.date.check
      return .special ⟨"date", p.date.text, p.date.detailed⟩
    | some time => do
      let up := (p.fraction.drop 6).head?.any ('5' ≤ ·)
      let micro := p.microseconds + (if up then 1 else 0)
      let carry : Int := if 999999 < micro then 1 else 0
      let moment := p.localMoment time (if carry = 1 then 0 else micro)
      calendar moment.check
      let back := match p.offset with
        | some (sign, _, _) => p.offsetSeconds.getD 0 + (if sign = '-' then -carry else carry)
        | none => -carry
      let shifted := if back = 0 then moment else moment.shift (-back)
      calendar shifted.date.check
      return momentDocument p shifted

def taggedScalar (text : String) : Document := .special ⟨"TaggedScalar", text, text⟩

/-- A plain scalar by its text. -/
def readPlain (d : Dialect) (m : Mark) (isAnchored : Bool) (text : String) :
    Except Fault Document :=
  match ScalarType.ofText d text with
  | .null => .ok .null
  | .bool => readBool isAnchored text
  | .int => (readInt d text).map .int
  | .float => (readFloat d text).map .float
  | .timestamp => readTimestamp m text
  | .merge | .value => .ok (taggedScalar text)
  | .str => .ok (.str text)

/-- Bytes written in base 64. -/
def readBytes (m : Mark) (text : String) : Except Fault Document :=
  match Text.Base64.decode text.toList with
  | .ok bytes =>
    let t := Value.quotedBytes bytes
    .ok (.special ⟨"bytes", t, t⟩)
  | .error f => .error (.plain f.message m)

def scalarTypes : List String := ["null", "bool", "int", "float", "binary", "timestamp"]

/-- A scalar with a tag. -/
def readTagged (d : Dialect) (m : Mark) (handle : Option String) (name : String)
    (isAnchored : Bool) (text : String) : Except Fault Document :=
  match coreType? name with
  | some "null" => .ok .null
  | some "bool" => readBool isAnchored text
  | some "int" => (readInt d text).map .int
  | some "float" => (readFloat d text).map .float
  | some "timestamp" => readTimestamp m text
  | some "binary" => readBytes m text
  | some "str" => .ok (if handle.isNone then .str text else taggedScalar text)
  | some "seq" => .error (expectedKind m "sequence" "scalar")
  | some "map" | some "set" => .error (expectedKind m "mapping" "scalar")
  | some "omap" =>
    .error (.inside "while constructing an ordered map" m "expected a sequence, but found scalar" m)
  | some "pairs" =>
    .error (.inside "while constructing pairs" m "expected a sequence, but found scalar" m)
  | _ => .ok (taggedScalar text)

/-- A collection as a key. -/
def asKey : Document → Document
  | .seq _ xs =>
    let text := ((Document.itemTexts? (some Document.ellipsis) xs).map Value.commaSeparated).getD ""
    let comma := if xs.length = 1 then "," else ""
    .special ⟨"CommentedKeySeq", s!"({text}{comma})", s!"({text}{comma})"⟩
  | .map _ es => .map none es
  | d => d

def textOrFail (d : Document) : Except Fault String :=
  match d.text? with
  | some t => .ok t
  | none => .error (.failed .value Value.noTextMessage)

/-- Adds an entry whose key is new. -/
def addEntry (start keyMark : Mark) (es : List (Document × Document)) (key value : Document) :
    Except Fault (List (Document × Document)) :=
  match Document.lookup es key with
  | none => .ok (es ++ [(key, value)])
  | some first => do
    let k ← textOrFail key
    let v ← textOrFail value
    let o ← textOrFail first
    throw (.inside "while constructing a mapping" start
      s!"found duplicate key \"{k}\" with value \"{v}\" (original value: \"{o}\")" keyMark)

/-- Adds the entries whose keys are missing. -/
def addMissing (es more : List (Document × Document)) : List (Document × Document) :=
  more.foldl (fun acc e => if (Document.lookup acc e.1).isSome then acc else acc ++ [e]) es

def noMergeSource : Fault := .failed .attribute "'NoneType' object has no attribute 'add_referent'"

/-- A tag of its own on a collection hides what is wrong inside. -/
def underTag (m : Mark) (tag : Tag) (r : Except Fault Document) : Except Fault Document :=
  match tag with
  | .implicit _ => r
  | .explicit _ name =>
    if (coreType? name).any (["seq", "map", "set", "omap", "pairs"].contains ·) then r
    else
      match r with
      | .ok d => .ok d
      | .error _ => .error (undetermined m name)

/-- A scalar type is demanded of a collection. -/
def checkScalarTag (m : Mark) (found : String) : Tag → Except Fault Unit
  | .explicit _ name =>
    if (coreType? name).any (scalarTypes.contains ·) then .error (expectedKind m "scalar" found)
    else .ok ()
  | .implicit _ => .ok ()

mutual

def ofNode (d : Dialect) : Node → Except Fault Document
  | .scalar m tag text isAnchored =>
    match tag with
    | .implicit true => readPlain d m isAnchored text
    | .implicit false => .ok (.str text)
    | .explicit handle name => readTagged d m handle name isAnchored text
  | .seq m tag items => do
    checkScalarTag m "sequence" tag
    match tag.coreType? with
    | some "map" | some "set" => .error (expectedKind m "mapping" "sequence")
    | some "omap" => return .map (lineOf m) (← pairItems d m items)
    | some "pairs" =>
      let es ← pairItems d m items
      return .seq none (es.map fun (k, v) => asKey (.seq none [k, v]))
    | _ =>
      underTag m tag do
        return .seq (lineOf m) (← ofItems d items)
  | .map m tag entries => do
    checkScalarTag m "mapping" tag
    match tag.coreType? with
    | some "seq" => .error (expectedKind m "sequence" "mapping")
    | some "omap" =>
      .error (.inside "while constructing an ordered map" m
        "expected a sequence, but found mapping" m)
    | some "pairs" =>
      .error (.inside "while constructing pairs" m "expected a sequence, but found mapping" m)
    | kind =>
      let r ← underTag m tag do
        let merged ← mergeSources d m false entries
        let own ← ownEntries d m [] entries
        return .map (lineOf m) (merged.foldl addMissing own)
      return if kind = some "set" then .special ⟨"CommentedSet", "", ""⟩ else r
  | .place _ number => .ok (if number = 0 then .whole else .null)

def ofItems (d : Dialect) : List Node → Except Fault (List Document)
  | [] => .ok []
  | x :: xs => do
    let y ← ofNode d x
    return y :: (← ofItems d xs)

/-- Single entries given as a sequence of mappings. -/
def pairItems (d : Dialect) (start : Mark) : List Node →
    Except Fault (List (Document × Document))
  | [] => .ok []
  | .map _ _ [(k, v)] :: xs => do
    let key ← ofNode d k
    let value ← ofNode d v
    return (asKey key, value) :: (← pairItems d start xs)
  | .map m _ es :: _ =>
    .error (.inside "while constructing an ordered map" start
      s!"expected a single mapping item, but found {es.length} items" m)
  | x :: _ =>
    .error (.inside "while constructing an ordered map" start
      s!"expected a mapping of length 1, but found {x.kindName}" x.mark)

/-- The mappings that merge marks name, in order. -/
def mergeSources (d : Dialect) (start : Mark) (hasMerge : Bool) : List (Node × Node) →
    Except Fault (List (List (Document × Document)))
  | [] => .ok []
  | (k, v) :: r => do
    if isMerge d k then
      if hasMerge then throw (.inside "while constructing a mapping" start
        "found duplicate key \"<<\"" k.mark)
      let sources ←
        match v with
        | .map m tag entries => do
          let source ← ofNode d (.map m tag entries)
          match source with
          | .map _ es => pure [es]
          | _ => pure []
        | .seq _ _ items => mergeItems d start items
        | .place _ 0 => pure [[]]
        | .place _ _ => throw noMergeSource
        | .scalar m _ _ _ =>
          throw (.inside "while constructing a mapping" start
            "expected a mapping or list of mappings for merging, but found scalar" m)
      return sources ++ (← mergeSources d start (!sources.isEmpty) r)
    else mergeSources d start hasMerge r

def mergeItems (d : Dialect) (start : Mark) : List Node →
    Except Fault (List (List (Document × Document)))
  | [] => .ok []
  | x :: xs => do
    let source ←
      match x with
      | .map m tag entries => do
        match ← ofNode d (.map m tag entries) with
        | .map _ es => pure es
        | _ => pure []
      | .place _ 0 => pure []
      | .place _ _ => throw noMergeSource
      | x =>
        throw (.inside "while constructing a mapping" start
          s!"expected a mapping for merging, but found {x.kindName}" x.mark)
    return source :: (← mergeItems d start xs)

def ownEntries (d : Dialect) (start : Mark) (es : List (Document × Document)) :
    List (Node × Node) → Except Fault (List (Document × Document))
  | [] => .ok es
  | (k, v) :: r => do
    if isMerge d k then ownEntries d start es r
    else
      let key ← if isValueMark d k then pure (.str "=") else ofNode d k
      let value ← ofNode d v
      let es ← addEntry start k.mark es (asKey key) value
      ownEntries d start es r

end

/-- Why a text holds no spec document. -/
inductive LoadError where
  | empty
  | yaml (f : Fault)
deriving DecidableEq, Repr

/-- The report on a text, whose name is given if it has one. -/
def LoadError.message (source : Option String) (e : LoadError) : String :=
  let place := match source with
    | some s => if s.isEmpty then "" else s!" in {s}"
    | none => ""
  match e with
  | .empty => s!"Empty YAML content{place}"
  | .yaml (.broken _ _ problem mark) =>
    let line := (mark.map fun m => toString (m.line + 1)).getD "None"
    let column := (mark.map fun m => toString (m.column + 1)).getD "None"
    let what := problem.getD "None"
    s!"YAML parsing error{place} at line {line}, column {column}: {what}"
  | .yaml (.character code position) =>
    let what := Fault.characterMessage "<unicode string>" code position
    s!"Failed to parse YAML content{place}: {what}"
  | .yaml (.undecodable f) => s!"Failed to parse YAML content{place}: {f.message}"
  | .yaml (.failed _ message) => s!"Failed to parse YAML content{place}: {message}"

/-- The document that a text holds. -/
def load (text : String) : Except LoadError Document :=
  match Yaml.read .spec text with
  | .error f => .error (.yaml f)
  | .ok ⟨none, _, _⟩ => .error .empty
  | .ok ⟨some n, _, d⟩ =>
    match ofNode d n with
    | .error f => .error (.yaml f)
    | .ok .null => .error .empty
    | .ok doc => .ok doc

end Sieve.Spec
