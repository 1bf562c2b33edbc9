import Sieve.Text.Base64
import Sieve.Text.Lower
import Sieve.Value.Basic
import Sieve.Yaml.Number
import Sieve.Yaml.Tag

/-!
Scalars of settings documents, and the types that nodes have in them.
-/

namespace Sieve.Settings

open Yaml

/-- A value that holds no others. -/
inductive Scalar where
  | null
  | bool (b : Bool)
  | int (n : Int)
  | float (x : Float)
  | str (s : String)
  | bytes (content : List UInt8)
  | date (d : Date)
  | moment (m : Moment)

def Scalar.value : Scalar → Value
  | null => .null
  | bool b => .bool b
  | int n => .int n
  | float x => .float x
  | str s => .str s
  | bytes content => .bytes content
  | date d => .date d
  | moment m => .moment m

def boolWords : List (String × Bool) :=
  [("yes", true), ("no", false), ("true", true), ("false", false), ("on", true), ("off", false)]

def readBool (text : String) : Except Fault Scalar :=
  let word := Text.lower text
  match boolWords.lookup word with
  | some b => .ok (.bool b)
  | none => .error (.failed .key (Text.quoted word))

/-- The seconds of a day. -/
def daySeconds : Int := 86400

/-- An offset of less than a day. -/
def checkOffset (seconds : Int) : Except Fault Int :=
  if seconds.natAbs < daySeconds.natAbs then .ok seconds
  else
    .error (.failed .value <|
      "offset must be a timedelta strictly between -timedelta(hours=24) and " ++
        s!"timedelta(hours=24), not {spanDetailed seconds}.")

/-- A date, or a moment that keeps its offset. -/
def readTimestamp (text : String) : Except Fault Scalar :=
  match TimestampParts.ofText? text.toList with
  | none => .error (.failed .attribute "'NoneType' object has no attribute 'groupdict'")
  | some p =>
    match p.time with
    | none => do
      calendar p.date.check
      return .date p.date
    | some time => do
      let offset ←
        match p.offsetSeconds with
        | some n => (checkOffset n).map some
        | none => pure (if p.isUtc then some 0 else none)
      let moment := { p.localMoment time p.microseconds with offset }
      calendar moment.check
      return .moment moment

def readBytes (m : Mark) (text : String) : Except Fault Scalar :=
  match Text.Base64.decode text.toList with
  | .ok bytes => .ok (.bytes bytes)
  | .error f => .error (.plain f.message m)

/-- The core types of nodes. -/
inductive NodeType where
  | null
  | bool
  | int
  | float
  | timestamp
  | binary
  | str
  | seq
  | map
  | set
  | omap
  | pairs
  /-- The key of a merge. -/
  | merge
  /-- The key of the value that a mapping has as a scalar. -/
  | value
deriving DecidableEq, Repr

namespace NodeType

def names : List (String × NodeType) :=
  [("null", null), ("bool", bool), ("int", int), ("float", float), ("timestamp", timestamp),
   ("binary", binary), ("str", str), ("seq", seq), ("map", map), ("set", set), ("omap", omap),
   ("pairs", pairs), ("merge", merge), ("value", value)]

/-- The type that a plain scalar has by its text. -/
def ofText (text : String) : NodeType :=
  match ScalarType.ofText .settings text with
  | .null => null
  | .bool => bool
  | .int => int
  | .float => float
  | .timestamp => timestamp
  | .merge => merge
  | .value => value
  | .str => str

/-- The type that a tag names, or that of the kind of node. -/
def ofTag? (tag : Tag) (kind : NodeType) : Option NodeType :=
  match tag with
  | .implicit _ => some kind
  | .explicit _ name => (coreType? name).bind fun word => names.lookup word

/-- The type of a node that is not a place. -/
def ofNode? : Node → Option NodeType
  | .scalar _ tag text _ => ofTag? tag (if tag = .implicit true then ofText text else str)
  | .seq _ tag _ => ofTag? tag seq
  | .map _ tag _ => ofTag? tag map
  | .place _ _ => none

/-- What has the type is filled with other nodes. -/
def isCollection : NodeType → Bool
  | seq | map | set | omap | pairs => true
  | _ => false

end NodeType

/-- No value has the type of a node. -/
def noType (n : Node) : Fault :=
  match n with
  | .scalar m (.implicit _) text _ =>
    undetermined m (Reader.coreTag ++ if NodeType.ofText text = .merge then "merge" else "value")
  | .scalar m (.explicit _ name) _ _ | .seq m (.explicit _ name) _ | .map m (.explicit _ name) _ =>
    undetermined m name
  | n => undetermined n.mark ""

/-- A scalar of a type, which is begun at a mark. -/
def readScalar (m : Mark) (type : NodeType) (text : String) : Except Fault Scalar :=
  match type with
  | .null => .ok .null
  | .bool => readBool text
  | .int => (readInt .settings text).map .int
  | .float => (readFloat .settings text).map .float
  | .timestamp => readTimestamp text
  | .binary => readBytes m text
  | _ => .ok (.str text)

end Sieve.Settings
