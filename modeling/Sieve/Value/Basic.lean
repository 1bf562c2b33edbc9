import Sieve.Decimal.Shortest
import Sieve.Json.Basic
import Sieve.Text.Quoted
import Sieve.Value.Moment

/-!
Values of settings files, environment variables and requests, whose types are known only when
they are read. A mapping keeps the order of its entries.
-/

namespace Sieve

inductive Value where
  | null
  | bool (b : Bool)
  | int (n : Int)
  | float (x : Float)
  | str (s : String)
  | list (items : List Value)
  | tuple (items : List Value)
  | set (items : List Value)
  | map (entries : List (Value × Value))
  | bytes (content : List UInt8)
  | date (d : Date)
  | moment (m : Moment)
  /-- A list or a mapping in which this stands. -/
  | again (isMap : Bool)
deriving Inhabited

namespace Value

mutual

/-- A JSON document as a value. -/
def ofJson : Json → Value
  | .null => null
  | .bool b => bool b
  | .int n => int n
  | .float x => float x
  | .str s => str s
  | .arr xs => list (ofItems xs)
  | .obj ms => map (ofMembers ms)

def ofItems : List Json → List Value
  | [] => []
  | x :: xs => ofJson x :: ofItems xs

def ofMembers : List (String × Json) → List (Value × Value)
  | [] => []
  | (k, v) :: ms => (str k, ofJson v) :: ofMembers ms

end

/-- Empty values, zeros and false count as absent where a value is asked for. -/
def isTruthy : Value → Bool
  | null => false
  | bool b => b
  | int n => n != 0
  | float x => !(x == 0.0)
  | str s => !s.isEmpty
  | list xs => !xs.isEmpty
  | tuple xs => !xs.isEmpty
  | set xs => !xs.isEmpty
  | map es => !es.isEmpty
  | bytes l => !l.isEmpty
  | date _ => true
  | moment _ => true
  | again _ => true

/-- The word for the type of a value. -/
def typeName : Value → String
  | null => "NoneType"
  | bool _ => "bool"
  | int _ => "int"
  | float _ => "float"
  | str _ => "str"
  | list _ => "list"
  | tuple _ => "tuple"
  | set _ => "set"
  | map _ => "dict"
  | bytes _ => "bytes"
  | date _ => "date"
  | moment _ => "datetime"
  | again isMap => if isMap then "dict" else "list"

/-- The entry of a mapping under a text key. -/
def lookup (es : List (Value × Value)) (key : String) : Option Value :=
  match es with
  | [] => none
  | (str k, v) :: r => if k = key then some v else lookup r key
  | _ :: r => lookup r key

/-- The entry under a text key: in the place of the first such entry, or at the end. -/
def put (es : List (Value × Value)) (key : String) (v : Value) : List (Value × Value) :=
  match es with
  | [] => [(str key, v)]
  | (str k, w) :: r => if k = key then (str k, v) :: r else (str k, w) :: put r key v
  | e :: r => e :: put r key v

/-- The entries of a value that is a mapping. -/
def entries? : Value → Option (List (Value × Value))
  | map es => some es
  | _ => none

def string? : Value → Option String
  | str s => some s
  | _ => none

/-- The number that a truth value, an integer or a float stands for. -/
def number? : Value → Option (Int ⊕ Float)
  | bool b => some (.inl (if b then 1 else 0))
  | int n => some (.inl n)
  | float x => some (.inr x)
  | _ => none

/-- The same key of a mapping, or the same member of a set: numbers by their size, whatever
their type. -/
def same (a b : Value) : Bool :=
  match a.number?, b.number? with
  | some (.inl m), some (.inl n) => m == n
  | some (.inr x), some (.inr y) => x == y
  | some (.inl n), some (.inr x) => x == Float.ofInt n
  | some (.inr x), some (.inl n) => x == Float.ofInt n
  | _, _ =>
    match a, b with
    | null, null => true
    | str s, str t => s == t
    | bytes l, bytes m => l == m
    | date d, date e => d == e
    | moment m, moment n => m == n
    | _, _ => false

/-- The entry under any key: in the place of the first such entry, or at the end. -/
def putKey (es : List (Value × Value)) (key v : Value) : List (Value × Value) :=
  match es with
  | [] => [(key, v)]
  | (k, w) :: r => if k.same key then (k, v) :: r else (k, w) :: putKey r key v

/-- Lists, mappings and sets are neither keys nor members of sets. -/
def isKey : Value → Bool
  | list _ | map _ | set _ | again _ => false
  | _ => true

/-- The entries of one mapping with those of another over them. -/
def overlay (es top : List (Value × Value)) : List (Value × Value) :=
  top.foldl (fun acc (k, v) => putKey acc k v) es

/-- The entry under a key changed by `f`, or added as `f` makes it of nothing. -/
def update (es : List (Value × Value)) (key : Value) (f : Option Value → Value) :
    List (Value × Value) :=
  match es with
  | [] => [(key, f none)]
  | (k, w) :: r => if k.same key then (k, f (some w)) :: r else (k, w) :: update r key f

mutual

/-- The value `top` over another one; of two mappings the entries are laid over each other. -/
def deepOver (top : Value) (old : Option Value) : Value :=
  match top with
  | map new =>
    match old with
    | some (map es) => map (deepEntries new es)
    | _ => map new
  | v => v

/-- The entries `top` laid over others, mappings in mappings too. -/
def deepEntries (top es : List (Value × Value)) : List (Value × Value) :=
  match top with
  | [] => es
  | (k, v) :: r => deepEntries r (update es k (deepOver v))

end

/-- The entries with a value below a path of keys; a value in its way stays. -/
def insertAt (es : List (Value × Value)) (path : List String) (v : Value) :
    List (Value × Value) :=
  match path with
  | [] => es
  | [k] => put es k v
  | k :: rest =>
    match lookup es k with
    | some (map inner) => put es k (map (insertAt inner rest v))
    | some _ => es
    | none => put es k (map (insertAt [] rest v))

end Value

end Sieve
