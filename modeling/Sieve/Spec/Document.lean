import Sieve.Decimal.Shortest
import Sieve.Text.Quoted
import Sieve.Value.Text

/-!
Spec documents: trees of scalars, sequences and mappings that know the lines on which their
collections begin.
-/

namespace Sieve.Spec

/-- A scalar that is no text, number, truth value or null. -/
structure Special where
  /-- The word for its type. -/
  typeName : String
  /-- How it is printed alone. -/
  text : String
  /-- How it is printed inside a collection. -/
  inner : String
deriving DecidableEq, Repr

inductive Document where
  | null
  | bool (b : Bool)
  | int (n : Int)
  | float (x : Float)
  | str (s : String)
  | special (s : Special)
  | seq (line : Option Nat) (items : List Document)
  | map (line : Option Nat) (entries : List (Document × Document))
  /-- The whole document, referred to from inside. -/
  | whole
deriving Repr, Inhabited

namespace Document

mutual

/-- The text of a document inside another one, if all its integers have one; `shown` is that of
the whole document. -/
def innerText? (shown : Option String) : Document → Option String
  | null => some "None"
  | bool b => some (if b then "True" else "False")
  | int n => if Value.isWritable n then some (toString n) else none
  | float x => some (Decimal.text x)
  | str s => some (Text.quoted s)
  | special s => some s.inner
  | seq _ xs => (itemTexts? shown xs).map fun l => s!"[{Value.commaSeparated l}]"
  | map _ es => (entryTexts? shown es).map fun l => s!"\x7b{Value.commaSeparated l}\x7d"
  | whole => shown

def itemTexts? (shown : Option String) : List Document → Option (List String)
  | [] => some []
  | x :: xs =>
    match innerText? shown x, itemTexts? shown xs with
    | some t, some l => some (t :: l)
    | _, _ => none

def entryTexts? (shown : Option String) : List (Document × Document) → Option (List String)
  | [] => some []
  | (k, v) :: es =>
    match innerText? shown k, innerText? shown v, entryTexts? shown es with
    | some a, some b, some l => some (s!"{a}: {b}" :: l)
    | _, _, _ => none

end

/-- How a document is shown inside itself. -/
def ellipsis : String := "\x7b...\x7d"

/-- The text of a document inside another one. -/
def inner? : Document → Option String := innerText? (some ellipsis)

/-- The text of a document alone. -/
def text? : Document → Option String
  | str s => some s
  | special s => some s.text
  | d => inner? d

/-- A number or a truth value as a number, where it is whole. -/
def numeral? : Document → Option Int
  | bool b => some (if b then 1 else 0)
  | int n => some n
  | _ => none

/-- Two scalars are the same key. Numbers and truth values are compared by value. -/
def sameKey (a b : Document) : Bool :=
  match a, b with
  | null, null => true
  | str s, str t => s == t
  | float x, float y => x == y
  | special s, special t => s.typeName ≠ "TaggedScalar" && s == t
  | float x, d | d, float x =>
    match numeral? d with
    | some n => x == Float.ofInt n
    | none => false
  | a, b =>
    match numeral? a, numeral? b with
    | some m, some n => m == n
    | _, _ => false

/-- The value under a key. -/
def lookup (es : List (Document × Document)) (key : Document) : Option Document :=
  (es.find? fun (k, _) => sameKey k key).map (·.2)

/-- The value under a text key. -/
def get? (es : List (Document × Document)) (key : String) : Option Document := lookup es (.str key)

/-- The mapping holds a text key. -/
def hasKey (es : List (Document × Document)) (key : String) : Bool := (get? es key).isSome

end Document

end Sieve.Spec
