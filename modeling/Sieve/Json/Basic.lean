/-!
JSON documents. Members of an object keep the order in which they are written.
-/

namespace Sieve

inductive Json where
  | null
  | bool (b : Bool)
  | int (n : Int)
  | float (x : Float)
  | str (s : String)
  | arr (items : List Json)
  | obj (members : List (String × Json))
deriving Inhabited

namespace Json

/-- The members of an object, none of anything else. -/
def members : Json → List (String × Json)
  | obj ms => ms
  | _ => []

/-- The member of an object under a key. -/
def get? (j : Json) (key : String) : Option Json := j.members.lookup key

/-- The value under a key: in the place of the first such member, or at the end. -/
def put (ms : List (String × Json)) (key : String) (v : Json) : List (String × Json) :=
  match ms with
  | [] => [(key, v)]
  | (k, w) :: r => if k = key then (k, v) :: r else (k, w) :: put r key v

def ofOption {α : Type} (f : α → Json) : Option α → Json
  | none => .null
  | some a => f a

def ofStrings (l : List String) : Json := .arr (l.map .str)

end Json

end Sieve
