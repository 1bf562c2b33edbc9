import Sieve.Yaml.Token

/-!
The nodes of a document. A reference stands for the node that its anchor names. In specs the tree
holds a copy of that node, unless the reference lies inside it. In settings all nodes that can be
referred to are kept apart, so that a document is a graph.
-/

namespace Sieve.Yaml

/-- What is said of the type of a node. -/
inductive Tag where
  /-- Nothing: the text of a scalar decides if it is plain. -/
  | implicit (isPlain : Bool)
  /-- The name of a type, and the handle with which it was written. -/
  | explicit (handle : Option String) (name : String)
deriving DecidableEq, Repr

inductive Node where
  | scalar (mark : Mark) (tag : Tag) (text : String) (isAnchored : Bool)
  | seq (mark : Mark) (tag : Tag) (items : List Node)
  | map (mark : Mark) (tag : Tag) (entries : List (Node × Node))
  /-- A node that is kept apart, or one in which this stands. The numbers count collections as they
  begin, so that the whole document has the number 0. -/
  | place (mark : Mark) (number : Nat)
deriving Repr, Inhabited

namespace Node

def mark : Node → Mark
  | scalar m _ _ _ => m
  | seq m _ _ => m
  | map m _ _ => m
  | place m _ => m

/-- The place of the node with this number. -/
def isPlace (number : Nat) : Node → Bool
  | place _ k => k == number
  | _ => false

/-- The word for the kind of a node. What a spec refers to from inside counts as a mapping. -/
def kindName : Node → String
  | scalar _ _ _ _ => "scalar"
  | seq _ _ _ => "sequence"
  | map _ _ _ | place _ _ => "mapping"

end Node

end Sieve.Yaml
