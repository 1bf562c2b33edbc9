import Sieve.Text.Blank
import Sieve.Yaml.Reader
import Sieve.Yaml.Scalar

/-!
What the tags of nodes demand, and the marks of merges and values among keys.
-/

namespace Sieve.Yaml

def expectedKind (m : Mark) (expected found : String) : Fault :=
  .plain s!"expected a {expected} node, but found {found}" m

/-- The core type that a tag names. -/
def coreType? (name : String) : Option String :=
  let core := Reader.coreTag
  if Text.startsWith name core then
    some (String.ofList (name.toList.drop core.length))
  else none

def Tag.coreType? : Tag → Option String
  | .explicit _ name => Yaml.coreType? name
  | .implicit _ => none

def undetermined (m : Mark) (name : String) : Fault :=
  let shownName := Text.quoted name
  .plain s!"could not determine a constructor for the tag {shownName}" m

/-- The key of a merge. -/
def isMerge (d : Dialect) : Node → Bool
  | .scalar _ (.implicit true) text _ => ScalarType.ofText d text = .merge
  | .scalar _ (.explicit _ name) _ _ => name = Reader.coreTag ++ "merge"
  | _ => false

/-- A key that stands for the value mark is a text. -/
def isValueMark (d : Dialect) : Node → Bool
  | .scalar _ (.implicit true) text _ => ScalarType.ofText d text = .value
  | _ => false

end Sieve.Yaml
