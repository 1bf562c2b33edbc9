import Sieve.Json.Writer
import Sieve.Log.Setup
import Sieve.Text.Utf8
import Sieve.Value.Text

/-!
Events as lines of JSON, and the files that they are written to.
-/

namespace Sieve

namespace Value

/-- The text of a value that stands for a key. -/
def keyText : Value → String
  | str s => s
  | v => (inner? v).getD ""

mutual

/-- The value as a JSON document. What JSON cannot hold becomes its text. -/
def toJson : Value → Json
  | null => .null
  | bool b => .bool b
  | int n => .int n
  | float x => .float x
  | str s => .str s
  | list xs => .arr (toItems xs)
  | tuple xs => .arr (toItems xs)
  | map es => .obj (toMembers es)
  | v => .str ((inner? v).getD "")

def toItems : List Value → List Json
  | [] => []
  | x :: xs => toJson x :: toItems xs

def toMembers : List (Value × Value) → List (String × Json)
  | [] => []
  | (k, v) :: es => (keyText k, toJson v) :: toMembers es

end

end Value

namespace Log

open Files

def Event.line (e : Event) : String := (Value.toJson (.map e)).compact ++ "\n"

/-- The tree with some text at the end of a file. -/
def appendTo (t : Tree) (text : String) (p : Path) : Tree :=
  match t.read p with
  | .ok bytes => t.put p.parts (.file (bytes ++ Text.Utf8.encode text))
  | .error _ => t

def Sink.file? : Sink → Option Path
  | console => none
  | file p => some p

/-- The tree once an event is written to the files of the setup. -/
def Setup.record (u : Setup) (t : Tree) (e : Event) : Tree :=
  (u.sinks.filterMap Sink.file?).foldl (fun t p => appendTo t e.line p) t

end Log

end Sieve
