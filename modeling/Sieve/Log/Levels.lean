import Sieve.Text.Lower

/-!
Levels of parts of the program. A part has a dotted name, and the level of a module holds for
all below it; the most specific module counts.
-/

namespace Sieve.Log

/-- The weight that a word stands for; any other word stands for that of information. -/
def weightOf (word : String) : Int :=
  match Text.upper word with
  | "CRITICAL" | "FATAL" => 50
  | "ERROR" => 40
  | "WARNING" | "WARN" => 30
  | "DEBUG" => 10
  | "NOTSET" => 0
  | _ => 20

/-- The weight of an event that is reported by a word, such as `exception`. -/
def weightOfCall (word : String) : Int :=
  match Text.lower word with
  | "critical" => 50
  | "error" | "exception" => 40
  | "warning" | "warn" => 30
  | "debug" => 10
  | _ => 20

/-- The word by which an event of a weight is reported. -/
def callOf (weight : Int) : String :=
  if weight = 50 then "critical"
  else if weight = 40 then "error"
  else if weight = 30 then "warning"
  else if weight = 20 then "info"
  else if weight = 10 then "debug"
  else if weight = 0 then "notset"
  else s!"level {weight}"

/-- The levels of modules by their names, in the order in which they were first set. -/
abbrev Levels := List (String × Int)

namespace Levels

def set (t : Levels) (module : String) (level : Int) : Levels :=
  match t with
  | [] => [(module, level)]
  | (m, l) :: r => if m = module then (m, level) :: r else (m, l) :: set r module level

def get? (t : Levels) (module : String) : Option Int := t.lookup module

/-- The module is the part of the program, or the part lies below it. -/
def covers (module logger : String) : Bool :=
  logger == module || (module.toList ++ ['.']).isPrefixOf logger.toList

/-- The better of two modules: the first stays unless the second covers the part and has a longer
name. -/
def better (logger : String) (best : Option (String × Int)) (entry : String × Int) :
    Option (String × Int) :=
  let length := (best.map (·.1.length)).getD 0
  if covers entry.1 logger && length < entry.1.length then some entry else best

/-- The most specific module with a name that covers the part. -/
def nearest? (t : Levels) (logger : String) : Option (String × Int) :=
  t.foldl (better logger) none

def threshold? (t : Levels) (logger : String) : Option Int := (t.nearest? logger).map (·.2)

/-- An event of the part that weighs less than its level is refused. -/
def refuses (t : Levels) (logger : String) (weight : Int) : Bool :=
  (t.threshold? logger).any (weight < ·)

end Levels

end Sieve.Log
