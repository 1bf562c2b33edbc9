import Sieve.Log.Levels
import Sieve.Log.Line
import Sieve.Program
import Sieve.Value.Basic

/-!
Events: what is written of a record. An event is a list of fields, of which `event` holds the
message.
-/

namespace Sieve.Log

abbrev Event := List (Value × Value)

/-- Where and when events are written. -/
structure Stamp where
  host : String
  time : String

/-- The stamp of a host some microseconds after the year 1970 began in Greenwich. -/
def Stamp.ofClock (host : String) (microseconds : Nat) : Stamp :=
  let start : Moment := ⟨⟨1970, 1, 1⟩, 0, 0, 0, microseconds % 1000000, none⟩
  let m := start.shift (microseconds / 1000000 : Nat)
  ⟨host, s!"{m.date.text}T{m.clock}Z"⟩

namespace Event

/-- The field with a value, unless it is there. -/
def setDefault (e : Event) (key : String) (v : Value) : Event :=
  if (Value.lookup e key).isSome then e else Value.put e key v

/-- The event with the current id, if there is one. -/
def correlated (e : Event) (id : Option String) : Event :=
  match id with
  | some id => Value.put e "correlation_id" (.str id)
  | none => e

/-- The event with the fields that all events have. -/
def withCommon (e : Event) (host : String) : Event :=
  (e.setDefault "specgrep_version" (.str version)).setDefault "hostname" (.str host)

/-- The event with its message on one line. -/
def onOneLine (e : Event) : Event :=
  match (Value.lookup e "event").getD (.str "") with
  | .str s => Value.put e "event" (.str (oneLine s))
  | _ => e

/-- The event of a message that a part of the program reports by a word. -/
def make (fields : Event) (message : Value) (logger call : String) (id : Option String)
    (stamp : Stamp) : Event :=
  let e : Event := Value.put (Value.put (Value.put fields "event" message) "logger" (.str logger))
    "level" (.str call)
  Value.put ((e.correlated id).withCommon stamp.host).onOneLine "timestamp" (.str stamp.time)

end Event

/-- A name that is no text, by the word for its type. -/
structure NameFault where
  typeName : String
deriving DecidableEq, Repr

def NameFault.message (f : NameFault) : String :=
  s!"'{f.typeName}' object has no attribute 'startswith'"

/-- The levels let an event pass that is reported by a word. -/
def Levels.admits (t : Levels) (call : String) (e : Event) : Except NameFault Bool :=
  let logger := (Value.lookup e "logger").getD (.str "")
  if t.isEmpty || !logger.isTruthy then .ok true
  else
    match logger with
    | .str s => .ok (!t.refuses s (weightOfCall call))
    | v => .error ⟨v.typeName⟩

/-- The event, if the levels let it pass. -/
def Levels.sift (t : Levels) (call : String) (e : Event) : Except NameFault (Option Event) :=
  (t.admits call e).map fun admitted => if admitted then some e else none

end Sieve.Log
