import Sieve.Files.Tree
import Sieve.Log.Correlation
import Sieve.Log.Event
import Sieve.Log.Template

/-!
Where events go and which of them. A setup has one level for all parts of the program and levels
of modules. An event below the level for all is not written. One that passes it but is refused
by the level of its module ends the run that reports it.
-/

namespace Sieve.Log

open Files

inductive Sink where
  | console
  | file (path : Path)
deriving DecidableEq, Repr

structure Setup where
  level : Int
  sinks : List Sink
  modules : Levels
  correlation : Correlation
deriving DecidableEq, Repr

/-- What a setup is asked to be. -/
structure SetupRequest where
  level : Int
  file : Option String
  modules : List (String × Int)

/-- The log file cannot be opened. -/
structure SinkFault where
  fault : Fault
  path : Path
deriving DecidableEq, Repr

def SinkFault.message (f : SinkFault) : String := f.fault.message f.path.text

/-- The tree once the file at a path is opened to write at its end. -/
def openAtEnd (t : Tree) (p : Path) : Except Fault Tree :=
  if p.holdsNull then .error .null
  else
    match t.find p with
    | .ok (.file _) => .ok t
    | .ok (.dir _) => .error .isDirectory
    | .error _ =>
      match t.find p.parent with
      | .ok (.dir _) => .ok (t.put p.parts (.file []))
      | .ok (.file _) => .error .notDirectory
      | .error f => .error f

namespace Setup

/-- Nothing is set up: warnings and worse are written bare. -/
def none : Setup := ⟨30, [], [], .none⟩

/-- Nothing is set up any more, whatever contexts are open. -/
def reset (u : Setup) : Setup := ⟨30, [], [], u.correlation.set .none⟩

/-- Sets levels of modules one after the other. -/
def setModules (u : Setup) (modules : List (String × Int)) : Setup :=
  { u with modules := modules.foldl (fun t (m, l) => t.set m l) u.modules }

/-- The setup that is asked for, with the tree in which its file is open. If the file cannot be
opened, all the rest is set up. -/
def configure (u : Setup) (t : Tree) (cwd : Path) (r : SetupRequest) :
    Setup × Tree × Option SinkFault :=
  let u := { u.setModules r.modules with level := r.level, sinks := [.console] }
  match r.file.filter (!·.isEmpty) with
  | .none => (u, t, .none)
  | some file =>
    let p := cwd.absolute (.ofText file)
    match openAtEnd t p with
    | .ok t => ({ u with sinks := [.console, .file p] }, t, .none)
    | .error f => (u, t, some ⟨f, p⟩)

end Setup

/-- What becomes of something that is reported. -/
inductive Emission where
  | silent
  /-- Its module refuses it, which ends the run. -/
  | refused
  /-- The message alone is written. -/
  | bare (message : String)
  | written (e : Event)

namespace Setup

/-- The part of the program without a name. -/
def nameOf (logger : String) : String := if logger.isEmpty then "root" else logger

/-- What becomes of a message of some weight. -/
def emit (u : Setup) (stamp : Stamp) (logger : String) (weight : Int) (message : String) :
    Emission :=
  let name := nameOf logger
  let call := callOf weight
  if weight ≤ 0 || weight < u.level then .silent
  else if u.sinks.isEmpty then if 30 ≤ weight then .bare message else .silent
  else if u.modules.refuses name (weightOfCall call) then .refused
  else .written (.make [] (.str message) name call u.correlation.current stamp)

/-- What becomes of a message with fields of its own that is reported by a word. Such an event is
not written if its module refuses it, and the run goes on. -/
def emitFields (u : Setup) (stamp : Stamp) (logger word : String) (message : Value)
    (fields : Event) : Emission :=
  let name := nameOf logger
  let weight := if Text.lower word = "fatal" then 50 else weightOfCall word
  let call := callOf weight
  if u.sinks.isEmpty || u.modules.refuses name weight || weight < u.level then .silent
  else .written (.make fields message name call u.correlation.current stamp)

end Setup

end Sieve.Log
