import Std.Time
import Sieve.Command.Reach

/-!
The program. It shows a run what it reaches among the files and writes what the run leaves.
-/

namespace Sieve.Command

open Files

/-- The names below a directory, over empty files. Links to directories are not followed. -/
partial def namesBelow (e : IO.FS.DirEntry) : IO Tree := do
  let children ← (← e.path.readDir).toList.filterMapM fun c => do
    if (← c.path.symlinkMetadata).type == .dir then return some (c.fileName, ← namesBelow c)
    if !(← c.path.pathExists) then return none
    return some (c.fileName, if ← c.path.isDir then .dir [] else .file [])
  return .dir children

/-- How much of a place is looked at. -/
inductive Depth where
  /-- Only what it is. -/
  | kind
  | bytes
  /-- The names below it. -/
  | names
deriving DecidableEq

/-- A tree with what lies on the way of some names and at its end. -/
def look (depth : Depth) (t : Tree) (at_ : List String) (names : List String) : IO Tree := do
  let e : IO.FS.DirEntry := ⟨"/", "/".intercalate at_⟩
  if !(← e.path.pathExists) then return t
  if !(← e.path.isDir) then
    let bytes ← if depth = .bytes then IO.FS.readBinFile e.path else pure .empty
    return t.put at_ (.file bytes.toList)
  match names with
  | [] =>
    if depth = .names then return t.put at_ (← namesBelow e)
    return t.put at_ (.dir [])
  | name :: rest => look depth (t.put at_ (.dir [])) (Path.stepTo at_ name) rest

/-- The surroundings with more places looked at. -/
def seeing (w : Surroundings) (depth : Depth) (places : List Path) : IO Surroundings := do
  let tree ← places.foldlM (fun t p => look depth t [] (w.cwd.join p).parts) w.tree
  return { w with tree }

/-- The surroundings with all that a run reaches. -/
def reaching (w : Surroundings) (args : List String) : IO Surroundings := do
  let first := firstPlaces w.cwd args
  let known ← seeing w .bytes first
  let search := search? known args
  let w ← seeing w .names (search.elim [] (·.starts))
  let w ← seeing w .kind (logFile? known args).toList
  let w ← seeing w .bytes first
  seeing w .bytes (search.elim [] (foundFiles w))

/-- The text of a file of the system, or none if it cannot be read. -/
def systemText? (file : String) : IO (Option String) := do
  try
    let bytes ← IO.FS.readBinFile file
    return (Text.Utf8.decode bytes.toList).toOption
  catch _ => return none

/-- The variables of the process. -/
def processVariables : IO (List (String × String)) := do
  let text := (← systemText? "/proc/self/environ").getD ""
  return (Text.pieces '\x00' text).filterMap fun entry =>
    let (name, value) := Argument.splitValue entry
    value.map fun v => (name, v)

def systemWord (file : String) : IO String := do
  return ((← systemText? file).map Text.trimmed).getD "unknown"

/-- The machine with all that a run reaches. -/
def machine (args : List String) : IO Machine := do
  let cwd := Path.ofText (← IO.currentDir).toString
  let surroundings ← reaching ⟨.dir [], cwd, ← processVariables⟩ args
  let now ← Std.Time.Timestamp.now
  let stamp : Log.Stamp :=
    .ofClock (← systemWord "/etc/hostname") (now.toNanosecondsSinceUnixEpoch.val.toNat / 1000)
  let platform := Text.lower (← systemWord "/proc/sys/kernel/ostype")
  return ⟨surroundings, stamp, "none", platform⟩

def Notice.line : Notice → String
  | .text s => s ++ "\n"
  | .event e => e.line

def Notice.event? : Notice → Option Log.Event
  | .text _ => none
  | .event e => some e

/-- Writes what a run leaves. -/
def write (o : Outcome) : IO UInt32 := do
  o.out.forM fun line => IO.println line
  o.notices.forM fun n => IO.eprint n.line
  o.logFiles.forM fun p => do
    let file ← IO.FS.Handle.mk p.text .append
    (o.notices.filterMap Notice.event?).forM fun e => file.putStr e.line
  match o.ending with
  | .ok code => return code.toUInt32
  | .error f => do
    IO.eprintln f.message
    return 1

end Sieve.Command

def main (args : List String) : IO UInt32 := do
  Sieve.Command.write (Sieve.Command.run (← Sieve.Command.machine args) args)
