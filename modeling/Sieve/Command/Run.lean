import Sieve.Command.Invocation
import Sieve.Command.Session
import Sieve.Json.Writer
import Sieve.Log.Request

/-!
What the commands do.

`select` ends with the code 0 once it has printed the selected files, `list` if it has printed a
test. A command that finds nothing wrong but no test to list ends with 1, and one that cannot use
its command line, its settings or its spec ends with 2.
-/

namespace Sieve

open Command Log

/-- The parts of a filter by their names. -/
def Filter.json (f : Filter) : Json :=
  let title : Json :=
    .obj [("words", Json.ofStrings f.title.words),
      ("negated_words", Json.ofStrings f.title.negated)]
  let tags : Json :=
    .obj [("tags", .arr (f.tags.groups.map Json.ofStrings)),
      ("inverted_tags", Json.ofStrings f.tags.inverted)]
  .obj [("kind", .str f.kind.text), ("title", title), ("tags", tags)]

namespace Command

/-- What a command sees of the machine that it runs on. -/
structure Machine where
  surroundings : Surroundings
  stamp : Stamp
  /-- What runs the program. -/
  runtime : String
  platform : String

/-- What is left of a run. -/
structure Outcome where
  out : List String
  notices : List Notice
  /-- The exit code, unless the run ends in a fault that it does not handle. -/
  ending : Except Crash Nat
  /-- The files that all events are written to. -/
  logFiles : List Files.Path

def versionLine : String := s!"{program}, version {version}"

def runVersion (m : Machine) : Session Unit := do
  Session.print s!"{program} v{version}"
  Session.print s!"Python: {m.runtime}"
  Session.print s!"Platform: {m.platform}"

def runParse (title tags : Option String) : Session Unit :=
  Session.print (Filter.ofExpressions title tags).json.indented

/-- The settings of a run with some entries given. -/
def settings (m : Machine) (manner : Manner) (given : List (Value × Value)) :
    Session (Except Settings.LoadFault Settings) :=
  Session.report m.stamp (Settings.load m.surroundings manner.config given)

/-- Sets the log up as the settings and the manner of the run ask for. -/
def setUp (m : Machine) (manner : Manner) (s : Settings) : Session (Option SinkFault) :=
  Session.configure m.surroundings.cwd
    (s.logging.request (if manner.verbose then some Level.debug.number else none))

/-- The machine with the files as they are now. -/
def Machine.now (m : Machine) : Session Surroundings := do
  return { m.surroundings with tree := (← get).tree }

/-- An entry that is not empty. -/
def entry (key : String) (v : Option Value) : List (Value × Value) :=
  (v.map fun v => (Value.str key, v)).toList

def listEntry (key : String) (l : List String) : List (Value × Value) :=
  if l.isEmpty then [] else [(.str key, .list (l.map .str))]

/-- The entries that the options of `select` give. -/
def SelectRequest.entries (r : SelectRequest) : List (Value × Value) :=
  let env :=
    entry "grep" ((Selection.nonEmpty r.title).map .str) ++
      entry "grepTags" ((Selection.nonEmpty r.tags).map .str) ++
      entry "grepIntegrationFolder" (r.folder.map fun p => .str p.text)
  listEntry "spec_pattern" r.patterns ++ listEntry "exclude_spec_pattern" r.excludes ++
    entry "parallel_workers" (r.workers.map .int) ++
    (if env.isEmpty then [] else [(.str "env", .map env)])

/-- What is said of a selection in a verbose run. -/
def summary (x : Selection) : String :=
  let count := s!"{x.files.length} of {x.discovered} spec files"
  if x.isFallback then s!"{count} (filter matched nothing, keeping all)" else count

/-- Selects under settings that have patterns. -/
def selectFiles (m : Machine) (s : Settings) : Session Selection := do
  match s.options with
  | .error issues => Session.fail (Selection.SelectFault.options issues).message
  | .ok o =>
    Session.report m.stamp (Selection.announce o)
    let w ← m.now
    match ← Session.report m.stamp (Selection.select w s (some o) .specs) with
    | .ok x => return x
    | .error f => Session.crash (.select f)

def runSelect (m : Machine) (manner : Manner) (r : SelectRequest) : Session Unit := do
  match ← settings m manner r.entries with
  | .error (.missing p) => Session.fail (Settings.LoadFault.missing p).message
  | .error (.invalid issues) => Session.fail (Settings.LoadFault.invalid issues).message
  | .error f => Session.crash (.load f)
  | .ok s =>
    if let some f ← setUp m manner s then Session.crash (.sink f)
    if s.patterns.isEmpty then
      throw (.usage ⟨some (.command .select), "No spec pattern given (use --spec-pattern)"⟩)
    let x ← selectFiles m s
    x.files.forM fun p => Session.print p.text
    if manner.verbose then Session.warn (summary x)

/-- The line of a test that would run. -/
def testLine (burn : Option Int) (c : Candidate) : String :=
  let tags := sortedTags c.effectiveTags
  let shown := if tags.isEmpty then "no tags" else ", ".intercalate tags
  let times := (burn.map fun n => s!" x{n}").getD ""
  s!"  - {c.title} [{shown}]{times}"

/-- The tests of the spec in a file. -/
def readTests (m : Machine) (file : Files.Path) : Session (List Candidate) := do
  let w ← m.now
  let refuse {α : Type} (message : String) : Session α := Session.fail s!"{file.text}: {message}"
  match w.tree.textAt w.cwd file with
  | .error f => refuse f.message
  | .ok text =>
    match ← Session.report m.stamp (Selection.candidatesOf text) with
    | .ok cs => return cs
    | .error (.load e) => refuse (Spec.Failure.load e).message
    | .error (.violation v) => refuse (Spec.Failure.violation v).message
    | .error f => Session.crash (.spec f)

def runList (m : Machine) (manner : Manner) (r : ListRequest) : Session Unit := do
  let refuse {α : Type} (message : String) : Session α := Session.fail s!"{r.file.text}: {message}"
  match ← settings m manner [] with
  | .error (.missing p) => refuse (Settings.LoadFault.missing p).message
  | .error (.invalid issues) => refuse (Settings.LoadFault.invalid issues).message
  | .error (.file (.undecodable f)) =>
    refuse (Settings.LoadFault.file (.undecodable f)).message
  | .error f => Session.crash (.load f)
  | .ok s =>
    if let some f ← setUp m manner s then
      if f.fault = .null then Session.crash (.sink f) else refuse f.message
    let cs ← readTests m r.file
    let selected := (Filter.ofExpressions r.title r.tags).select cs r.untagged
    if selected.isEmpty then
      Session.warn "No tests match the specified criteria."
      Session.exit 1
    Session.print s!"Spec: {r.file.text}"
    Session.print s!"Tests ({selected.length}/{cs.length}):"
    selected.forM fun c => Session.print (testLine r.burn c)

def runTask (m : Machine) (manner : Manner) : Task → Session Unit
  | .version => runVersion m
  | .parse title tags => runParse title tags
  | .select r => runSelect m manner r
  | .list r => runList m manner r

/-- The outcome of a run that may have ended early. -/
def Outcome.ofSession (m : Machine) (x : Session Unit) : Outcome :=
  let (r, c) := x.run.run ⟨[], [], .none, m.surroundings.tree⟩
  match r with
  | .ok _ => ⟨c.out, c.notices, .ok 0, c.logFiles⟩
  | .error (.exit code) => ⟨c.out, c.notices, .ok code, c.logFiles⟩
  | .error (.usage f) => ⟨c.out, c.notices ++ f.lines.map .text, .ok 2, c.logFiles⟩
  | .error (.crash f) => ⟨c.out, c.notices, .error f, c.logFiles⟩

/-- Runs the program with arguments. -/
def run (m : Machine) (args : List String) : Outcome :=
  match Invocation.read ⟨m.surroundings.tree, m.surroundings.cwd⟩ args with
  | .error f => ⟨[], f.lines.map .text, .ok 2, []⟩
  | .ok (.help r) => ⟨r.help, [], .ok 0, []⟩
  | .ok .version => ⟨[versionLine], [], .ok 0, []⟩
  | .ok (.run manner task) => .ofSession m (runTask m manner task)

end Command

end Sieve
