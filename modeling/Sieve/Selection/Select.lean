import Sieve.Files.Discovery
import Sieve.Selection.Announcement
import Sieve.Selection.Prefilter

/-!
The spec files of a run: those that the patterns of the settings name, less those in which no
test could run. If that leaves no file, all files stay.
-/

namespace Sieve

open Files Log

structure Selection where
  files : List Path
  /-- How many files the patterns name. -/
  discovered : Nat
  /-- There was something to filter by. -/
  isFiltered : Bool
  /-- No file held a test that could run. -/
  isFallback : Bool
deriving DecidableEq, Repr

namespace Selection

inductive SelectFault where
  | options (issues : List Schema.Issue)
  | search (f : SearchFault)
  | look (f : LookFault)
deriving Repr

def SelectFault.message : SelectFault → String
  | options issues => Schema.Issue.report "Invalid grep options" issues
  | search f => f.message
  | look f => f.message

/-- The search that settings and options ask for. -/
def searchOf (s : Settings) (o : Options) (cwd : Path) : Search :=
  ⟨s.patterns, Search.folderAt cwd (o.folderIn cwd), s.excludes⟩

def discoveryLogger : String := "specgrep.loader.discovery"

/-- The files that a search finds. -/
def discover (t : Tree) (search : Search) : Logged (Except SearchFault (List Path)) := do
  if search.folder.holdsNull then return .error .null
  let known := search.untilNull
  Logged.tellAll discoveryLogger .debug (known.outside.map fun p =>
    s!"Ignoring exclude pattern outside {search.folder.text}: {p}")
  if known.excludes ≠ search.excludes then return .error .null
  match known.run t with
  | .error f => return .error (.exclude f)
  | .ok d =>
    Logged.tellAll discoveryLogger .debug (d.excluded.map fun p => s!"Excluded spec file {p.text}")
    if known.patterns ≠ search.patterns then return .error .null
    return .ok d.files

def prefilterOf (s : Settings) (o : Options) (ex : Extractors) : Prefilter :=
  .ofExpressions o.title o.tags ex s.workers

/-- Reports that no file is left. -/
def announceFallback (o : Options) : Logged Unit := do
  say .warning "grep and/or grepTags has eliminated all specs"
  sayAny .warning (nonEmpty o.title) fun t => s!"grep: {t}"
  sayAny .warning (nonEmpty o.tags) fun t => s!"grepTags: {t}"
  say .warning "Will leave all specs to run to filter at run-time"

/-- Those of the files that an active prefilter keeps, or all. -/
def narrow (w : Surroundings) (o : Options) (f : Prefilter) (files : List Path) :
    Logged (Except SelectFault Selection) := do
  sayAny .info (nonEmpty o.title) fun t => s!"specgrep: filtering specs using \"{t}\" in the title"
  say .debug "parsed grep"
  match ← f.run w.tree w.cwd files with
  | .error e => return .error (.look e)
  | .ok kept =>
    say .debug s!"found grep in {kept.length} specs"
    if !kept.isEmpty then return .ok ⟨kept, files.length, true, false⟩
    announceFallback o
    return .ok ⟨files, files.length, true, true⟩

/-- The files of a run under given options. -/
def selectWith (w : Surroundings) (s : Settings) (o : Options) (ex : Extractors) :
    Logged (Except SelectFault Selection) := do
  let search := searchOf s o w.cwd
  say .debug "specPattern"
  say .debug "excludeSpecPattern"
  say .debug s!"integrationFolder {search.folder.text}"
  match ← discover w.tree search with
  | .error f => return .error (.search f)
  | .ok files =>
    say .debug s!"found {files.length} spec files"
    let f := prefilterOf s o ex
    if !f.isActive then
      say .debug s!"no grep expression, keeping all {files.length} specs"
      return .ok ⟨files, files.length, false, false⟩
    narrow w o f files

/-- The scheduler of the workers reports under a name of its own. -/
def startWorkers : Logged Unit := .tell "asyncio" .debug "Using selector: EpollSelector"

/-- The files of a run under given options, or those of the settings. -/
def select (w : Surroundings) (s : Settings) (given : Option Options) (ex : Extractors) :
    Logged (Except SelectFault Selection) := do
  startWorkers
  match given with
  | some o => selectWith w s o ex
  | none =>
    match s.options with
    | .ok o => selectWith w s o ex
    | .error issues => return .error (.options issues)

end Selection

end Sieve
