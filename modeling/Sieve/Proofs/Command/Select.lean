import Sieve.Command.Run
import Sieve.Proofs.Command.Session
import Sieve.Proofs.Log.Logged

/-!
What `select` shows outside.

The command loads its settings, opens the log, reports its options and what it does to select, and
prints the files that are selected. If the levels of modules refuse a record, the run ends there
with nothing printed; if not, it ends as the selection does.
-/

namespace Sieve.Command

open Files Log

/-- How a run ends, and its output. -/
abbrev Shown := Except Crash Nat × List String

def Outcome.shown (o : Outcome) : Shown := (o.ending, o.out)

namespace Session

variable {α : Type} {m : Machine} {c : Console} {stamp : Stamp}

/-- What the end of a run shows. -/
def shown (x : Session α) (c : Console) : Shown :=
  match runFrom x c with
  | (.ok _, d) => (.ok 0, d.out)
  | (.error (.exit code), d) => (.ok code, d.out)
  | (.error (.usage _), d) => (.ok 2, d.out)
  | (.error (.crash f), d) => (.error f, d.out)

lemma shown_ofSession {x : Session Unit} :
    (Outcome.ofSession m x).shown = shown x ⟨[], [], .none, m.surroundings.tree⟩ := by
  unfold Outcome.ofSession shown runFrom
  rcases x.run.run ⟨[], [], .none, m.surroundings.tree⟩ with ⟨r, c⟩
  rcases r with e | a
  · cases e <;> rfl
  · rfl

lemma shown_bind_of_ok {β : Type} {x : Session α} {k : α → Session β} {a : α} {d : Console}
    (h : runFrom x c = (.ok a, d)) : shown (x >>= k) c = shown (k a) d := by
  unfold shown
  rw [runFrom_bind_of_ok h]

/-- A record that is refused ends the run with nothing printed since. -/
lemma shown_report_of_refuses {β : Type} {x : Logged α} {k : α → Session β}
    (h : ¬ c.setup.Admits x.records) : shown (report stamp x >>= k) c = (.error .event, c.out) := by
  obtain ⟨d, hd, hout⟩ : ∃ d, runFrom (report stamp x) c = (.error (.crash .event), d) ∧
    d.out = c.out := runFrom_report_of_refuses h
  unfold shown
  rw [runFrom_bind_of_error hd]
  exact congrArg (Prod.mk _) hout

end Session

/-! ### The steps of a selection -/

section Steps

variable (m : Machine) (manner : Manner) (r : SelectRequest) (s : Settings) (o : Options)

/-- The settings of the run with what is reported of them. -/
def loaded : Logged (Except Settings.LoadFault Settings) :=
  Settings.load m.surroundings manner.config r.entries

/-- The console once the settings are loaded, before the log is set up. -/
def consoleLoaded : Console :=
  Console.toldAll m.stamp ⟨[], [], .none, m.surroundings.tree⟩ (loaded m manner r).records

/-- The log that the settings ask for. -/
def logRequest : SetupRequest :=
  s.logging.request (if manner.verbose then some Level.debug.number else none)

/-- The console once the log is open. -/
def consoleOpen : Console :=
  (consoleLoaded m manner r).configured m.surroundings.cwd (logRequest manner s)

/-- What surrounds the selection: the options are reported by then. -/
def surroundingsThen : Surroundings :=
  { m.surroundings with
    tree := ((consoleOpen m manner r s).toldAll m.stamp (Selection.announce o).records).tree }

/-- The selection with what is reported of it. -/
def selection : Logged (Except Selection.SelectFault Selection) :=
  Selection.select (surroundingsThen m manner r s o) s (some o) .specs

/-- What a selection shows by itself. -/
def shownOf : Except Selection.SelectFault Selection → Shown
  | .error f => (.error (.select f), [])
  | .ok x => (.ok 0, x.files.map (·.text))

/-- What the run shows by itself once the log is open, with what it reports by then. -/
def course : Logged Shown :=
  match (consoleLoaded m manner r).sinkFault? m.surroundings.cwd (logRequest manner s) with
  | some f => .pure (.error (.sink f), [])
  | none =>
    if s.patterns.isEmpty then .pure (.ok 2, [])
    else
      match s.options with
      | .error _ => .pure (.ok 2, [])
      | .ok o => do
        Selection.announce o
        return shownOf (← selection m manner r s o)

end Steps

/-- How a run ends that has no settings. -/
def endOfFault : Settings.LoadFault → Except Crash Nat
  | .missing _ | .invalid _ => .ok 2
  | f => .error (.load f)

variable {m : Machine} {manner : Manner} {r : SelectRequest} {s : Settings} {args : List String}

open Session

/-- Before the log is set up, nothing is refused. -/
lemma runFrom_settings :
    runFrom (settings m manner r.entries) ⟨[], [], .none, m.surroundings.tree⟩ =
      (.ok (loaded m manner r).value, consoleLoaded m manner r) :=
  runFrom_report fun _ _ h => h.1 rfl

lemma runFrom_setUp : runFrom (setUp m manner s) (consoleLoaded m manner r) =
    (.ok ((consoleLoaded m manner r).sinkFault? m.surroundings.cwd (logRequest manner s)),
      consoleOpen m manner r s) := Console.runFrom_configure

/-- Where no file is named for the log, only the setup changes. -/
lemma consoleOpen_of_no_file (h : s.logging.file = none) :
    (consoleLoaded m manner r).sinkFault? m.surroundings.cwd (logRequest manner s) = none ∧
      consoleOpen m manner r s = { consoleLoaded m manner r with
        setup := Setup.none.asked (logRequest manner s) [.console] } := by
  have hsetup : (consoleLoaded m manner r).setup = Setup.none := Console.setup_toldAll
  have hfile : (logRequest manner s).file.filter (!·.isEmpty) = none := by
    simp [logRequest, LogSettings.request, h]
  rw [← hsetup]
  exact Console.configured_of_none hfile

lemma out_consoleLoaded : (consoleLoaded m manner r).out = [] := Console.out_toldAll

lemma out_consoleOpen : (consoleOpen m manner r s).out = [] := out_consoleLoaded

/-- The last step prints the files. -/
lemma shown_print {c : Console} {x : Selection} :
    shown (do
      x.files.forM fun p => Session.print p.text
      if manner.verbose then Session.warn (summary x)) c =
        (.ok 0, c.out ++ x.files.map (·.text)) := by
  rw [shown_bind_of_ok runFrom_forM_print]
  split_ifs <;> rfl

/-- A run that reports nothing shows what it shows by itself. -/
lemma shown_of_pure {u : Setup} {x : Shown} :
    (if u.Admits (Logged.pure x).records then (Logged.pure x).value else (.error .event, [])) = x :=
  if_pos Setup.admits_nil

lemma shown_selectFiles {o : Options} (ho : s.options = .ok o) :
    shown (do
      let x ← selectFiles m s
      x.files.forM fun p => Session.print p.text
      if manner.verbose then Session.warn (summary x)) (consoleOpen m manner r s) =
      if (consoleOpen m manner r s).setup.Admits
          ((Selection.announce o).records ++ (selection m manner r s o).records)
        then shownOf (selection m manner r s o).value
      else (.error .event, []) := by
  unfold selectFiles
  simp only [ho, Setup.admits_append, bind_assoc]
  by_cases hopening : (consoleOpen m manner r s).setup.Admits (Selection.announce o).records
  · have hnow : runFrom m.now
        ((consoleOpen m manner r s).toldAll m.stamp (Selection.announce o).records) =
          (.ok (surroundingsThen m manner r s o),
            (consoleOpen m manner r s).toldAll m.stamp (Selection.announce o).records) := rfl
    rw [shown_bind_of_ok (runFrom_report hopening), shown_bind_of_ok hnow]
    by_cases hrest : (consoleOpen m manner r s).setup.Admits (selection m manner r s o).records
    · rw [if_pos ⟨hopening, hrest⟩,
        shown_bind_of_ok (runFrom_report (by rwa [Console.setup_toldAll]))]
      change _ = shownOf (selection m manner r s o).value
      unfold selection
      rcases (Selection.select (surroundingsThen m manner r s o) s (some o) .specs).value with f | x
      · exact congrArg (Prod.mk _) ((Console.out_toldAll.trans Console.out_toldAll).trans
          out_consoleOpen)
      · rw [pure_bind, shown_print, Console.out_toldAll, Console.out_toldAll, out_consoleOpen]
        rfl
    · rw [if_neg fun h => hrest h.2,
        shown_report_of_refuses (by rwa [Console.setup_toldAll]), Console.out_toldAll,
        out_consoleOpen]
  · rw [if_neg fun h => hopening h.1, shown_report_of_refuses hopening, out_consoleOpen]

/-- **What `select` shows.** A run with settings ends as the selection does, unless a record that it
reports is refused. -/
theorem shown_select
    (hread : Invocation.read ⟨m.surroundings.tree, m.surroundings.cwd⟩ args =
      .ok (.run manner (.select r))) :
    (run m args).shown =
      match (loaded m manner r).value with
      | .error f => (endOfFault f, [])
      | .ok s =>
        if (consoleOpen m manner r s).setup.Admits (course m manner r s).records
          then (course m manner r s).value
        else (.error .event, []) := by
  unfold run
  rw [hread]
  change (Outcome.ofSession m (runSelect m manner r)).shown = _
  rw [shown_ofSession, runSelect, shown_bind_of_ok runFrom_settings]
  rcases (loaded m manner r).value with f | s
  · cases f <;> exact congrArg (Prod.mk _) out_consoleLoaded
  dsimp only
  rw [shown_bind_of_ok runFrom_setUp]
  unfold course
  rcases (consoleLoaded m manner r).sinkFault? m.surroundings.cwd (logRequest manner s) with _ | f
  · dsimp only
    by_cases hpatterns : s.patterns.isEmpty = true
    · rw [if_pos hpatterns, if_pos hpatterns, shown_of_pure]
      exact congrArg (Prod.mk _) out_consoleOpen
    · rw [if_neg hpatterns, if_neg hpatterns]
      rcases ho : s.options with issues | o
      · rw [shown_of_pure, selectFiles, ho]
        exact congrArg (Prod.mk _) (out_consoleOpen (s := s))
      · rw [shown_selectFiles ho]
        simp only [Logged.records_bind, Logged.value_bind, Logged.records_pure, Logged.value_pure,
          List.append_nil]
  · rw [shown_of_pure]
    exact congrArg (Prod.mk _) out_consoleOpen

/-- The course of a run with patterns, options and an open log. -/
lemma course_of_options {o : Options}
    (hsink : (consoleLoaded m manner r).sinkFault? m.surroundings.cwd (logRequest manner s) = none)
    (hpatterns : s.patterns.isEmpty = false) (ho : s.options = .ok o) :
    course m manner r s = do
      Selection.announce o
      return shownOf (← selection m manner r s o) := by
  unfold course
  rw [hsink, hpatterns, ho]
  rfl

/-- No run ends by a record that is not refused. -/
lemma fst_course_ne : (course m manner r s).value.1 ≠ .error .event := by
  unfold course
  split
  · simp [Logged.pure]
  · split_ifs
    · simp [Logged.pure]
    · split
      · simp [Logged.pure]
      · rename_i o _
        change (shownOf (selection m manner r s o).value).1 ≠ _
        rcases (selection m manner r s o).value with f | x <;> simp [shownOf]

end Sieve.Command
