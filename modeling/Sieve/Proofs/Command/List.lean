import Sieve.Proofs.Command.Select

/-!
What `list` shows outside.

The command loads the settings that a `select` without options loads, opens the log, reads the tests
of the spec, and prints those that run. How many tests there are is reported; if the levels of
modules refuse that record, the run ends there with nothing printed.
-/

namespace Sieve.Command

open Files Log

/-- A request without options, which gives no entries. -/
def bare : SelectRequest := ⟨none, none, [], [], none, none⟩

section Steps

variable (m : Machine) (manner : Manner) (r : ListRequest) (s : Settings)

/-- What surrounds the reading of the spec: the log is open by then. -/
def surroundingsOpen : Surroundings :=
  { m.surroundings with tree := (consoleOpen m manner bare s).tree }

/-- The tests that run. -/
def passing (cs : List Candidate) : List Candidate :=
  (Filter.ofExpressions r.title r.tags).select cs r.untagged

/-- The lines about the tests that run. -/
def listing (cs : List Candidate) : List String :=
  s!"Spec: {r.file.text}" :: s!"Tests ({(passing r cs).length}/{cs.length}):" ::
    (passing r cs).map (testLine r.burn)

/-- What the tests of a spec show by themselves. -/
def shownTests : Except Spec.Failure (List Candidate) → Shown
  | .ok cs => if (passing r cs).isEmpty then (.ok 1, []) else (.ok 0, listing r cs)
  | .error (.load _) => (.ok 2, [])
  | .error (.violation _) => (.ok 2, [])
  | .error f => (.error (.spec f), [])

/-- What a log that cannot be opened shows. A path with a null character is not reported. -/
def shownSink (f : SinkFault) : Shown :=
  if f.fault = .null then (.error (.sink f), []) else (.ok 2, [])

/-- What the run shows by itself once the log is open, with what it reports by then. -/
def listCourse : Logged Shown :=
  match (consoleLoaded m manner bare).sinkFault? m.surroundings.cwd (logRequest manner s) with
  | some f => .pure (shownSink f)
  | none =>
    match (surroundingsOpen m manner s).tree.textAt m.surroundings.cwd r.file with
    | .error _ => .pure (.ok 2, [])
    | .ok text => do return shownTests r (← Selection.candidatesOf text)

end Steps

/-- How a run of `list` ends that has no settings. A file that is no text is reported. -/
def endOfListFault : Settings.LoadFault → Except Crash Nat
  | .file (.undecodable _) => .ok 2
  | f => endOfFault f

variable {m : Machine} {manner : Manner} {r : ListRequest} {s : Settings} {args : List String}
  {c : Console}

open Session

/-- The last steps of the command print the tests that run, if there are any. -/
def printTests (r : ListRequest) (cs : List Candidate) : Session Unit := do
  if (passing r cs).isEmpty then
    Session.warn "No tests match the specified criteria."
    Session.exit 1
  Session.print s!"Spec: {r.file.text}"
  Session.print s!"Tests ({(passing r cs).length}/{cs.length}):"
  (passing r cs).forM fun c => Session.print (testLine r.burn c)

lemma shown_printTests {cs : List Candidate} : shown (printTests r cs) c =
    if (passing r cs).isEmpty then (.ok 1, c.out) else (.ok 0, c.out ++ listing r cs) := by
  have hprint : ∀ (line : String) (c : Console),
      runFrom (Session.print line) c = (.ok (), { c with out := c.out ++ [line] }) := fun _ _ => rfl
  unfold printTests
  by_cases hempty : (passing r cs).isEmpty = true
  · rw [if_pos hempty, if_pos hempty]
    rfl
  · rw [if_neg hempty, if_neg hempty]
    dsimp only
    rw [shown_bind_of_ok (hprint _ _), shown_bind_of_ok (hprint _ _)]
    unfold shown
    rw [runFrom_forM_print]
    simp [listing]

/-- The reading of the spec ends the run, or its tests are listed. -/
lemma shown_readTests :
    shown (readTests m r.file >>= printTests r) (consoleOpen m manner bare s) =
      match (surroundingsOpen m manner s).tree.textAt m.surroundings.cwd r.file with
      | .error _ => (.ok 2, [])
      | .ok text =>
        if (consoleOpen m manner bare s).setup.Admits (Selection.candidatesOf text).records
          then shownTests r (Selection.candidatesOf text).value
        else (.error .event, []) := by
  have hnow : runFrom m.now (consoleOpen m manner bare s) =
      (.ok (surroundingsOpen m manner s), consoleOpen m manner bare s) := rfl
  have hout : (consoleOpen m manner bare s).out = [] := out_consoleOpen
  unfold readTests
  rw [bind_assoc, shown_bind_of_ok hnow]
  have hcwd : (surroundingsOpen m manner s).cwd = m.surroundings.cwd := rfl
  rw [hcwd]
  rcases (surroundingsOpen m manner s).tree.textAt m.surroundings.cwd r.file with e | text
  · exact congrArg (Prod.mk _) hout
  · dsimp only
    rw [bind_assoc]
    by_cases hadmits :
      (consoleOpen m manner bare s).setup.Admits (Selection.candidatesOf text).records
    · rw [if_pos hadmits, shown_bind_of_ok (runFrom_report hadmits)]
      rcases (Selection.candidatesOf text).value with f | cs
      · cases f <;> exact congrArg (Prod.mk _) (Console.out_toldAll.trans hout)
      · rw [pure_bind, shown_printTests, Console.out_toldAll, hout]
        rfl
    · rw [if_neg hadmits, shown_report_of_refuses hadmits, hout]

/-- **What `list` shows.** A run with settings ends as the reading of the spec does, unless a record
that it reports is refused. -/
theorem shown_list
    (hread : Invocation.read ⟨m.surroundings.tree, m.surroundings.cwd⟩ args =
      .ok (.run manner (.list r))) :
    (run m args).shown =
      match (loaded m manner bare).value with
      | .error f => (endOfListFault f, [])
      | .ok s =>
        if (consoleOpen m manner bare s).setup.Admits (listCourse m manner r s).records
          then (listCourse m manner r s).value
        else (.error .event, []) := by
  have hsettings : runFrom (settings m manner []) ⟨[], [], .none, m.surroundings.tree⟩ =
      (.ok (loaded m manner bare).value, consoleLoaded m manner bare) :=
    @runFrom_settings m manner bare
  unfold run
  rw [hread]
  change (Outcome.ofSession m (runList m manner r)).shown = _
  rw [shown_ofSession, runList, shown_bind_of_ok hsettings]
  rcases (loaded m manner bare).value with f | s
  · cases f with
    | file f => cases f <;> exact congrArg (Prod.mk _) out_consoleLoaded
    | _ => exact congrArg (Prod.mk _) out_consoleLoaded
  dsimp only
  rw [shown_bind_of_ok runFrom_setUp]
  unfold listCourse
  rcases (consoleLoaded m manner bare).sinkFault? m.surroundings.cwd (logRequest manner s) with
    _ | f
  · change shown (readTests m r.file >>= printTests r) (consoleOpen m manner bare s) = _
    rw [shown_readTests]
    dsimp only
    rcases (surroundingsOpen m manner s).tree.textAt m.surroundings.cwd r.file with e | text
    · exact shown_of_pure.symm
    · simp only [Logged.records_bind, Logged.value_bind, Logged.records_pure, Logged.value_pure,
        List.append_nil]
  · rw [shown_of_pure, shownSink]
    dsimp only
    split_ifs <;> exact congrArg (Prod.mk _) (@out_consoleOpen m manner bare s)

end Sieve.Command
