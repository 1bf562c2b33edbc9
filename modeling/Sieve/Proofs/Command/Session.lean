import Sieve.Command.Session
import Sieve.Proofs.Files.Hidden
import Sieve.Proofs.Log.Refusal

/-!
Runs that report to a console.

Records take their way one after the other. The first that is refused ends the run, with nothing
printed since. If none is refused, the console after them does not depend on the levels of modules.
-/

namespace Sieve.Command

open Files Log

variable {α β : Type} {stamp : Stamp} {c c' d : Console} {r : Record} {rs : List Record}
  {hidden : Places}

namespace Session

/-- What a run from a console ends with, and the console then. -/
def runFrom (x : Session α) (c : Console) : Except Ending α × Console := x.run.run c

lemma runFrom_pure {a : α} : runFrom (pure a : Session α) c = (.ok a, c) := rfl

lemma runFrom_get : runFrom (get : Session Console) c = (.ok c, c) := rfl

lemma runFrom_bind_of_ok {x : Session α} {f : α → Session β} {a : α}
    (h : runFrom x c = (.ok a, d)) : runFrom (x >>= f) c = runFrom (f a) d := by
  unfold runFrom at h ⊢
  simp only [ExceptT.run_bind, StateT.run_bind, h]
  rfl

lemma runFrom_bind_of_error {x : Session α} {f : α → Session β} {e : Ending}
    (h : runFrom x c = (.error e, d)) : runFrom (x >>= f) c = (.error e, d) := by
  unfold runFrom at h ⊢
  simp only [ExceptT.run_bind, StateT.run_bind, h]
  rfl

end Session

/-- The console after a record that is not refused. -/
def Console.told (stamp : Stamp) (c : Console) (r : Record) : Console :=
  match c.setup.plain.emit stamp r.logger r.level.number r.message with
  | .silent | .refused => c
  | .bare message => { c with notices := c.notices ++ [.text message] }
  | .written e =>
    { c with notices := c.notices ++ [.event e], tree := c.setup.record c.tree e }

namespace Session

lemma runFrom_emit_of_refuses (h : c.setup.Refuses r) :
    runFrom (emit stamp r) c = (.error (.crash .event), c) := by
  unfold emit
  rw [runFrom_bind_of_ok runFrom_get, Setup.emit_eq, if_pos h]
  rfl

lemma runFrom_emit (h : ¬ c.setup.Refuses r) :
    runFrom (emit stamp r) c = (.ok (), c.told stamp r) := by
  unfold emit Console.told
  rw [runFrom_bind_of_ok runFrom_get, Setup.emit_eq, if_neg h]
  have hne : c.setup.plain.emit stamp r.logger r.level.number r.message ≠ .refused :=
    Setup.plain_emit_ne_refused
  rcases hemit : c.setup.plain.emit stamp r.logger r.level.number r.message with _ | _ | m | e
  · rfl
  · exact absurd hemit hne
  · rfl
  · rfl

end Session

namespace Console

@[simp] lemma setup_told : (c.told stamp r).setup = c.setup := by
  unfold told
  split <;> rfl

@[simp] lemma out_told : (c.told stamp r).out = c.out := by
  unfold told
  split <;> rfl

/-- The console after records of which none is refused. -/
def toldAll (stamp : Stamp) (c : Console) (rs : List Record) : Console := rs.foldl (told stamp) c

@[simp] lemma setup_toldAll : (c.toldAll stamp rs).setup = c.setup := by
  induction rs generalizing c with
  | nil => rfl
  | cons r rs ih => exact ih.trans setup_told

@[simp] lemma out_toldAll : (c.toldAll stamp rs).out = c.out := by
  induction rs generalizing c with
  | nil => rfl
  | cons r rs ih => exact ih.trans out_told

end Console

namespace Session

lemma runFrom_emitAll (h : c.setup.Admits rs) :
    runFrom (emitAll stamp rs) c = (.ok (), c.toldAll stamp rs) := by
  induction rs generalizing c with
  | nil => rfl
  | cons r rs ih =>
    obtain ⟨hr, hrs⟩ := List.forall_mem_cons.mp h
    rw [emitAll, runFrom_bind_of_ok (runFrom_emit hr)]
    exact ih (by rwa [Setup.Admits, Console.setup_told])

lemma runFrom_emitAll_of_refuses (h : ¬ c.setup.Admits rs) :
    ∃ d, runFrom (emitAll stamp rs) c = (.error (.crash .event), d) ∧ d.out = c.out := by
  induction rs generalizing c with
  | nil => exact absurd (List.forall_mem_nil _) h
  | cons r rs ih =>
    rw [emitAll]
    by_cases hr : c.setup.Refuses r
    · exact ⟨c, runFrom_bind_of_error (runFrom_emit_of_refuses hr), rfl⟩
    · have hrs : ¬ (c.told stamp r).setup.Admits rs := fun hrs =>
        h (List.forall_mem_cons.mpr ⟨hr, by rwa [Console.setup_told] at hrs⟩)
      obtain ⟨d, hd, hout⟩ := ih hrs
      exact ⟨d, (runFrom_bind_of_ok (runFrom_emit hr)).trans hd, hout.trans Console.out_told⟩

/-- **A value is reported** if none of its records is refused. -/
theorem runFrom_report {x : Logged α} (h : c.setup.Admits x.records) :
    runFrom (report stamp x) c = (.ok x.value, c.toldAll stamp x.records) := by
  rw [report, runFrom_bind_of_ok (runFrom_emitAll h)]
  rfl

theorem runFrom_report_of_refuses {x : Logged α} (h : ¬ c.setup.Admits x.records) :
    ∃ d, runFrom (report stamp x) c = (.error (.crash .event), d) ∧ d.out = c.out := by
  obtain ⟨d, hd, hout⟩ : ∃ d, runFrom (emitAll stamp x.records) c = (.error (.crash .event), d) ∧
    d.out = c.out := runFrom_emitAll_of_refuses h
  exact ⟨d, runFrom_bind_of_error hd, hout⟩

lemma runFrom_forM_print {l : List α} {line : α → String} :
    runFrom (l.forM fun a => print (line a)) c = (.ok (), { c with out := c.out ++ l.map line }) := by
  induction l generalizing c with
  | nil => simp [runFrom_pure]
  | cons a l ih =>
    rw [List.forM_eq_forM] at ih ⊢
    have hprint : runFrom (print (line a)) c = (.ok (), { c with out := c.out ++ [line a] }) := rfl
    rw [List.forM_cons, runFrom_bind_of_ok hprint, ih]
    simp

end Session

/-! ### Consoles that differ in levels of modules -/

/-- The consoles differ at most in levels of modules, in what was said beside the output, and in
files that are hidden. Events are written to files whose paths hold no dots. -/
structure Console.IsLike (hidden : Places) (c c' : Console) : Prop where
  setup : c.setup.plain = c'.setup.plain
  tree : c.tree.without hidden = c'.tree.without hidden
  dots : ∀ p ∈ c.logFiles, ∀ n ∈ p.parts, n ≠ "." ∧ n ≠ ".."

namespace Console

lemma record_congr {u u' : Setup} {t t' : Tree} {e : Event} (hsinks : u.sinks = u'.sinks)
    (ht : t.without hidden = t'.without hidden)
    (hdots : ∀ p ∈ u.sinks.filterMap Sink.file?, ∀ n ∈ p.parts, n ≠ "." ∧ n ≠ "..") :
    (u.record t e).without hidden = (u'.record t' e).without hidden := by
  unfold Setup.record
  rw [← hsinks]
  revert hdots
  generalize u.sinks.filterMap Sink.file? = ps
  intro hdots
  induction ps generalizing t t' with
  | nil => exact ht
  | cons p ps ih =>
    obtain ⟨hp, hps⟩ := List.forall_mem_cons.mp hdots
    exact ih (appendTo_congr ht hp) hps

lemma IsLike.told (h : c.IsLike hidden c') : (c.told stamp r).IsLike hidden (c'.told stamp r) := by
  have hsinks : c.setup.sinks = c'.setup.sinks := by
    simpa [Setup.plain] using congrArg Setup.sinks h.setup
  refine ⟨by simpa using h.setup, ?_, by simpa [logFiles] using h.dots⟩
  unfold Console.told
  rw [← h.setup]
  rcases c.setup.plain.emit stamp r.logger r.level.number r.message with _ | _ | m | e
  · exact h.tree
  · exact h.tree
  · exact h.tree
  · exact record_congr hsinks h.tree h.dots

/-- **Records leave consoles alike** as they were before. -/
theorem IsLike.toldAll (h : c.IsLike hidden c') :
    (c.toldAll stamp rs).IsLike hidden (c'.toldAll stamp rs) := by
  induction rs generalizing c c' with
  | nil => exact h
  | cons r rs ih => exact ih h.told

/-- The console once the log is set up. -/
def configured (c : Console) (cwd : Path) (q : SetupRequest) : Console :=
  let (u, t, _) := c.setup.configure c.tree cwd q
  { c with setup := u, tree := t }

/-- The fault of a log that cannot be opened. -/
def sinkFault? (c : Console) (cwd : Path) (q : SetupRequest) : Option SinkFault :=
  (c.setup.configure c.tree cwd q).2.2

lemma runFrom_configure {cwd : Path} {q : SetupRequest} :
    Session.runFrom (Session.configure cwd q) c = (.ok (c.sinkFault? cwd q), c.configured cwd q) :=
  rfl

/-- The log fails where a file is asked for that cannot be opened. -/
lemma map_sinkFault?_eq_some_iff {cwd : Path} {q : SetupRequest} {e : Fault} :
    (c.sinkFault? cwd q).map SinkFault.fault = some e ↔ ∃ file, q.file = some file ∧ file ≠ "" ∧
      openAtEnd c.tree (cwd.absolute (.ofText file)) = .error e := by
  unfold sinkFault?
  rcases hf : q.file.filter (!·.isEmpty) with _ | file
  · rw [Setup.configure_of_none hf]
    refine iff_of_false (by simp) ?_
    rintro ⟨file, hfile, hne, -⟩
    simp [hfile, hne] at hf
  · rw [Setup.configure_of_some hf]
    obtain ⟨hfile, hne⟩ := Option.filter_eq_some_iff.mp hf
    simp only [Bool.not_eq_true', String.isEmpty_eq_false_iff] at hne
    rcases hopen : openAtEnd c.tree (cwd.absolute (.ofText file)) with e | t <;>
      simp [hfile, hne, hopen]

/-- Where no file is asked for, only the setup changes. -/
lemma configured_of_none {cwd : Path} {q : SetupRequest} (h : q.file.filter (!·.isEmpty) = none) :
    c.sinkFault? cwd q = none ∧
      c.configured cwd q = { c with setup := c.setup.asked q [.console] } := by
  unfold sinkFault? configured
  rw [Setup.configure_of_none h]
  exact ⟨rfl, rfl⟩

lemma setup_configured {cwd : Path} {q : SetupRequest} :
    ∃ sinks, (c.configured cwd q).setup = c.setup.asked q sinks := by
  unfold configured
  rcases hf : q.file.filter (!·.isEmpty) with _ | file
  · rw [Setup.configure_of_none hf]
    exact ⟨_, rfl⟩
  · rw [Setup.configure_of_some hf]
    rcases openAtEnd c.tree (cwd.absolute (.ofText file)) with f | t <;> exact ⟨_, rfl⟩

/-- **The log is set up alike** for requests that differ in levels of modules. -/
theorem IsLike.configured {cwd : Path} {q q' : SetupRequest} (h : c.IsLike hidden c')
    (hlevel : q.level = q'.level) (hfile : q.file = q'.file) :
    c.sinkFault? cwd q = c'.sinkFault? cwd q' ∧
      (c.configured cwd q).IsLike hidden (c'.configured cwd q') := by
  have hcorrelation : c.setup.correlation = c'.setup.correlation := by
    simpa [Setup.plain] using congrArg Setup.correlation h.setup
  have hasked : ∀ sinks, (c.setup.asked q sinks).plain = (c'.setup.asked q' sinks).plain := by
    intro sinks
    simp [Setup.plain, Setup.asked, Setup.setModules, hlevel, hcorrelation]
  unfold sinkFault? Console.configured
  rcases hf : q.file.filter (!·.isEmpty) with _ | file
  · rw [Setup.configure_of_none hf, Setup.configure_of_none (hfile ▸ hf)]
    exact ⟨rfl, hasked _, h.tree, by simp [logFiles, Setup.asked, Sink.file?]⟩
  · have hopen := openAtEnd_congr (p := cwd.absolute (.ofText file)) h.tree
    rw [Setup.configure_of_some hf, Setup.configure_of_some (hfile ▸ hf)]
    rcases ht : openAtEnd c.tree (cwd.absolute (.ofText file)) with f | t <;>
      rcases ht' : openAtEnd c'.tree (cwd.absolute (.ofText file)) with f' | t' <;>
        simp only [ht, ht', Except.map, Except.error.injEq, Except.ok.injEq, reduceCtorEq] at hopen
    · exact ⟨by rw [hopen], hasked _, h.tree, by simp [logFiles, Setup.asked, Sink.file?]⟩
    · refine ⟨rfl, hasked _, hopen, ?_⟩
      simpa [logFiles, Setup.asked, Sink.file?] using fun n => Path.ne_dots_of_mem_absolute (n := n)

/-- Where no file is written to, the tree stays. -/
lemma tree_toldAll (h : c.setup.sinks.filterMap Sink.file? = []) :
    (c.toldAll stamp rs).tree = c.tree := by
  induction rs generalizing c with
  | nil => rfl
  | cons r rs ih =>
    refine (ih (by rwa [setup_told])).trans ?_
    unfold Console.told
    split
    · rfl
    · rfl
    · rfl
    · simp [Setup.record, h]

end Console

end Sieve.Command
