import Sieve.Proofs.Command.Select
import Sieve.Proofs.Selection.Alike
import Sieve.Proofs.Selection.ByNames
import Sieve.Proofs.Value.Entries

/-!
Levels of modules and selections.

Two runs of `select` whose configurations differ in levels of modules show the same, unless the
levels of one refuse a record that those of the other do not. A record that is refused ends its run.
-/

namespace Sieve.Command

open Files Log Selection

/-! ### Command lines -/

variable {hidden : Places} {t : Tree} {cwd : Path} {args : List String} {noun text : String}
  {files dirs : Bool}

namespace Site

lemma find?_without :
    (Site.mk (t.without hidden) cwd).find? text =
      ((Site.mk t cwd).find? text).map (Tree.without
        (hidden.below (Tree.placeOf [] (cwd.join (Path.ofText text)).parts))) := by
  unfold find?
  dsimp only
  rw [Tree.find?_without]
  split_ifs
  · rfl
  · rw [Option.filter_map]
    simp [Function.comp_def]
  · rfl

lemma refusal?_without :
    (Site.mk (t.without hidden) cwd).refusal? noun files dirs text =
      (Site.mk t cwd).refusal? noun files dirs text := by
  unfold refusal?
  rw [find?_without]
  rcases (Site.mk t cwd).find? text with _ | n
  · rfl
  · cases n <;> rfl

lemma optionFault?_without {r : Reader} :
    (Site.mk (t.without hidden) cwd).optionFault? r = (Site.mk t cwd).optionFault? r := by
  funext a name
  simp only [optionFault?, optionRefusal?, refusal?_without]

lemma read_without {r : Reader} {next : Arguments → Except UsageFault Invocation} :
    (Site.mk (t.without hidden) cwd).read r args next = (Site.mk t cwd).read r args next := by
  simp only [Site.read, optionFault?_without]

lemma task_without {name : Name} {a : Arguments} :
    (Site.mk (t.without hidden) cwd).task name a = (Site.mk t cwd).task name a := by
  cases name <;> simp only [task, listTask, refusal?_without]

lemma command_without {word : String} :
    (Site.mk (t.without hidden) cwd).command word args = (Site.mk t cwd).command word args := by
  simp only [command, read_without]

end Site

/-- **A command line** asks nothing of what files hold. -/
theorem Invocation.read_without :
    Invocation.read ⟨t.without hidden, cwd⟩ args = Invocation.read ⟨t, cwd⟩ args := by
  simp only [Invocation.read, Site.read_without, Site.command_without, Site.task_without]

/-- Trees with the same names read a command line the same. -/
lemma Invocation.read_of_names (t t' : Tree)
    (h : t.without (fun _ => true) = t'.without (fun _ => true)) :
    Invocation.read ⟨t, cwd⟩ args = Invocation.read ⟨t', cwd⟩ args := by
  rw [← @Invocation.read_without (fun _ => true) t, h, Invocation.read_without]

/-! ### Two configurations -/

variable {m m' : Machine} {manner : Manner} {r : SelectRequest} {s s' : Settings} {o : Options}

/-- The machines differ in hidden files and in variables, and from these the run has settings that
differ in levels of modules, or none. Hidden files that the search finds are kept on both machines
or on neither. -/
structure DifferInLevels (hidden : Places) (m m' : Machine) (manner : Manner) (r : SelectRequest) :
    Prop where
  stamp : m.stamp = m'.stamp
  cwd : m.surroundings.cwd = m'.surroundings.cwd
  tree : m.surroundings.tree.without hidden = m'.surroundings.tree.without hidden
  settings : (loaded m manner r).value.map Settings.withoutLevels =
    (loaded m' manner r).value.map Settings.withoutLevels
  judges : ∀ s s' o, (loaded m manner r).value = .ok s → (loaded m' manner r).value = .ok s' →
    s.options = .ok o →
      JudgesHidden hidden (prefilterOf s o .specs) m.surroundings.cwd
        (surroundingsThen m manner r s o).tree (surroundingsThen m' manner r s' o).tree
        (searchOf s o m.surroundings.cwd)

/-- The levels of modules refuse a record that the run reports. -/
def RefusesRecord (m : Machine) (manner : Manner) (r : SelectRequest) : Prop :=
  ∃ s, (loaded m manner r).value = .ok s ∧
    ¬ (consoleOpen m manner r s).setup.Admits (course m manner r s).records

namespace DifferInLevels

lemma read (h : DifferInLevels hidden m m' manner r) :
    Invocation.read ⟨m'.surroundings.tree, m'.surroundings.cwd⟩ args =
      Invocation.read ⟨m.surroundings.tree, m.surroundings.cwd⟩ args := by
  rw [← Invocation.read_without (t := m'.surroundings.tree), ← h.tree, Invocation.read_without,
    h.cwd]

lemma consoleLoaded (h : DifferInLevels hidden m m' manner r) :
    (consoleLoaded m manner r).IsLike hidden (consoleLoaded m' manner r) := by
  unfold Command.consoleLoaded
  refine ⟨by rw [Console.setup_toldAll, Console.setup_toldAll], ?_, ?_⟩
  · rw [Console.tree_toldAll rfl, Console.tree_toldAll rfl]
    exact h.tree
  · simp [Console.logFiles, Setup.none]

lemma request (hs : s.withoutLevels = s'.withoutLevels) :
    (logRequest manner s).level = (logRequest manner s').level ∧
      (logRequest manner s).file = (logRequest manner s').file := by
  obtain ⟨-, -, -, -, hlevel, hfile⟩ := Settings.eq_of_withoutLevels hs
  simp [logRequest, LogSettings.request, hlevel, hfile]

/-- The course of a run does not depend on levels of modules. -/
lemma value_course (h : DifferInLevels hidden m m' manner r) (hs : (loaded m manner r).value = .ok s)
    (hs' : (loaded m' manner r).value = .ok s') :
    (course m manner r s).value = (course m' manner r s').value := by
  have hplain : s.withoutLevels = s'.withoutLevels := by
    have hmap := h.settings
    rw [hs, hs'] at hmap
    exact Except.ok.inj hmap
  obtain ⟨hpatterns, -, -, henv, -⟩ := Settings.eq_of_withoutLevels hplain
  have hoptions : s.options = s'.options := by
    rw [Settings.options, Settings.envEntries, henv]
    rfl
  obtain ⟨hlevel, hfile⟩ : (logRequest manner s).level = (logRequest manner s').level ∧
    (logRequest manner s).file = (logRequest manner s').file := request hplain
  obtain ⟨hsink, hopen⟩ := @Console.IsLike.configured _ _ _ m.surroundings.cwd _ _ h.consoleLoaded
    hlevel hfile
  unfold course
  rw [← h.cwd, ← hsink, ← hpatterns, ← hoptions]
  rcases (Command.consoleLoaded m manner r).sinkFault? m.surroundings.cwd (logRequest manner s) with
    _ | f
  · dsimp only
    split_ifs
    · rfl
    · rcases ho : s.options with issues | o
      · rfl
      · have htree : (surroundingsThen m manner r s o).tree.without hidden =
            (surroundingsThen m' manner r s' o).tree.without hidden := by
          have hlike := @Console.IsLike.toldAll m.stamp _ _ (announce o).records _ hopen
          unfold surroundingsThen consoleOpen
          rw [← h.stamp, ← h.cwd]
          exact hlike.tree
        have hselect : (selection m manner r s o).value = (selection m' manner r s' o).value :=
          value_selectWith_congr h.cwd htree hplain (h.judges s s' o hs hs' ho)
        simp only [Logged.value_bind, Logged.value_pure, hselect]
  · rfl

end DifferInLevels

section Refusal

variable (hread : Invocation.read ⟨m.surroundings.tree, m.surroundings.cwd⟩ args =
  .ok (.run manner (.select r)))
include hread

lemma shown_of_refuses (h : RefusesRecord m manner r) : (run m args).shown = (.error .event, []) := by
  obtain ⟨s, hs, hadmits⟩ := h
  rw [shown_select hread, hs]
  exact if_neg hadmits

lemma shown_of_not_refuses (h : ¬ RefusesRecord m manner r) :
    (run m args).shown =
      match (loaded m manner r).value with
      | .error f => (endOfFault f, [])
      | .ok s => (course m manner r s).value := by
  rw [shown_select hread]
  rcases hs : (loaded m manner r).value with f | s
  · rfl
  · exact if_pos (not_not.mp fun hadmits => h ⟨s, hs, hadmits⟩)

lemma fst_shown_ne (h : ¬ RefusesRecord m manner r) : (run m args).shown.1 ≠ .error .event := by
  rw [shown_of_not_refuses hread h]
  rcases (loaded m manner r).value with f | s
  · cases f <;> simp [endOfFault]
  · exact fst_course_ne

end Refusal

/-- Runs that refuse no record show the same. -/
lemma DifferInLevels.shown_eq (h : DifferInLevels hidden m m' manner r)
    (hread : Invocation.read ⟨m.surroundings.tree, m.surroundings.cwd⟩ args =
      .ok (.run manner (.select r)))
    (hm : ¬ RefusesRecord m manner r) (hm' : ¬ RefusesRecord m' manner r) :
    (run m args).shown = (run m' args).shown := by
  rw [shown_of_not_refuses hread hm, shown_of_not_refuses (h.read.trans hread) hm']
  have hsettings := h.settings
  rcases hs : (loaded m manner r).value with f | s <;>
    rcases hs' : (loaded m' manner r).value with f' | s' <;>
      simp only [hs, hs', Except.map, Except.error.injEq, reduceCtorEq] at hsettings
  · rw [hsettings]
  · exact h.value_course hs hs'

/-- A value that is reported stays as it is, unless a record is refused. -/
lemma fst_report {α : Type} {x : Logged α} {stamp : Stamp} {c : Console} :
    (Session.runFrom (Session.report stamp x) c).1 =
      if c.setup.Admits x.records then .ok x.value else .error (.crash .event) := by
  by_cases h : c.setup.Admits x.records
  · rw [Session.runFrom_report h, if_pos h]
  · obtain ⟨d, hd, -⟩ := @Session.runFrom_report_of_refuses _ stamp _ _ h
    rw [hd, if_neg h]

/-- **Levels of modules count by what they refuse.** Runs of `select` that differ in them show the
same if and only if both refuse a record that they report, or neither does; a run that refuses one
prints nothing and ends by it. The same holds of the prefilter and of settings that are narrowed. -/
theorem levels_count_by_refusal (h : DifferInLevels hidden m m' manner r)
    (hread : Invocation.read ⟨m.surroundings.tree, m.surroundings.cwd⟩ args =
      .ok (.run manner (.select r))) :
    ((run m args).shown = (run m' args).shown ↔
      (RefusesRecord m manner r ↔ RefusesRecord m' manner r)) ∧
    (RefusesRecord m manner r → (run m args).shown = (.error .event, [])) ∧
    (∀ (f : Prefilter) (t : Tree) (cwd : Path) (found : List Path) (stamp : Stamp) (c : Console),
      (Session.runFrom (Session.report stamp (f.run t cwd found)) c).1 =
        if c.setup.Admits (f.run t cwd found).records then .ok (f.run t cwd found).value
        else .error (.crash .event)) ∧
    ∀ (w : Surroundings) (s : Settings) (ex : Extractors) (id : String) (k : Correlation)
      (stamp : Stamp) (c : Console),
      (Session.runFrom (Session.report stamp (narrowSettings w s ex id k).1) c).1 =
        if c.setup.Admits (narrowSettings w s ex id k).1.records
          then .ok (narrowSettings w s ex id k).1.value
        else .error (.crash .event) := by
  refine ⟨?_, shown_of_refuses hread, fun _ _ _ _ _ _ => fst_report,
    fun _ _ _ _ _ _ _ => fst_report⟩
  have hread' := h.read.trans hread
  by_cases hm : RefusesRecord m manner r <;> by_cases hm' : RefusesRecord m' manner r
  · simp [hm, hm', shown_of_refuses hread hm, shown_of_refuses hread' hm']
  · refine iff_of_false (fun heq => fst_shown_ne hread' hm' ?_) (by simp [hm, hm'])
    rw [← heq, shown_of_refuses hread hm]
  · refine iff_of_false (fun heq => fst_shown_ne hread hm ?_) (by simp [hm, hm'])
    rw [heq, shown_of_refuses hread' hm']
  · exact iff_of_true (h.shown_eq hread hm hm') (by simp [hm, hm'])

/-! ### Levels that refuse nothing -/

/-- **Levels of modules that are not above that of the run** refuse nothing. -/
theorem not_refusesRecord_of_le (h : ∀ s, (loaded m manner r).value = .ok s →
    ∀ e ∈ s.logging.moduleLevels, weightOf e.2 ≤ (logRequest manner s).level) :
    ¬ RefusesRecord m manner r := by
  rintro ⟨s, hs, hadmits⟩
  refine hadmits (Setup.admits_of_le fun e he => ?_)
  have hsetup : (consoleLoaded m manner r).setup = Setup.none := Console.setup_toldAll
  obtain ⟨sinks, hopen⟩ : ∃ sinks, (consoleOpen m manner r s).setup =
      Setup.none.asked (logRequest manner s) sinks := by
    rw [← hsetup]
    exact Console.setup_configured
  rw [hopen] at he ⊢
  rcases Setup.mem_of_mem_setModules he with hmem | hmem
  · exact absurd hmem List.not_mem_nil
  · obtain ⟨⟨module, word⟩, hword, rfl⟩ := List.mem_map.mp hmem
    exact h s hs (module, word) hword

/-! ### A run that a level of a module ends -/

/-- A spec and a file of settings with a level of the module that selects. -/
def levelled (level : String) : Machine where
  surroundings := ⟨.dir [("s.yaml", .file (Text.Utf8.encode Prefilter.splitSpec)),
    ("specgrep.config.yaml", .file (Text.Utf8.encode
      ("logging: \x7bmodule_levels: \x7bspecgrep.selection.plugin: " ++ level ++ "\x7d\x7d\n")))],
    ⟨.root, []⟩, []⟩
  stamp := ⟨"host", "now"⟩
  runtime := ""
  platform := ""

/-- `select -s s.yaml --grep=b` -/
def selectWords : List String := ["select", "-s", "s.yaml", "--grep=b"]

def selectRequest : SelectRequest := ⟨some "b", none, ["s.yaml"], [], none, none⟩

def plainManner : Manner := ⟨none, false⟩

def levelledSettings (level : String) : Settings :=
  ⟨["s.yaml"], [], 8, [("grep", .str "b")],
    ⟨"INFO", none, none, [("specgrep.selection.plugin", level)]⟩⟩

/-- The names of its files. -/
def namesLevelled : Tree := .dir [("s.yaml", .file []), ("specgrep.config.yaml", .file [])]

lemma read_selectWords {level : String} :
    Invocation.read ⟨(levelled level).surroundings.tree, (levelled level).surroundings.cwd⟩
      selectWords = .ok (.run plainManner (.select selectRequest)) := by
  have hread : Invocation.read ⟨namesLevelled, ⟨.root, []⟩⟩ selectWords =
      .ok (.run plainManner (.select selectRequest)) := eq_ok_of_toOption (by decide +kernel)
  rw [Invocation.read_of_names (levelled level).surroundings.tree namesLevelled rfl]
  exact hread

lemma loaded_levelled {level : String} (h : level ∈ ["DEBUG", "INFO", "ERROR"]) :
    (loaded (levelled level) plainManner selectRequest).value = .ok (levelledSettings level) := by
  have hlevel : ((loaded (levelled level) plainManner selectRequest).value.toOption.map fun s =>
      ((s.patterns, s.excludes, s.workers), s.logging,
        s.env.map fun e => (e.1, e.2.string?))) = some ((["s.yaml"], [], 8),
          ⟨"INFO", none, none, [("specgrep.selection.plugin", level)]⟩, [("grep", some "b")]) := by
    simp only [List.mem_cons, List.not_mem_nil, or_false] at h
    rcases h with rfl | rfl | rfl <;> decide +kernel
  obtain ⟨⟨patterns, excludes, workers, env, logging⟩, hs, hfields⟩ := Option.map_eq_some_iff.mp hlevel
  simp only [Prod.mk.injEq] at hfields
  obtain ⟨⟨rfl, rfl, rfl⟩, rfl, henv⟩ := hfields
  obtain ⟨⟨k, v⟩, env, rfl⟩ := List.exists_cons_of_ne_nil (l := env) (by rintro rfl; cases henv)
  simp only [List.map_cons, List.cons.injEq, List.map_eq_nil_iff, Prod.mk.injEq] at henv
  obtain ⟨⟨rfl, hv⟩, rfl⟩ := henv
  rw [Value.string?_eq_some_iff.mp hv] at hs
  exact eq_ok_of_toOption hs

/-- Only the file of settings is hidden. -/
def configPlace : Places := fun place => place == ["specgrep.config.yaml"]

def specPath : Path := ⟨.root, ["s.yaml"]⟩

def selectOptions : Options := ⟨some "b", none, none, false, false, false, none⟩

lemma options_levelled {level : String} : (levelledSettings level).options = .ok selectOptions := by
  change (levelledSettings "").options = _
  exact eq_ok_of_toOption (by decide +kernel)

lemma consoleOpen_levelled {level : String} :
    (consoleLoaded (levelled level) plainManner selectRequest).sinkFault? ⟨.root, []⟩
        (logRequest plainManner (levelledSettings level)) = none ∧
      consoleOpen (levelled level) plainManner selectRequest (levelledSettings level) =
        { consoleLoaded (levelled level) plainManner selectRequest with
          setup := Setup.none.asked (logRequest plainManner (levelledSettings level)) [.console] } :=
  consoleOpen_of_no_file rfl

lemma tree_surroundingsThen {level : String} :
    (surroundingsThen (levelled level) plainManner selectRequest (levelledSettings level)
      o).tree = (levelled level).surroundings.tree := by
  have hloaded : (consoleLoaded (levelled level) plainManner selectRequest).tree =
      (levelled level).surroundings.tree := Console.tree_toldAll rfl
  unfold surroundingsThen
  rw [consoleOpen_levelled.2, Console.tree_toldAll rfl]
  dsimp only
  exact hloaded

lemma named_levelled :
    (searchOf (levelledSettings "DEBUG") selectOptions ⟨.root, []⟩).named
      (levelled "DEBUG").surroundings.tree = [specPath] := by
  decide +kernel

lemma discover_levelled :
    (discover (levelled "DEBUG").surroundings.tree
      (searchOf (levelledSettings "DEBUG") selectOptions ⟨.root, []⟩)).value = .ok [specPath] := by
  have hexcludes : (searchOf (levelledSettings "DEBUG") selectOptions ⟨.root, []⟩).excluded? =
      .ok [] := rfl
  rw [discover_eq_ok_iff (by decide) hexcludes]
  refine ⟨List.pairwise_singleton _ _, fun p => ?_⟩
  rw [named_levelled, Search.isExcluded_nil]
  simp

lemma keeps_specPath :
    ((prefilterOf (levelledSettings "DEBUG") selectOptions .specs).keeps
      (levelled "DEBUG").surroundings.tree ⟨.root, []⟩ specPath).value = .ok true := by
  have htext : (levelled "DEBUG").surroundings.tree.textAt ⟨.root, []⟩ specPath =
      .ok Prefilter.splitSpec := eq_ok_of_toOption (by decide +kernel)
  have hverdict : (prefilterOf (levelledSettings "DEBUG") selectOptions .specs).verdict
      Prefilter.splitSpec = .ok true := by
    unfold Prefilter.verdict
    rw [if_pos (by decide), Prefilter.namesOfText_splitSpec]
    decide
  rw [Prefilter.keeps_of_text rfl (by decide) htext, hverdict]
  rfl

lemma selection_levelled :
    (selection (levelled "DEBUG") plainManner selectRequest (levelledSettings "DEBUG")
      selectOptions).value = .ok ⟨[specPath], 1, true, false⟩ := by
  have hkept : (prefilterOf (levelledSettings "DEBUG") selectOptions .specs).keptOf
      (levelled "DEBUG").surroundings.tree ⟨.root, []⟩ [specPath] = [specPath] := by
    simp [Prefilter.keptOf, keeps_specPath]
  have hamong : amongFound (prefilterOf (levelledSettings "DEBUG") selectOptions .specs)
      (levelled "DEBUG").surroundings.tree ⟨.root, []⟩ [specPath] =
        ⟨[specPath], 1, true, false⟩ := by
    rw [amongFound, if_neg (by decide), hkept]
    rfl
  have hcwd : (surroundingsThen (levelled "DEBUG") plainManner selectRequest
      (levelledSettings "DEBUG") selectOptions).cwd = ⟨.root, []⟩ := rfl
  rw [selection, value_select_some, selectWith_eq_ok_iff, tree_surroundingsThen, hcwd]
  exact ⟨[specPath], discover_levelled, List.forall_mem_singleton.mpr ⟨true, keeps_specPath⟩,
    hamong.symm⟩

lemma course_levelled :
    (course (levelled "DEBUG") plainManner selectRequest (levelledSettings "DEBUG")).value =
      (.ok 0, ["/s.yaml"]) := by
  have htext : specPath.text = "/s.yaml" := by decide
  rw [course_of_options consoleOpen_levelled.1 (by decide) options_levelled]
  simp only [Logged.value_bind, Logged.value_pure, selection_levelled, shownOf, List.map_cons,
    List.map_nil, htext]

lemma differInLevels_levelled {level : String} (h : level ∈ ["DEBUG", "INFO", "ERROR"]) :
    DifferInLevels configPlace (levelled "DEBUG") (levelled level) plainManner selectRequest where
  stamp := rfl
  cwd := rfl
  tree := by simp [levelled, Tree.without, Tree.withoutAll, Places.below, configPlace]
  settings := by
    rw [loaded_levelled (by decide), loaded_levelled h]
    rfl
  judges := by
    intro s s' o hs _ ho found hfound p hp hplace
    rw [loaded_levelled (by decide)] at hs
    cases hs
    rw [options_levelled] at ho
    cases ho
    rw [tree_surroundingsThen] at hfound
    obtain rfl : [specPath] = found := Except.ok.inj (discover_levelled.symm.trans hfound)
    rw [List.mem_singleton.mp hp] at hplace
    exact absurd hplace (by decide)

lemma not_refusesRecord_levelled {level : String} (h : level ∈ ["DEBUG", "INFO"]) :
    ¬ RefusesRecord (levelled level) plainManner selectRequest := by
  refine not_refusesRecord_of_le fun s hs e he => ?_
  rw [loaded_levelled (List.mem_append_left ["ERROR"] h)] at hs
  cases hs
  rw [List.mem_singleton.mp he]
  simp only [List.mem_cons, List.not_mem_nil, or_false] at h
  rcases h with rfl | rfl <;> decide

/-- The first thing that is reported weighs less than an error. -/
lemma refusesRecord_levelled : RefusesRecord (levelled "ERROR") plainManner selectRequest := by
  refine ⟨levelledSettings "ERROR", loaded_levelled (by decide), fun hadmits => ?_⟩
  rw [course_of_options consoleOpen_levelled.1 (by decide) options_levelled,
    consoleOpen_levelled.2] at hadmits
  obtain ⟨hopening, -⟩ := Setup.admits_append.mp hadmits
  exact absurd hopening (by decide)

/-- Levels that refuse nothing change nothing. -/
theorem the_same_under_lower_levels :
    (run (levelled "DEBUG") selectWords).shown = (run (levelled "INFO") selectWords).shown :=
  (levels_count_by_refusal (differInLevels_levelled (by decide)) read_selectWords).1.mpr
    (iff_of_false (not_refusesRecord_levelled (by decide))
      (not_refusesRecord_levelled (by decide)))

/-- A level of a module ends a run that prints a file without it. -/
theorem ended_by_a_level_of_a_module :
    DifferInLevels configPlace (levelled "DEBUG") (levelled "ERROR") plainManner selectRequest ∧
    (run (levelled "DEBUG") selectWords).shown = (.ok 0, ["/s.yaml"]) ∧
    (run (levelled "ERROR") selectWords).shown = (.error .event, []) := by
  refine ⟨differInLevels_levelled (by decide), ?_, ?_⟩
  · rw [shown_of_not_refuses read_selectWords (not_refusesRecord_levelled (by decide)),
      loaded_levelled (by decide)]
    exact course_levelled
  · exact shown_of_refuses read_selectWords refusesRecord_levelled

end Sieve.Command
