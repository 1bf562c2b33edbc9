import Sieve.Proofs.Command.Levels
import Sieve.Proofs.Command.List
import Sieve.Proofs.Command.Override
import Sieve.Proofs.Settings.Faults

/-!
How `select` and `list` end.

Both report what they cannot use by the exit code 2, but not all of it. A run escapes where the
settings fail unreported, where a level of a module refuses a record, where a path holds a null
character, and where a spec stops the walk over it by what names no rule; `select` moreover where
the log cannot be opened, and by a pattern of what is left out. In all other cases `select` prints
the files that are selected and `list` the tests that run.
-/

namespace Sieve.Command

open Files Log Selection Spec

variable {m : Machine} {manner : Manner} {r : SelectRequest} {q : ListRequest} {s : Settings}
  {args : List String} {x : Shown}

/-- The run ends in one of the ways said, unless it escapes; then it ends in a fault and has printed
nothing. -/
structure IsDecided (shown : Shown) (ends : Shown → Prop) (escapes : Prop) : Prop where
  ends : ∀ x, ends x ↔ ¬ escapes ∧ shown = x
  escapes : escapes ↔ ∃ c, shown = (.error c, [])

lemma IsDecided.of_cases {shown : Shown} {ends : Shown → Prop} {escapes : Prop}
    (hends : ∀ x, ends x → shown = x ∧ ∃ code, x.1 = .ok code)
    (hescapes : escapes → ∃ c, shown = (.error c, [])) (hcases : (∃ x, ends x) ∨ escapes) :
    IsDecided shown ends escapes := by
  have hnot : ∀ x, ends x → ¬ escapes := by
    intro x hx hesc
    obtain ⟨hshown, code, hcode⟩ := hends x hx
    obtain ⟨c, hc⟩ := hescapes hesc
    rw [← hshown, hc] at hcode
    cases hcode
  constructor
  · intro x
    refine ⟨fun hx => ⟨hnot x hx, (hends x hx).1⟩, fun ⟨hesc, hshown⟩ => ?_⟩
    obtain ⟨y, hy⟩ := hcases.resolve_right hesc
    rw [← hshown, (hends y hy).1]
    exact hy
  · refine ⟨hescapes, fun ⟨c, hc⟩ => hcases.resolve_left fun ⟨x, hx⟩ => ?_⟩
    obtain ⟨hshown, code, hcode⟩ := hends x hx
    rw [← hshown, hc] at hcode
    cases hcode

/-- The settings name a file for the log that cannot be opened for this reason. -/
def UnopenableBy (m : Machine) (s : Settings) (e : Fault) : Prop :=
  ∃ file, s.logging.file = some file ∧ file ≠ "" ∧
    openAtEnd m.surroundings.tree (m.surroundings.cwd.absolute (.ofText file)) = .error e

/-- The settings name a file for the log that cannot be opened. -/
def Unopenable (m : Machine) (s : Settings) : Prop := ∃ e, UnopenableBy m s e

lemma unopenableBy_iff {e : Fault} : UnopenableBy m s e ↔
    ((consoleLoaded m manner r).sinkFault? m.surroundings.cwd (logRequest manner s)).map
      SinkFault.fault = some e := by
  have htree : (consoleLoaded m manner r).tree = m.surroundings.tree := Console.tree_toldAll rfl
  rw [Console.map_sinkFault?_eq_some_iff, htree]
  exact Iff.rfl

lemma exists_sinkFault {e : Fault} (h : UnopenableBy m s e) : ∃ f, f.fault = e ∧
    (consoleLoaded m manner r).sinkFault? m.surroundings.cwd (logRequest manner s) = some f := by
  obtain ⟨f, hf, he⟩ := Option.map_eq_some_iff.mp (unopenableBy_iff.mp h)
  exact ⟨f, he, hf⟩

lemma sinkFault?_eq_none (h : ¬ Unopenable m s) :
    (consoleLoaded m manner r).sinkFault? m.surroundings.cwd (logRequest manner s) = none := by
  rw [← Option.map_eq_none_iff, Option.eq_none_iff_forall_ne_some]
  exact fun e he => h ⟨e, unopenableBy_iff.mpr he⟩

/-! ### Settings -/

lemma endOfFault_of_reported {f : Settings.LoadFault} (h : f.IsReported) :
    endOfFault f = .ok 2 := by
  cases f <;> first | rfl | exact absurd h id

lemma endOfFault_of_not_reported {f : Settings.LoadFault} (h : ¬ f.IsReported) :
    endOfFault f = .error (.load f) := by
  cases f <;> first | rfl | exact absurd trivial h

/-- Settings with the entries of `select` fail unreported. -/
lemma unreported_entries_iff {path : Option Path} {f : Settings.LoadFault}
    (hfollowed : Settings.FollowsNothing m.surroundings path) :
    (Settings.load m.surroundings path r.entries).value = .error f ∧ ¬ f.IsReported ↔
      Settings.Unloadable m.surroundings path r.entries f :=
  Settings.unreported_iff_unloadable isGiven_entries.1.distinct hasTextKeys_entries
    hasNoParameters_entries hfollowed

lemma endOfListFault_of_decoded {f : Settings.LoadFault} (h : ∀ e, f ≠ .file (.undecodable e)) :
    endOfListFault f = endOfFault f := by
  unfold endOfListFault
  split
  · exact absurd rfl (h _)
  · rfl

/-! ### Selections -/

/-- The files are selected: there are settings with patterns, a log and options, and no record is
refused. -/
structure Selects (m : Machine) (manner : Manner) (r : SelectRequest) (s : Settings)
    (o : Options) : Prop where
  settings : (loaded m manner r).value = .ok s
  log : ¬ Unopenable m s
  patterns : s.patterns ≠ []
  options : s.options = .ok o
  admits : ¬ RefusesRecord m manner r

/-- How a run of `select` ends: it cannot use the settings, their patterns or their options, or it
prints the files among those found that are selected. -/
inductive SelectEnds (m : Machine) (manner : Manner) (r : SelectRequest) : Shown → Prop
  | settings {f : Settings.LoadFault} : (loaded m manner r).value = .error f → f.IsReported →
    SelectEnds m manner r (.ok 2, [])
  | patterns {s : Settings} : (loaded m manner r).value = .ok s → ¬ Unopenable m s →
    s.patterns = [] → SelectEnds m manner r (.ok 2, [])
  | options {s : Settings} {issues : List Schema.Issue} : (loaded m manner r).value = .ok s →
    ¬ Unopenable m s → s.options = .error issues → SelectEnds m manner r (.ok 2, [])
  | printed {s : Settings} {o : Options} {found : List Path} : Selects m manner r s o →
    (discover (surroundingsThen m manner r s o).tree
      (searchOf s o m.surroundings.cwd)).value = .ok found →
    (∀ p ∈ found, ∃ b, ((prefilterOf s o .specs).keeps (surroundingsThen m manner r s o).tree
      m.surroundings.cwd p).value = .ok b) →
    SelectEnds m manner r (.ok 0,
      (amongFound (prefilterOf s o .specs) (surroundingsThen m manner r s o).tree
        m.surroundings.cwd found).files.map (·.text))

/-- Why a run of `select` ends in a fault that it does not handle. -/
inductive SelectEscapes (m : Machine) (manner : Manner) (r : SelectRequest) : Prop
  | settings {f : Settings.LoadFault} :
    Settings.Unloadable m.surroundings manner.config r.entries f → SelectEscapes m manner r
  | log {s : Settings} : (loaded m manner r).value = .ok s → Unopenable m s →
    SelectEscapes m manner r
  | event : RefusesRecord m manner r → SelectEscapes m manner r
  | null {s : Settings} {o : Options} : Selects m manner r s o →
    ¬ (searchOf s o m.surroundings.cwd).IsFreeOfNulls → SelectEscapes m manner r
  | exclude {s : Settings} {o : Options} {p pattern : String} {e : ExcludeFault} :
    Selects m manner r s o → p ∈ s.excludes →
    Search.fromFolder? (searchOf s o m.surroundings.cwd).folder p = some pattern →
    Exclude.ofLine? ("/" ++ pattern) = .error e → SelectEscapes m manner r
  | spec {s : Settings} {o : Options} {found : List Path} {p : Path} {text : String}
    {root : Mapping} : Selects m manner r s o →
    (discover (surroundingsThen m manner r s o).tree
      (searchOf s o m.surroundings.cwd)).value = .ok found → p ∈ found →
    (prefilterOf s o .specs).isActive = true →
    (surroundingsThen m manner r s o).tree.textAt m.surroundings.cwd p = .ok text →
    load text = .ok (.map root.line root.entries) →
    (if (prefilterOf s o .specs).byNames then root.NamesStuck else root.TestsStuck) →
    SelectEscapes m manner r

/-- What the run shows once the files are selected. -/
lemma shown_of_selects {o : Options}
    (hread : Invocation.read ⟨m.surroundings.tree, m.surroundings.cwd⟩ args =
      .ok (.run manner (.select r))) (h : Selects m manner r s o) :
    (run m args).shown = shownOf (selection m manner r s o).value := by
  have hpatterns : s.patterns.isEmpty = false := by
    simpa [List.isEmpty_iff] using h.patterns
  rw [shown_of_not_refuses hread h.admits, h.settings]
  dsimp only
  rw [course_of_options (sinkFault?_eq_none h.log) hpatterns h.options]
  simp only [Logged.value_bind, Logged.value_pure]

/-- A run that ends before anything is reported refuses nothing. -/
lemma not_refusesRecord_of_course {y : Shown} (hs : (loaded m manner r).value = .ok s)
    (h : course m manner r s = Logged.pure y) : ¬ RefusesRecord m manner r := by
  rintro ⟨s', hs', hadmits⟩
  obtain rfl : s = s' := Except.ok.inj (hs.symm.trans hs')
  rw [h] at hadmits
  exact hadmits Setup.admits_nil

lemma course_of_unopenable (h : Unopenable m s) :
    ∃ f, course m manner r s = Logged.pure (.error (.sink f), []) := by
  obtain ⟨e, he⟩ := h
  obtain ⟨f, -, hf⟩ := @exists_sinkFault m manner r s e he
  refine ⟨f, ?_⟩
  unfold course
  rw [hf]

lemma course_of_unusable (hlog : ¬ Unopenable m s)
    (h : s.patterns = [] ∨ ∃ issues, s.options = .error issues) :
    course m manner r s = Logged.pure (.ok 2, []) := by
  unfold course
  rw [sinkFault?_eq_none hlog]
  rcases h with hnil | ⟨issues, hissues⟩
  · rw [hnil]
    rfl
  · rw [hissues]
    split_ifs <;> rfl

section Select

variable (hread : Invocation.read ⟨m.surroundings.tree, m.surroundings.cwd⟩ args =
  .ok (.run manner (.select r)))
include hread

/-- A run without settings reports no record that could be refused. -/
lemma shown_of_fault {f : Settings.LoadFault} (h : (loaded m manner r).value = .error f) :
    (run m args).shown = (endOfFault f, []) := by
  rw [shown_select hread, h]

lemma shown_of_course {y : Shown} (hs : (loaded m manner r).value = .ok s)
    (h : course m manner r s = Logged.pure y) : (run m args).shown = y := by
  rw [shown_of_not_refuses hread (not_refusesRecord_of_course hs h), hs]
  dsimp only
  rw [h]
  rfl

lemma shown_of_selectEnds (h : SelectEnds m manner r x) :
    (run m args).shown = x ∧ ∃ code, x.1 = .ok code := by
  cases h with
  | @settings f hf hreported =>
    refine ⟨?_, 2, rfl⟩
    rw [shown_of_fault hread hf, endOfFault_of_reported hreported]
  | patterns hs hlog hnil =>
    exact ⟨shown_of_course hread hs (course_of_unusable hlog (Or.inl hnil)), 2, rfl⟩
  | options hs hlog hissues =>
    exact ⟨shown_of_course hread hs (course_of_unusable hlog (Or.inr ⟨_, hissues⟩)), 2, rfl⟩
  | printed h hfound hkeeps =>
    refine ⟨?_, 0, rfl⟩
    rw [shown_of_selects hread h, selection, value_select_some,
      selectWith_eq_ok_iff.mpr ⟨_, hfound, hkeeps, rfl⟩]
    rfl

/-- A search that fails ends the run. -/
lemma shown_of_discover {o : Options} {e : SearchFault} (h : Selects m manner r s o)
    (he : (discover (surroundingsThen m manner r s o).tree
      (searchOf s o m.surroundings.cwd)).value = .error e) :
    ∃ c, (run m args).shown = (.error c, []) := by
  rw [shown_of_selects hread h]
  rcases hselection : (selection m manner r s o).value with f | x
  · exact ⟨_, rfl⟩
  · obtain ⟨found, hfound, -⟩ := selectWith_eq_ok_iff.mp hselection
    exact absurd (he.symm.trans hfound) (by simp)

lemma shown_of_selectEscapes (hfollowed : Settings.FollowsNothing m.surroundings manner.config)
    (h : SelectEscapes m manner r) : ∃ c, (run m args).shown = (.error c, []) := by
  cases h with
  | @settings f h =>
    obtain ⟨hf, hnot⟩ := (unreported_entries_iff hfollowed).mpr h
    rw [shown_of_fault hread hf, endOfFault_of_not_reported hnot]
    exact ⟨_, rfl⟩
  | log hs hlog =>
    obtain ⟨f, hcourse⟩ := course_of_unopenable hlog
    exact ⟨_, shown_of_course hread hs hcourse⟩
  | event h => exact ⟨_, shown_of_refuses hread h⟩
  | null h hnull =>
    obtain ⟨e, he⟩ := exists_discover_eq_error_iff.mpr (Or.inl hnull)
    exact shown_of_discover hread h he
  | exclude h hp hpattern he =>
    obtain ⟨e, he⟩ := exists_discover_eq_error_iff.mpr
      (Or.inr (Search.exists_run_eq_error_iff.mpr ⟨_, hp, _, _, hpattern, he⟩))
    exact shown_of_discover hread h he
  | @spec s o found p text root h hfound hp hactive htext hload hstuck =>
    rw [shown_of_selects hread h]
    rcases hselection : (selection m manner r s o).value with f | x
    · exact ⟨_, rfl⟩
    · obtain ⟨found', hfound', hkeeps, -⟩ := selectWith_eq_ok_iff.mp hselection
      obtain rfl : found = found' := Except.ok.inj (hfound.symm.trans hfound')
      obtain ⟨b, hb⟩ := hkeeps p hp
      obtain ⟨e, he⟩ := (Prefilter.keeps_eq_error_iff rfl).mpr
        ⟨hactive, text, root, htext, hload, hstuck⟩
      exact absurd (hb.symm.trans he) (by simp)

end Select

lemma selectEnds_or_escapes (hfollowed : Settings.FollowsNothing m.surroundings manner.config) :
    (∃ x, SelectEnds m manner r x) ∨ SelectEscapes m manner r := by
  rcases hs : (loaded m manner r).value with f | s
  · by_cases hreported : f.IsReported
    · exact Or.inl ⟨_, .settings hs hreported⟩
    · exact Or.inr (.settings ((unreported_entries_iff hfollowed).mp ⟨hs, hreported⟩))
  by_cases hlog : Unopenable m s
  · exact Or.inr (.log hs hlog)
  by_cases hpatterns : s.patterns = []
  · exact Or.inl ⟨_, .patterns hs hlog hpatterns⟩
  rcases ho : s.options with issues | o
  · exact Or.inl ⟨_, .options hs hlog ho⟩
  by_cases hevent : RefusesRecord m manner r
  · exact Or.inr (.event hevent)
  have h : Selects m manner r s o := ⟨hs, hlog, hpatterns, ho, hevent⟩
  rcases hfound : (discover (surroundingsThen m manner r s o).tree
    (searchOf s o m.surroundings.cwd)).value with e | found
  · rcases exists_discover_eq_error_iff.mp ⟨e, hfound⟩ with hnull | hrun
    · exact Or.inr (.null h hnull)
    · obtain ⟨p, hp, pattern, e', hpattern, he'⟩ := Search.exists_run_eq_error_iff.mp hrun
      exact Or.inr (.exclude h hp hpattern he')
  by_cases hkeeps : ∀ p ∈ found, ∃ b, ((prefilterOf s o .specs).keeps
    (surroundingsThen m manner r s o).tree m.surroundings.cwd p).value = .ok b
  · exact Or.inl ⟨_, .printed h hfound hkeeps⟩
  · simp only [not_forall, not_exists] at hkeeps
    obtain ⟨p, hp, hnot⟩ := hkeeps
    obtain ⟨e, he⟩ : ∃ e, ((prefilterOf s o .specs).keeps (surroundingsThen m manner r s o).tree
        m.surroundings.cwd p).value = .error e := by
      rcases hvalue : ((prefilterOf s o .specs).keeps (surroundingsThen m manner r s o).tree
        m.surroundings.cwd p).value with e | b
      · exact ⟨e, rfl⟩
      · exact absurd hvalue (hnot b)
    obtain ⟨hactive, text, root, htext, hload, hstuck⟩ :=
      (Prefilter.keeps_eq_error_iff rfl).mp ⟨e, he⟩
    exact Or.inr (.spec h hfound hp hactive htext hload hstuck)

/-! ### Lists -/

/-- The record that counts the tests of a spec. -/
def countRecord (cs : List Candidate) : Record :=
  ⟨"specgrep.loader.extractors", .debug, s!"Extracted {cs.length} tests", none⟩

/-- The text of the spec is read: there are settings and a log. -/
structure ReadsText (m : Machine) (manner : Manner) (q : ListRequest) (s : Settings)
    (text : String) : Prop where
  settings : (loaded m manner bare).value = .ok s
  log : ¬ Unopenable m s
  text : (surroundingsOpen m manner s).tree.textAt m.surroundings.cwd q.file = .ok text

/-- The spec holds these tests. -/
def HoldsTests (m : Machine) (manner : Manner) (q : ListRequest) (s : Settings)
    (cs : List Candidate) : Prop :=
  ∃ text, ReadsText m manner q s text ∧ candidatesOfText text = .ok cs

/-- The levels of modules refuse the record that counts the tests. -/
def RefusesCount (m : Machine) (manner : Manner) (s : Settings) (cs : List Candidate) : Prop :=
  (consoleOpen m manner bare s).setup.Refuses (countRecord cs)

instance (m : Machine) (manner : Manner) (s : Settings) (cs : List Candidate) :
    Decidable (RefusesCount m manner s cs) :=
  inferInstanceAs (Decidable (Setup.Refuses _ _))

/-- How a run of `list` ends: it cannot use the settings, the log or the spec, none of the tests
runs, or it prints those that run. -/
inductive ListEnds (m : Machine) (manner : Manner) (q : ListRequest) : Shown → Prop
  | settings {f : Settings.LoadFault} : (loaded m manner bare).value = .error f →
    f.IsReported ∨ (∃ e, f = .file (.undecodable e)) → ListEnds m manner q (.ok 2, [])
  | log {s : Settings} {e : Fault} : (loaded m manner bare).value = .ok s → UnopenableBy m s e →
    e ≠ .null → ListEnds m manner q (.ok 2, [])
  | unreadable {s : Settings} {e : ContentFault} : (loaded m manner bare).value = .ok s →
    ¬ Unopenable m s →
    (surroundingsOpen m manner s).tree.textAt m.surroundings.cwd q.file = .error e →
    ListEnds m manner q (.ok 2, [])
  | invalid {s : Settings} {text : String} : ReadsText m manner q s text →
    ((∃ e, candidatesOfText text = .error (.load e)) ∨
      ∃ v, candidatesOfText text = .error (.violation v)) → ListEnds m manner q (.ok 2, [])
  | none {s : Settings} {cs : List Candidate} : HoldsTests m manner q s cs →
    ¬ RefusesCount m manner s cs → passing q cs = [] → ListEnds m manner q (.ok 1, [])
  | printed {s : Settings} {cs : List Candidate} : HoldsTests m manner q s cs →
    ¬ RefusesCount m manner s cs → passing q cs ≠ [] → ListEnds m manner q (.ok 0, listing q cs)

/-- Why a run of `list` ends in a fault that it does not handle. -/
inductive ListEscapes (m : Machine) (manner : Manner) (q : ListRequest) : Prop
  | settings {f : Settings.LoadFault} : Settings.Unloadable m.surroundings manner.config [] f →
    (∀ e, f ≠ .file (.undecodable e)) → ListEscapes m manner q
  | log {s : Settings} : (loaded m manner bare).value = .ok s → UnopenableBy m s .null →
    ListEscapes m manner q
  | event {s : Settings} {cs : List Candidate} : HoldsTests m manner q s cs →
    RefusesCount m manner s cs → ListEscapes m manner q
  | spec {s : Settings} {text : String} {root : Mapping} : ReadsText m manner q s text →
    load text = .ok (.map root.line root.entries) → root.TestsStuck → ListEscapes m manner q

section List

variable (hread : Invocation.read ⟨m.surroundings.tree, m.surroundings.cwd⟩ args =
  .ok (.run manner (.list q)))
include hread

lemma shown_of_listCourse {y : Shown} (hs : (loaded m manner bare).value = .ok s)
    (h : listCourse m manner q s = Logged.pure y) : (run m args).shown = y := by
  rw [shown_list hread, hs]
  dsimp only
  rw [h, shown_of_pure]

lemma shown_of_listFault {f : Settings.LoadFault} (h : (loaded m manner bare).value = .error f) :
    (run m args).shown = (endOfListFault f, []) := by
  rw [shown_list hread, h]

/-- What the run shows once the text of the spec is read. -/
lemma shown_of_readsText {text : String} (h : ReadsText m manner q s text) :
    (run m args).shown =
      if (consoleOpen m manner bare s).setup.Admits (candidatesOf text).records
        then shownTests q (candidatesOfText text)
      else (.error .event, []) := by
  have hcourse : listCourse m manner q s = do return shownTests q (← candidatesOf text) := by
    unfold listCourse
    rw [sinkFault?_eq_none h.log, h.text]
  rw [shown_list hread, h.settings]
  dsimp only
  rw [hcourse]
  simp only [Logged.records_bind, Logged.value_bind, Logged.records_pure, Logged.value_pure,
    List.append_nil, value_candidatesOf]

lemma shown_of_failure {text : String} {e : Failure} (h : ReadsText m manner q s text)
    (he : candidatesOfText text = .error e) : (run m args).shown = shownTests q (.error e) := by
  have hrecords : (candidatesOf text).records = [] := by
    unfold candidatesOf
    rw [he]
    rfl
  rw [shown_of_readsText hread h, he, hrecords, if_pos Setup.admits_nil]

lemma shown_of_holdsTests {cs : List Candidate} (h : HoldsTests m manner q s cs) :
    (run m args).shown =
      if RefusesCount m manner s cs then (.error .event, []) else shownTests q (.ok cs) := by
  obtain ⟨text, htext, hcs⟩ := h
  have hrecords : (candidatesOf text).records = [countRecord cs] := by
    unfold candidatesOf
    rw [hcs]
    rfl
  have hadmits : (consoleOpen m manner bare s).setup.Admits [countRecord cs] ↔
      ¬ RefusesCount m manner s cs := List.forall_mem_singleton
  rw [shown_of_readsText hread htext, hcs, hrecords, if_congr hadmits rfl rfl, ite_not]

lemma shown_of_listEnds (h : ListEnds m manner q x) :
    (run m args).shown = x ∧ ∃ code, x.1 = .ok code := by
  cases h with
  | @settings f hf hreported =>
    refine ⟨?_, 2, rfl⟩
    rw [shown_of_listFault hread hf]
    rcases hreported with hreported | ⟨e, rfl⟩
    · have hdecoded : ∀ e, f ≠ .file (.undecodable e) := by
        rintro e rfl
        exact hreported
      rw [endOfListFault_of_decoded hdecoded, endOfFault_of_reported hreported]
    · rfl
  | log hs hlog hne =>
    obtain ⟨f, rfl, hf⟩ := @exists_sinkFault m manner bare _ _ hlog
    refine ⟨shown_of_listCourse hread hs ?_, 2, rfl⟩
    unfold listCourse
    rw [hf]
    exact congrArg Logged.pure (if_neg hne)
  | unreadable hs hlog he =>
    refine ⟨shown_of_listCourse hread hs ?_, 2, rfl⟩
    unfold listCourse
    rw [sinkFault?_eq_none hlog, he]
  | invalid htext he =>
    refine ⟨?_, 2, rfl⟩
    rcases he with ⟨e, he⟩ | ⟨v, hv⟩
    · rw [shown_of_failure hread htext he]
      rfl
    · rw [shown_of_failure hread htext hv]
      rfl
  | none hcs hadmits hnil =>
    refine ⟨?_, 1, rfl⟩
    rw [shown_of_holdsTests hread hcs, if_neg hadmits, shownTests, hnil]
    rfl
  | printed hcs hadmits hne =>
    refine ⟨?_, 0, rfl⟩
    rw [shown_of_holdsTests hread hcs, if_neg hadmits, shownTests,
      if_neg (by simpa [List.isEmpty_iff] using hne)]

lemma shown_of_listEscapes (hfollowed : Settings.FollowsNothing m.surroundings manner.config)
    (h : ListEscapes m manner q) : ∃ c, (run m args).shown = (.error c, []) := by
  cases h with
  | log hs hlog =>
    obtain ⟨f, hnull, hf⟩ := @exists_sinkFault m manner bare _ _ hlog
    refine ⟨.sink f, shown_of_listCourse hread hs ?_⟩
    unfold listCourse
    rw [hf]
    exact congrArg Logged.pure (if_pos hnull)
  | @settings f h hdecoded =>
    obtain ⟨hf, hnot⟩ := (@unreported_entries_iff m bare _ _ hfollowed).mpr h
    rw [shown_of_listFault hread hf, endOfListFault_of_decoded hdecoded,
      endOfFault_of_not_reported hnot]
    exact ⟨_, rfl⟩
  | event hcs hrefuses =>
    rw [shown_of_holdsTests hread hcs, if_pos hrefuses]
    exact ⟨_, rfl⟩
  | spec htext hload hstuck =>
    rcases candidatesOfText_stuck_iff.mpr ⟨_, hload, hstuck⟩ with he | he
    · rw [shown_of_failure hread htext he]
      exact ⟨_, rfl⟩
    · rw [shown_of_failure hread htext he]
      exact ⟨_, rfl⟩

end List

lemma listEnds_or_escapes (hfollowed : Settings.FollowsNothing m.surroundings manner.config) :
    (∃ x, ListEnds m manner q x) ∨ ListEscapes m manner q := by
  rcases hs : (loaded m manner bare).value with f | s
  · by_cases hreported : f.IsReported ∨ ∃ e, f = .file (.undecodable e)
    · exact Or.inl ⟨_, .settings hs hreported⟩
    · rw [not_or, not_exists] at hreported
      exact Or.inr (.settings ((@unreported_entries_iff m bare _ _ hfollowed).mp
        ⟨hs, hreported.1⟩) hreported.2)
  by_cases hlog : Unopenable m s
  · obtain ⟨e, he⟩ := hlog
    by_cases hnull : e = .null
    · exact Or.inr (.log hs (hnull ▸ he))
    · exact Or.inl ⟨_, .log hs he hnull⟩
  rcases htext : (surroundingsOpen m manner s).tree.textAt m.surroundings.cwd q.file with e | text
  · exact Or.inl ⟨_, .unreadable hs hlog htext⟩
  have h : ReadsText m manner q s text := ⟨hs, hlog, htext⟩
  rcases hcs : candidatesOfText text with e | cs
  · cases e with
    | load e => exact Or.inl ⟨_, .invalid h (Or.inl ⟨e, hcs⟩)⟩
    | violation v => exact Or.inl ⟨_, .invalid h (Or.inr ⟨v, hcs⟩)⟩
    | noText =>
      obtain ⟨root, hload, hstuck⟩ := candidatesOfText_stuck_iff.mp (Or.inl hcs)
      exact Or.inr (.spec h hload hstuck)
    | endless =>
      obtain ⟨root, hload, hstuck⟩ := candidatesOfText_stuck_iff.mp (Or.inr hcs)
      exact Or.inr (.spec h hload hstuck)
  by_cases hrefuses : RefusesCount m manner s cs
  · exact Or.inr (.event ⟨text, h, hcs⟩ hrefuses)
  by_cases hnil : passing q cs = []
  · exact Or.inl ⟨_, .none ⟨text, h, hcs⟩ hrefuses hnil⟩
  · exact Or.inl ⟨_, .printed ⟨text, h, hcs⟩ hrefuses hnil⟩

/-- `list s.yaml` -/
def listWords : List String := ["list", "s.yaml"]

def listRequest : ListRequest := ⟨.ofText "s.yaml", none, none, false, none⟩

lemma read_listWords {level : String} :
    Invocation.read ⟨(levelled level).surroundings.tree, (levelled level).surroundings.cwd⟩
      listWords = .ok (.run plainManner (.list listRequest)) := by
  have hread : Invocation.read ⟨namesLevelled, ⟨.root, []⟩⟩ listWords =
      .ok (.run plainManner (.list listRequest)) := eq_ok_of_toOption (by decide +kernel)
  rw [Invocation.read_of_names (levelled level).surroundings.tree namesLevelled rfl]
  exact hread

/-- The settings of a list, of which all but the log is as it is by default. -/
def listSettings : Settings :=
  ⟨[], [], 8, [], ⟨"INFO", none, none, [("specgrep.selection.plugin", "DEBUG")]⟩⟩

lemma loaded_listSettings :
    (loaded (levelled "DEBUG") plainManner bare).value = .ok listSettings := by
  have hsettings : ((loaded (levelled "DEBUG") plainManner bare).value.toOption.map fun s =>
      ((s.patterns, s.excludes, s.workers), s.logging, s.env.map Prod.fst)) =
        some (([], [], 8), listSettings.logging, []) := by
    decide +kernel
  obtain ⟨⟨patterns, excludes, workers, env, logging⟩, hs, hfields⟩ :=
    Option.map_eq_some_iff.mp hsettings
  simp only [Prod.mk.injEq, List.map_eq_nil_iff] at hfields
  obtain ⟨⟨rfl, rfl, rfl⟩, rfl, rfl⟩ := hfields
  exact eq_ok_of_toOption hs

lemma holdsTests_levelled :
    HoldsTests (levelled "DEBUG") plainManner listRequest listSettings [Prefilter.splitTest] := by
  have htree : (surroundingsOpen (levelled "DEBUG") plainManner listSettings).tree =
      (levelled "DEBUG").surroundings.tree := by
    unfold surroundingsOpen
    rw [(consoleOpen_of_no_file rfl).2]
    exact Console.tree_toldAll rfl
  have htext : (levelled "DEBUG").surroundings.tree.textAt ⟨.root, []⟩ listRequest.file =
      .ok Prefilter.splitSpec := eq_ok_of_toOption (by decide +kernel)
  refine ⟨Prefilter.splitSpec, ⟨loaded_listSettings, ?_, ?_⟩, Prefilter.candidatesOfText_splitSpec⟩
  · rintro ⟨file, e, hfile, -⟩
    cases hfile
  · rw [htree]
    exact htext

lemma not_refusesCount_levelled :
    ¬ RefusesCount (levelled "DEBUG") plainManner listSettings [Prefilter.splitTest] := by
  unfold RefusesCount
  rw [(consoleOpen_of_no_file rfl).2]
  decide

def listLines : List String := ["Spec: s.yaml", "Tests (1/1):", "  - A b [no tags]"]

lemma shown_listWords : (run (levelled "DEBUG") listWords).shown = (.ok 0, listLines) := by
  have hlisting : listing listRequest [Prefilter.splitTest] = listLines := by
    decide +kernel
  rw [shown_of_holdsTests read_listWords holdsTests_levelled, if_neg not_refusesCount_levelled,
    shownTests, if_neg (by decide), hlisting]

lemma shown_selectWords : (run (levelled "DEBUG") selectWords).shown = (.ok 0, ["/s.yaml"]) := by
  rw [shown_of_not_refuses read_selectWords (not_refusesRecord_levelled (by decide)),
    loaded_levelled (by decide)]
  exact course_levelled

/-- The environment is to be JSON and is none. -/
def misset : Machine :=
  { levelled "DEBUG" with
    surroundings := ⟨.dir [("s.yaml", .file (Text.Utf8.encode Prefilter.splitSpec))], ⟨.root, []⟩,
      [("SPECGREP_ENV", "x")]⟩ }

lemma unloadable_misset {given : List (Value × Value)} :
    Settings.Unloadable misset.surroundings none given (.source ⟨"env", .process, .malformed⟩) := by
  have hread : ∀ field form, (Settings.Variables.fieldValue form field
      (Settings.processTable misset.surroundings)).toOption.isSome = true →
        ∀ e : String × Json.Fault, ¬ (field = e.1 ∧ Settings.Variables.Unreadable
          (Settings.processTable misset.surroundings) form field e.2) := by
    rintro field form hsome e ⟨-, h⟩
    rw [Settings.Variables.fieldValue_eq_error_iff.mpr h] at hsome
    cases hsome
  have henv : Settings.Variables.Unreadable (Settings.processTable misset.surroundings)
      .dictionary "env" .malformed :=
    Settings.Variables.fieldValue_eq_error_iff.mp (by rfl)
  have hfirst : Settings.Variables.FirstUnreadable (Settings.processTable misset.surroundings)
      Settings.Variables.fields "env" .malformed :=
    .there (hread _ _ (by decide)) (.there (hread _ _ (by decide))
      (.there (hread _ _ (by decide)) (.here ⟨rfl, henv⟩)))
  exact .vars .unnamed (List.forall_mem_nil _) rfl (.process rfl hfirst)

lemma loaded_misset {r : SelectRequest} :
    (loaded misset plainManner r).value = .error (.source ⟨"env", .process, .malformed⟩) :=
  ((unreported_entries_iff Settings.followsNothing_none).mpr unloadable_misset).1

lemma read_misset :
    Invocation.read ⟨misset.surroundings.tree, misset.surroundings.cwd⟩ selectWords =
        .ok (.run plainManner (.select selectRequest)) ∧
      Invocation.read ⟨misset.surroundings.tree, misset.surroundings.cwd⟩ listWords =
        .ok (.run plainManner (.list listRequest)) := by
  have hselect : Invocation.read ⟨.dir [("s.yaml", .file [])], ⟨.root, []⟩⟩ selectWords =
      .ok (.run plainManner (.select selectRequest)) := eq_ok_of_toOption (by decide +kernel)
  have hlist : Invocation.read ⟨.dir [("s.yaml", .file [])], ⟨.root, []⟩⟩ listWords =
      .ok (.run plainManner (.list listRequest)) := eq_ok_of_toOption (by decide +kernel)
  rw [Invocation.read_of_names misset.surroundings.tree (.dir [("s.yaml", .file [])]) rfl,
    Invocation.read_of_names misset.surroundings.tree (.dir [("s.yaml", .file [])]) rfl]
  exact ⟨hselect, hlist⟩

end Sieve.Command
