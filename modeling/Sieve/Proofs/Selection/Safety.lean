import Sieve.Proofs.Files.Discovery
import Sieve.Proofs.Log.Logged
import Sieve.Proofs.Selection.Keeping
import Sieve.Selection.Narrowing

/-!
What a selection may leave out.

The files that are found are gone through once, so those that stay keep their order, and none is
lost that the prefilter keeps. If none is left, all stay. Settings are narrowed only to files that
the prefilter keeps, and there is one of them at least.
-/

namespace Sieve.Selection

open Files Log

variable {w : Surroundings} {s s' : Settings} {o : Options} {ex : Extractors} {f : Prefilter}
  {t : Tree} {cwd : Path} {found ps : List Path} {given : Option Options} {x : Selection}

/-! ### Files that are kept -/

namespace Prefilter

/-- The files that the prefilter keeps, in their order. -/
def keptOf (f : Prefilter) (t : Tree) (cwd : Path) (found : List Path) : List Path :=
  found.filter fun p => (f.keeps t cwd p).value = .ok true

lemma mem_keptOf_iff {p : Path} :
    p ∈ f.keptOf t cwd found ↔ p ∈ found ∧ (f.keeps t cwd p).value = .ok true := by
  simp [keptOf]

lemma keptOf_eq_nil_iff :
    f.keptOf t cwd found = [] ↔ ∀ p ∈ found, (f.keeps t cwd p).value ≠ .ok true := by
  simp [keptOf]

lemma kept_eq_ok_iff {l : List Finding} :
    kept l = .ok ps ↔
      (∀ x ∈ l, ∃ b, x.2.value = .ok b) ∧
        ps = (l.filter fun x => x.2.value = .ok true).map Prod.fst := by
  induction l generalizing ps with
  | nil => simp [kept, eq_comm]
  | cons x l ih =>
    obtain ⟨p, x⟩ := x
    change Except.bind x.value (fun keep => Except.bind (kept l) fun rest =>
      .ok (if keep then p :: rest else rest)) = .ok ps ↔ _
    simp only [bind_eq_ok_iff, ih, List.forall_mem_cons, List.filter_cons]
    rcases x.value with e | keep
    · simp
    · rcases keep with _ | _ <;> simp [eq_comm]

/-- A run that goes through all files. -/
theorem run_eq_ok_iff :
    (f.run t cwd found).value = .ok ps ↔
      (∀ p ∈ found, ∃ b, (f.keeps t cwd p).value = .ok b) ∧ ps = f.keptOf t cwd found := by
  change kept _ = _ ↔ _
  rw [kept_eq_ok_iff, keptOf, List.filter_map, List.map_map]
  simp [Function.comp_def]

end Prefilter

/-! ### Selections -/

/-- The filter of two expressions: the title alone counts unless it is empty. -/
def effective (o : Options) : Filter :=
  match nonEmpty o.title with
  | some t => .ofExpressions (some t) none
  | none => .ofExpressions none o.tags

lemma isActive_prefilterOf : (prefilterOf s o ex).isActive = !(effective o).isEmpty := rfl

/-- A selection among the files that are found: what it leaves out the prefilter does not keep,
it is empty only if nothing is found, and it tells how it came about. -/
structure IsAmong (f : Prefilter) (t : Tree) (cwd : Path) (found : List Path) (x : Selection) :
    Prop where
  sublist : x.files.Sublist found
  keeps : ∀ p ∈ found, (f.keeps t cwd p).value = .ok true → p ∈ x.files
  nonempty : x.files = [] → found = []
  discovered : x.discovered = found.length
  filtered : x.isFiltered = f.isActive
  fallback : x.isFallback = true ↔
    x.isFiltered = true ∧ ∀ p ∈ found, (f.keeps t cwd p).value ≠ .ok true
  all : x.isFallback = true → x.files = found

section Discover

variable {search : Search}

/-- A search without null characters ends as its run does. -/
lemma value_discover_of_free (hfree : search.IsFreeOfNulls) :
    (discover t search).value = ((search.run t).map Discovery.files).mapError .exclude := by
  unfold discover
  rw [hfree.untilNull_eq, hfree.folder]
  simp only [Bool.false_eq_true, if_false, Logged.value_bind, ne_eq, not_true]
  rcases search.run t with e | d
  · rfl
  · simp [Logged.value_bind, Except.map, Except.mapError]

/-- A search that does not fail has come to the end of its patterns. -/
lemma isFreeOfNulls_of_discover (h : (discover t search).value = .ok found) :
    search.IsFreeOfNulls := by
  unfold discover at h
  by_cases hfolder : search.folder.holdsNull = true
  · rw [if_pos hfolder] at h
    cases h
  · rw [if_neg hfolder] at h
    simp only [Logged.value_bind] at h
    by_cases hexcludes : search.untilNull.excludes = search.excludes
    · rw [if_neg (not_not.mpr hexcludes)] at h
      rcases hrun : search.untilNull.run t with e | d
      · rw [hrun] at h
        cases h
      · simp only [hrun, Logged.value_bind] at h
        by_cases hpatterns : search.untilNull.patterns = search.patterns
        · exact Search.isFreeOfNulls_iff.mpr ⟨by simpa using hfolder, hexcludes, hpatterns⟩
        · rw [if_pos hpatterns] at h
          cases h
    · rw [if_pos hexcludes] at h
      cases h

/-- **Files are found** by a search that meets no null character. -/
theorem value_discover_eq_ok_iff : (discover t search).value = .ok found ↔
    search.IsFreeOfNulls ∧ (search.run t).map Discovery.files = .ok found := by
  constructor
  · intro h
    have hfree := isFreeOfNulls_of_discover h
    rw [value_discover_of_free hfree, mapError_eq_ok_iff] at h
    exact ⟨hfree, h⟩
  · rintro ⟨hfree, h⟩
    rw [value_discover_of_free hfree, mapError_eq_ok_iff]
    exact h

/-- A search fails by a null character, or by a pattern of what is left out. -/
lemma exists_discover_eq_error_iff : (∃ e, (discover t search).value = .error e) ↔
    ¬ search.IsFreeOfNulls ∨ ∃ e, search.run t = .error e := by
  rcases hfound : (discover t search).value with e | found
  · refine iff_of_true ⟨e, rfl⟩ (or_iff_not_imp_left.mpr fun hfree => ?_)
    rcases hrun : search.run t with e | d
    · exact ⟨e, rfl⟩
    · have hok := value_discover_eq_ok_iff.mpr
        ⟨not_not.mp hfree, congrArg (Except.map Discovery.files) hrun⟩
      rw [hfound] at hok
      cases hok
  · obtain ⟨hfree, hrun⟩ := value_discover_eq_ok_iff.mp hfound
    obtain ⟨d, hd, -⟩ := map_eq_ok_iff.mp hrun
    refine iff_of_false (by simp) ?_
    rintro (hnulls | ⟨e, he⟩)
    · exact hnulls hfree
    · rw [hd] at he
      cases he

/-- The files that are found are those named and not left out. -/
lemma discover_eq_ok_iff {excludes : List Exclude} (hfree : search.IsFreeOfNulls)
    (h : search.excluded? = .ok excludes) :
    (discover t search).value = .ok found ↔ IsAscending found ∧ ∀ p, p ∈ found ↔
      p ∈ search.named t ∧ Search.isExcluded search.folder excludes p = false := by
  rw [value_discover_eq_ok_iff, and_iff_right hfree, Search.files_eq_iff h]

end Discover

lemma value_narrow : (narrow w o f found).value =
    match (f.run w.tree w.cwd found).value with
    | .error e => .error (.look e)
    | .ok kept =>
      .ok (if kept = [] then ⟨found, found.length, true, true⟩
        else ⟨kept, found.length, true, false⟩) := by
  unfold narrow
  simp only [Logged.value_bind]
  rcases (f.run w.tree w.cwd found).value with e | kept
  · rfl
  · rcases kept with _ | ⟨p, kept⟩ <;> rfl

lemma value_selectWith : (selectWith w s o ex).value =
    match (discover w.tree (searchOf s o w.cwd)).value with
    | .error e => .error (.search e)
    | .ok found =>
      if (prefilterOf s o ex).isActive then (narrow w o (prefilterOf s o ex) found).value
      else .ok ⟨found, found.length, false, false⟩ := by
  unfold selectWith
  simp only [Logged.value_bind]
  rcases (discover w.tree (searchOf s o w.cwd)).value with e | found
  · rfl
  · dsimp only [Logged.value_bind]
    rcases (prefilterOf s o ex).isActive <;> rfl

/-- The selection among files that are found, if the prefilter fails on none of them. -/
def amongFound (f : Prefilter) (t : Tree) (cwd : Path) (found : List Path) : Selection :=
  if f.isActive = false then ⟨found, found.length, false, false⟩
  else if f.keptOf t cwd found = [] then ⟨found, found.length, true, true⟩
  else ⟨f.keptOf t cwd found, found.length, true, false⟩

/-- **A selection** is made among the files that are found. -/
theorem selectWith_eq_ok_iff :
    (selectWith w s o ex).value = .ok x ↔
      ∃ found, (discover w.tree (searchOf s o w.cwd)).value = .ok found ∧
        (∀ p ∈ found, ∃ b, ((prefilterOf s o ex).keeps w.tree w.cwd p).value = .ok b) ∧
        x = amongFound (prefilterOf s o ex) w.tree w.cwd found := by
  rw [value_selectWith]
  rcases (discover w.tree (searchOf s o w.cwd)).value with e | found
  · simp
  simp only [Except.ok.injEq, exists_eq_left']
  unfold amongFound
  by_cases hactive : (prefilterOf s o ex).isActive = true
  · rw [if_pos hactive, if_neg (by simp [hactive]), value_narrow]
    rcases hrun : ((prefilterOf s o ex).run w.tree w.cwd found).value with e | kept
    · refine iff_of_false (by simp) fun h => ?_
      rw [Prefilter.run_eq_ok_iff.mpr ⟨h.1, rfl⟩] at hrun
      cases hrun
    · obtain ⟨hall, rfl⟩ := Prefilter.run_eq_ok_iff.mp hrun
      simp only [Except.ok.injEq]
      exact ⟨fun h => ⟨hall, h.symm⟩, fun h => h.2.symm⟩
  · rw [if_neg hactive, if_pos (Bool.eq_false_iff.mpr hactive), Except.ok.injEq]
    have hall : ∀ p ∈ found,
        ∃ b, ((prefilterOf s o ex).keeps w.tree w.cwd p).value = .ok b := fun p _ =>
      ⟨true, Prefilter.keeps_of_inactive (Bool.eq_false_iff.mpr hactive)⟩
    exact ⟨fun h => ⟨hall, h.symm⟩, fun h => h.2.symm⟩

/-- A selection that filtered and did not fall back holds the files that are kept. -/
lemma files_amongFound (hfiltered : (amongFound f t cwd found).isFiltered = true)
    (hfallback : (amongFound f t cwd found).isFallback = false) :
    f.isActive = true ∧ (amongFound f t cwd found).files = f.keptOf t cwd found ∧
      f.keptOf t cwd found ≠ [] := by
  unfold amongFound at hfiltered hfallback ⊢
  split_ifs at hfiltered hfallback ⊢ with hactive hkept
  exact ⟨by simpa using hactive, rfl, hkept⟩

theorem isAmong_amongFound : IsAmong f t cwd found (amongFound f t cwd found) := by
  unfold amongFound
  split_ifs with hactive hkept
  · exact ⟨List.Sublist.refl _, fun p hp _ => hp, id, rfl, hactive.symm, by simp, by simp⟩
  · have hon : true = f.isActive := (Bool.not_eq_false f.isActive ▸ hactive).symm
    exact ⟨List.Sublist.refl _, fun p hp _ => hp, id, rfl, hon,
      by simpa using Prefilter.keptOf_eq_nil_iff.mp hkept, fun _ => rfl⟩
  · have hon : true = f.isActive := (Bool.not_eq_false f.isActive ▸ hactive).symm
    exact ⟨List.filter_sublist, fun p hp hk => Prefilter.mem_keptOf_iff.mpr ⟨hp, hk⟩,
      fun hnil => absurd hnil hkept, rfl, hon,
      by simpa using mt Prefilter.keptOf_eq_nil_iff.mpr hkept, by simp⟩

/-- All files stay if the prefilter keeps each of them, or none. -/
lemma files_amongFound_eq_iff :
    (amongFound f t cwd found).files = found ↔
      (∀ p ∈ found, (f.keeps t cwd p).value = .ok true) ∨
        ∀ p ∈ found, (f.keeps t cwd p).value ≠ .ok true := by
  unfold amongFound
  split_ifs with hactive hkept
  · exact iff_of_true rfl (Or.inl fun p _ => Prefilter.keeps_of_inactive hactive)
  · exact iff_of_true rfl (Or.inr (Prefilter.keptOf_eq_nil_iff.mp hkept))
  · rw [← Prefilter.keptOf_eq_nil_iff, or_iff_left hkept]
    simp [Prefilter.keptOf, List.filter_eq_self]

/-- The options of a selection: those given, or those of the settings. -/
def AreOptions (s : Settings) (given : Option Options) (o : Options) : Prop :=
  given = some o ∨ given = none ∧ s.options = .ok o

lemma select_eq_ok_iff :
    (select w s given ex).value = .ok x ↔
      ∃ o, AreOptions s given o ∧ (selectWith w s o ex).value = .ok x := by
  unfold select AreOptions
  simp only [Logged.value_bind]
  rcases given with _ | o
  · rcases hoptions : s.options with e | o <;> simp
  · simp

lemma value_select_some : (select w s (some o) ex).value = (selectWith w s o ex).value := rfl

/-! ### Settings that are narrowed -/

lemma narrowed?_eq_some_iff :
    narrowed? s x = some s' ↔ x.isFiltered = true ∧ x.isFallback = false ∧
      s' = { s with patterns := x.files.map (·.text) } := by
  unfold narrowed?
  rcases x.isFiltered with _ | _ <;> rcases x.isFallback with _ | _ <;> simp [eq_comm]

lemma selectIfAsked_eq_some_iff :
    (selectIfAsked w s ex).value = .ok (some x) ↔
      ∃ o, s.options = .ok o ∧ o.filterSpecs = true ∧
        (select w s (some o) ex).value = .ok x := by
  unfold selectIfAsked
  rcases s.options with e | o
  · simp
  · rcases hasked : o.filterSpecs with _ | _
    · simp [hasked]
    · simp only [Logged.value_bind, hasked, Bool.not_true, Bool.false_eq_true, if_false,
        Logged.value_pure, Except.ok.injEq, exists_eq_left', true_and]
      rcases (select w s (some o) ex).value with e | y <;> simp [Except.map, Except.mapError]

/-- **Settings are narrowed** for a selection that is asked for and has filtered. -/
theorem narrowSettings_eq_some_iff {id : String} {c : Correlation} :
    (narrowSettings w s ex id c).1.value = .ok (some s') ↔
      s.env ≠ [] ∧ s.patterns ≠ [] ∧ ∃ o x, s.options = .ok o ∧ o.filterSpecs = true ∧
        (select w s (some o) ex).value = .ok x ∧ x.isFiltered = true ∧ x.isFallback = false ∧
          s' = { s with patterns := x.files.map (·.text) } := by
  unfold narrowSettings
  rw [Ne, Ne, ← List.isEmpty_iff, ← List.isEmpty_iff]
  split_ifs with henv hpatterns
  · simp [henv, Logged.pure]
  · simp [hpatterns, Logged.pure]
  · simp only [Logged.value_map, Correlation.value_within, map_eq_ok_iff, henv, hpatterns,
      Bool.false_eq_true, not_false_eq_true, true_and]
    constructor
    · rintro ⟨found, hfound, hs'⟩
      obtain ⟨x, rfl, hx⟩ := Option.bind_eq_some_iff.mp hs'.symm
      obtain ⟨o, ho, hasked, hselect⟩ := selectIfAsked_eq_some_iff.mp hfound
      exact ⟨o, x, ho, hasked, hselect, narrowed?_eq_some_iff.mp hx⟩
    · rintro ⟨o, x, ho, hasked, hselect, hx⟩
      exact ⟨some x, selectIfAsked_eq_some_iff.mpr ⟨o, ho, hasked, hselect⟩,
        (narrowed?_eq_some_iff.mpr hx).symm⟩

/-- **A selection is safe.** It lists files that were found in their order, all that the prefilter
keeps among them, and some file if any was found. It is filtered if the expression that counts says
something, and falls back to all files if none of them is kept. Settings are narrowed only to a
selection that filtered without falling back; its files are their patterns, one at least, and all
else is as it was. -/
theorem select_safe (w : Surroundings) (s : Settings) (ex : Extractors) :
    (∀ (given : Option Options) (x : Selection), (select w s given ex).value = .ok x →
      ∃ (o : Options) (found : List Path), AreOptions s given o ∧
        (discover w.tree (searchOf s o w.cwd)).value = .ok found ∧
        IsAmong (prefilterOf s o ex) w.tree w.cwd found x ∧
        (x.isFiltered = true ↔ (effective o).isEmpty = false)) ∧
    ∀ (id : String) (c : Correlation) (s' : Settings),
      (narrowSettings w s ex id c).1.value = .ok (some s') →
        ∃ (o : Options) (x : Selection), s.options = .ok o ∧
          (select w s (some o) ex).value = .ok x ∧ x.isFiltered = true ∧ x.isFallback = false ∧
          x.files ≠ [] ∧ s' = { s with patterns := x.files.map (·.text) } := by
  constructor
  · intro given x hx
    obtain ⟨o, ho, hselect⟩ := select_eq_ok_iff.mp hx
    obtain ⟨found, hfound, -, rfl⟩ := selectWith_eq_ok_iff.mp hselect
    refine ⟨o, found, ho, hfound, isAmong_amongFound, ?_⟩
    rw [isAmong_amongFound.filtered, isActive_prefilterOf, Bool.not_eq_true']
  · intro id c s' hs'
    obtain ⟨-, -, o, x, ho, -, hselect, hfiltered, hfallback, rfl⟩ :=
      narrowSettings_eq_some_iff.mp hs'
    obtain ⟨found, -, -, rfl⟩ := selectWith_eq_ok_iff.mp (value_select_some ▸ hselect)
    obtain ⟨-, hfiles, hkept⟩ := files_amongFound hfiltered hfallback
    exact ⟨o, _, ho, hselect, hfiltered, hfallback, by rwa [hfiles], rfl⟩

/-! ### A selection of one file out of two -/

/-- Every text is the name of its only test. -/
def wholeTexts : Extractors := ⟨fun text => .pure (.ok ⟨[], [text]⟩), fun _ => .pure (.ok [])⟩

def twoFiles : Surroundings :=
  ⟨.dir [("a", .file (Text.Utf8.encode "login")), ("b", .file (Text.Utf8.encode "cart"))],
    ⟨.root, []⟩, []⟩

def pathA : Path := ⟨.root, ["a"]⟩

def pathB : Path := ⟨.root, ["b"]⟩

def loginSettings : Settings :=
  ⟨["*"], [], 8, [("grep", .str "log"), ("grepFilterSpecs", .bool true)], .default⟩

def loginOptions : Options := ⟨some "log", none, none, false, false, true, none⟩

lemma options_loginSettings : loginSettings.options = .ok loginOptions :=
  eq_ok_of_toOption (by decide +kernel)

lemma discover_twoFiles :
    (discover twoFiles.tree (searchOf loginSettings loginOptions twoFiles.cwd)).value =
      .ok [pathA, pathB] := by
  have hexcludes : (searchOf loginSettings loginOptions twoFiles.cwd).excluded? = .ok [] := rfl
  rw [discover_eq_ok_iff (by decide) hexcludes]
  have hnamed : (searchOf loginSettings loginOptions twoFiles.cwd).named twoFiles.tree =
      [pathA, pathB] := by
    decide +kernel
  refine ⟨by unfold IsAscending; decide +kernel, fun p => ?_⟩
  rw [hnamed, Search.isExcluded_nil]
  simp

lemma select_twoFiles : (select twoFiles loginSettings (some loginOptions) wholeTexts).value =
    .ok ⟨[pathA], 2, true, false⟩ := by
  have hrun : ((prefilterOf loginSettings loginOptions wholeTexts).run twoFiles.tree twoFiles.cwd
      [pathA, pathB]).value = .ok [pathA] :=
    eq_ok_of_toOption (by decide +kernel)
  rw [value_select_some, value_selectWith, discover_twoFiles]
  dsimp only
  rw [if_pos (by decide), value_narrow, hrun]
  rfl

lemma narrowSettings_twoFiles {id : String} {c : Correlation} :
    (narrowSettings twoFiles loginSettings wholeTexts id c).1.value =
      .ok (some { loginSettings with patterns := ["/a"] }) :=
  narrowSettings_eq_some_iff.mpr ⟨by decide, by decide, loginOptions, _, options_loginSettings,
    rfl, select_twoFiles, rfl, rfl,
    congrArg (fun l => { loginSettings with patterns := l }) (by decide)⟩

/-- The second file is left out, and the settings are narrowed to the first. -/
theorem narrowed_to_the_first_file :
    (∃ found, (discover twoFiles.tree (searchOf loginSettings loginOptions twoFiles.cwd)).value =
        .ok found ∧
      IsAmong (prefilterOf loginSettings loginOptions wholeTexts) twoFiles.tree twoFiles.cwd found
        ⟨[pathA], 2, true, false⟩) ∧
    (narrowSettings twoFiles loginSettings wholeTexts "run" .none).1.value =
      .ok (some { loginSettings with patterns := ["/a"] }) ∧
    ∃ x, (select twoFiles loginSettings (some loginOptions) wholeTexts).value = .ok x ∧
      x.isFallback = false ∧ x.files.map (·.text) = ["/a"] := by
  obtain ⟨hselect, hsettings⟩ := select_safe twoFiles loginSettings wholeTexts
  refine ⟨?_, narrowSettings_twoFiles, ?_⟩
  · obtain ⟨o, found, ho, hfound, hamong, -⟩ := hselect _ _ select_twoFiles
    rcases ho with ho | ⟨ho, -⟩
    · cases ho
      exact ⟨found, hfound, hamong⟩
    · cases ho
  · obtain ⟨o, x, ho, hx, -, hback, -, hs⟩ := hsettings "run" .none _ narrowSettings_twoFiles
    rw [options_loginSettings] at ho
    cases ho
    exact ⟨x, hx, hback, (congrArg Settings.patterns hs).symm⟩

end Sieve.Selection
