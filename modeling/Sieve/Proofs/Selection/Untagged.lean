import Sieve.Proofs.Selection.Required
import Sieve.Proofs.Selection.Safety

/-!
Files of untagged tests.

When untagged tests pass a filter by tags, a selection of files does not know of it: a file counts
only for tests that run without that. Its untagged tests are lost with it once another file counts.
-/

namespace Sieve

open Files Log Spec

/-! ### Untagged tests -/

namespace Filter

variable {f : Filter} {s : Subject} {cs : List Candidate} {c : Candidate}

/-- Only tests without a tag are let run besides, and none that are required. -/
lemma untagged_of_admits (h : f.admits s true = true) (h' : f.admits s false = false) :
    s.tags = [] ∧ s.isRequired = false := by
  have hnot := mt admits_iff.mpr (Bool.eq_false_iff.mp h')
  rw [not_or] at hnot
  obtain ⟨hrequired, hparts⟩ := hnot
  obtain ⟨hnegated, hinverted, hwords, htags⟩ := (admits_iff.mp h).resolve_left hrequired
  refine ⟨?_, by simpa using hrequired⟩
  rcases htags with hempty | htagged | ⟨huntagged, -⟩
  · exact absurd ⟨hnegated, hinverted, hwords, Or.inl hempty⟩ hparts
  · exact absurd ⟨hnegated, hinverted, hwords, Or.inr (Or.inl htagged)⟩ hparts
  · exact huntagged

/-- A filter that says nothing lets every test run. -/
lemma admits_of_isEmpty (h : f.isEmpty = true) {untaggedPass : Bool} :
    f.admits s untaggedPass = true := by
  have hparts : f.title.isEmpty = true ∧ f.tags.isEmpty = true := by
    rcases htitle : f.title.isEmpty with _ | _ <;> rcases htags : f.tags.isEmpty with _ | _ <;>
      simp [isEmpty, kind, htitle, htags] at h ⊢
  obtain ⟨⟨hwords, hnegated⟩, hgroups, hinverted⟩ :
      (f.title.words = [] ∧ f.title.negated = []) ∧ f.tags.groups = [] ∧ f.tags.inverted = [] := by
    simpa [TitleFilter.isEmpty, TagFilter.isEmpty] using hparts
  refine admits_iff.mpr (Or.inr ⟨?_, ?_, Or.inl hwords, Or.inl ⟨hgroups, hinverted⟩⟩)
  · simp [hnegated]
  · simp [hinverted]

lemma select_eq_nil_iff {untaggedPass : Bool} :
    f.select cs untaggedPass = [] ↔ ∀ c ∈ cs, f.admits c.subject untaggedPass = false := by
  simp [select, admitsCandidate]

end Filter

namespace Selection

variable {w : Surroundings} {s : Settings} {o : Options} {f : Prefilter} {t : Tree} {cwd p : Path}
  {found : List Path} {cs : List Candidate}

/-! ### Files that are left out -/

/-- A file that is found is left out if it is not kept while another one is. -/
lemma not_mem_files_iff (hp : p ∈ found) :
    p ∉ (amongFound f t cwd found).files ↔
      f.isActive = true ∧ (f.keeps t cwd p).value ≠ .ok true ∧
        ∃ q ∈ found, (f.keeps t cwd q).value = .ok true := by
  unfold amongFound
  split_ifs with hactive hkept
  · simp [hp, hactive]
  · have hnone := Prefilter.keptOf_eq_nil_iff.mp hkept
    refine iff_of_false (not_not_intro hp) ?_
    rintro ⟨-, -, q, hq, hkeep⟩
    exact hnone q hq hkeep
  · obtain ⟨q, hq⟩ := List.exists_mem_of_ne_nil _ hkept
    obtain ⟨hfound, hkeep⟩ := Prefilter.mem_keptOf_iff.mp hq
    have hon : f.isActive = true := by simpa using hactive
    rw [Prefilter.mem_keptOf_iff]
    constructor
    · intro hout
      exact ⟨hon, fun hin => hout ⟨hp, hin⟩, q, hfound, hkeep⟩
    · rintro ⟨-, hout, -⟩ ⟨-, hin⟩
      exact hout hin

/-- The tests of a spec file. -/
def HoldsTests (w : Surroundings) (p : Path) (cs : List Candidate) : Prop :=
  ∃ text, w.tree.textAt w.cwd p = .ok text ∧ candidatesOfText text = .ok cs

/-- Without a title expression, a file is kept for a test that runs though no untagged test
passes. -/
lemma keeps_of_holdsTests (htitle : nonEmpty o.title = none)
    (hactive : (prefilterOf s o .specs).isActive = true) (hcs : HoldsTests w p cs) :
    ((prefilterOf s o .specs).keeps w.tree w.cwd p).value =
      .ok (!((Filter.ofExpressions none o.tags).select cs false).isEmpty) := by
  obtain ⟨text, htext, hcs⟩ := hcs
  rw [prefilterOf, Prefilter.ofExpressions_untitled htitle] at hactive ⊢
  have hempty : (Filter.ofExpressions none o.tags).isEmpty = false := by
    rwa [Prefilter.isActive, Bool.not_eq_true'] at hactive
  rw [Prefilter.keeps_of_candidates htext hcs, hempty, Bool.false_or]

/-- **Files of untagged tests.** Among spec files a selection by tags succeeds. A file with a test
that runs when untagged tests pass is left out if and only if none of its tests runs when they do
not, and some test of another file does; then all that the file loses are tests without any
tag. -/
theorem untagged_left_out_iff {given : Option Options} (ho : AreOptions s given o)
    (htitle : nonEmpty o.title = none)
    (hfound : (discover w.tree (searchOf s o w.cwd)).value = .ok found)
    (hspecs : ∀ p ∈ found, ∃ cs, HoldsTests w p cs) :
    let f := Filter.ofExpressions none o.tags
    ∃ x, (select w s given .specs).value = .ok x ∧
      ∀ p ∈ found, ∀ cs, HoldsTests w p cs → f.select cs true ≠ [] →
        (p ∉ x.files ↔ f.select cs false = [] ∧
          ∃ q ∈ found, ∃ ds, HoldsTests w q ds ∧ f.select ds false ≠ []) ∧
        (p ∉ x.files → ∀ c ∈ f.select cs true, c.effectiveTags = [] ∧ c.requiredTags = []) := by
  intro f
  have hactive_iff : (prefilterOf s o .specs).isActive = !f.isEmpty := by
    simp [prefilterOf, Prefilter.ofExpressions, Prefilter.isActive, htitle, f]
  have hall : ∀ p ∈ found,
      ∃ b, ((prefilterOf s o .specs).keeps w.tree w.cwd p).value = .ok b := by
    intro p hp
    obtain ⟨cs, hcs⟩ := hspecs p hp
    rcases hactive : (prefilterOf s o .specs).isActive with _ | _
    · exact ⟨true, Prefilter.keeps_of_inactive hactive⟩
    · exact ⟨_, keeps_of_holdsTests htitle hactive hcs⟩
  refine ⟨_, select_eq_ok_iff.mpr ⟨o, ho, selectWith_eq_ok_iff.mpr ⟨found, hfound, hall, rfl⟩⟩, ?_⟩
  intro p hp cs hcs hruns
  have hout : p ∉ (amongFound (prefilterOf s o .specs) w.tree w.cwd found).files ↔
      f.select cs false = [] ∧
        ∃ q ∈ found, ∃ ds, HoldsTests w q ds ∧ f.select ds false ≠ [] := by
    rw [not_mem_files_iff hp]
    rcases hactive : (prefilterOf s o .specs).isActive with _ | _
    · -- Nothing is filtered by, so a test runs whether or not untagged tests pass.
      have hempty : f.isEmpty = true := by simpa [hactive] using hactive_iff
      refine iff_of_false (by simp) ?_
      rintro ⟨hnone, -⟩
      refine hruns (Filter.select_eq_nil_iff.mpr fun c hc => ?_)
      have hc' := Filter.select_eq_nil_iff.mp hnone c hc
      rw [Filter.admits_of_isEmpty hempty] at hc'
      cases hc'
    · have hkeeps : ∀ {q ds}, HoldsTests w q ds →
          (((prefilterOf s o .specs).keeps w.tree w.cwd q).value = .ok true ↔
            f.select ds false ≠ []) := by
        intro q ds hds
        rw [keeps_of_holdsTests htitle hactive hds]
        simp [f]
      rw [Ne, hkeeps hcs, not_not]
      refine (and_iff_right rfl).trans (and_congr_right fun _ => exists_congr fun q =>
        and_congr_right fun hq => ?_)
      constructor
      · intro hkept
        obtain ⟨ds, hds⟩ := hspecs q hq
        exact ⟨ds, hds, (hkeeps hds).mp hkept⟩
      · rintro ⟨ds, hds, hrest⟩
        exact (hkeeps hds).mpr hrest
  refine ⟨hout, fun hlost c hc => ?_⟩
  obtain ⟨hnone, -⟩ := hout.mp hlost
  obtain ⟨hmem, hruns'⟩ := List.mem_filter.mp hc
  obtain ⟨htags, hrequired⟩ :=
    Filter.untagged_of_admits hruns' (Filter.select_eq_nil_iff.mp hnone c hmem)
  exact ⟨htags, by simpa [Candidate.subject] using hrequired⟩

/-! ### An untagged test beside a tagged one -/

/-- A test with the tag `t`. -/
def taggedSpec : String := "suite: A\ntags: t\ntests: [{name: b}]\n"

def taggedRoot : Mapping :=
  ⟨some 1, [(.str "suite", .str "A"), (.str "tags", .str "t"),
    (.str "tests", .seq (some 3) [.map (some 3) [(.str "name", .str "b")]])]⟩

def taggedTest : Candidate := .make "A b" [] ["t"] []

lemma load_taggedSpec : load taggedSpec = .ok (.map taggedRoot.line taggedRoot.entries) :=
  load_of_agrees (by decide +kernel)

lemma candidatesOfText_taggedSpec : candidatesOfText taggedSpec = .ok [taggedTest] := by
  have htags : TagsAre taggedRoot.entries "tags" ["t"] :=
    Or.inr (Or.inl ⟨"t", "t", rfl, ⟨"t", rfl, by decide, by decide⟩, rfl⟩)
  have hname : NameIs taggedRoot.entries "suite" "A" := ⟨"A", rfl, by decide, by decide⟩
  have hbase : taggedRoot.HasBase := ⟨fun _ => ⟨_, hname⟩, ⟨_, htags⟩, isTagged_of_none rfl⟩
  have htests : testsOf taggedRoot.entries =
      .listed (some 3) [.map (some 3) [(.str "name", .str "b")]] := rfl
  refine candidatesOfText_eq_ok_iff.mpr ⟨taggedRoot, load_taggedSpec, ?_, ?_⟩
  · exact hasTests_of_single hbase htests rfl (isTagged_of_none rfl) (isTagged_of_none rfl)
      ⟨_, Prefilter.nameIs_splitEntries⟩
  · rw [tests_of_single htests rfl]
    decide

def taggedAndUntagged : Surroundings :=
  ⟨.dir [("a", .file (Text.Utf8.encode taggedSpec)),
    ("b", .file (Text.Utf8.encode Prefilter.splitSpec))], ⟨.root, []⟩, []⟩

def everyFile : Settings := ⟨["*"], [], 8, [], .default⟩

def untaggedOptions : Options := { Options.none with tags := some "t", untagged := true }

lemma discover_taggedAndUntagged :
    (discover taggedAndUntagged.tree
      (searchOf everyFile untaggedOptions taggedAndUntagged.cwd)).value = .ok [pathA, pathB] := by
  have hexcludes :
      (searchOf everyFile untaggedOptions taggedAndUntagged.cwd).excluded? = .ok [] := rfl
  have hnamed : (searchOf everyFile untaggedOptions taggedAndUntagged.cwd).named
      taggedAndUntagged.tree = [pathA, pathB] := by
    decide +kernel
  rw [discover_eq_ok_iff (by decide) hexcludes]
  refine ⟨by unfold IsAscending; decide +kernel, fun p => ?_⟩
  rw [hnamed, Search.isExcluded_nil]
  simp

lemma holdsTests_pathA : HoldsTests taggedAndUntagged pathA [taggedTest] :=
  ⟨taggedSpec, eq_ok_of_toOption (by decide +kernel), candidatesOfText_taggedSpec⟩

lemma holdsTests_pathB : HoldsTests taggedAndUntagged pathB [Prefilter.splitTest] :=
  ⟨Prefilter.splitSpec, eq_ok_of_toOption (by decide +kernel), Prefilter.candidatesOfText_splitSpec⟩

lemma holdsTests_taggedAndUntagged :
    ∀ p ∈ [pathA, pathB], ∃ cs, HoldsTests taggedAndUntagged p cs := by
  simp only [List.forall_mem_cons]
  exact ⟨⟨_, holdsTests_pathA⟩, ⟨_, holdsTests_pathB⟩, by simp⟩

/-- The file of the tagged test stays, the other one goes. -/
theorem only_tagged_stays :
    ∃ x, (select taggedAndUntagged everyFile (some untaggedOptions) .specs).value = .ok x ∧
      pathA ∈ x.files ∧ pathB ∉ x.files := by
  obtain ⟨x, hx, hfiles⟩ := untagged_left_out_iff (w := taggedAndUntagged) (s := everyFile)
    (Or.inl rfl) rfl discover_taggedAndUntagged holdsTests_taggedAndUntagged
  obtain ⟨hA, -⟩ := hfiles pathA (by simp) _ holdsTests_pathA (by decide)
  obtain ⟨hB, -⟩ := hfiles pathB (by simp) _ holdsTests_pathB (by decide)
  refine ⟨x, hx, not_not.mp fun hlost => ?_, hB.mpr ⟨by decide, pathA, by simp, ?_⟩⟩
  · exact absurd (hA.mp hlost).1 (by decide)
  · exact ⟨_, holdsTests_pathA, by decide⟩

/-- A file whose test runs when untagged tests pass, as asked for, is left out. -/
theorem untagged_is_left_out :
    untaggedOptions.untagged = true ∧ nonEmpty untaggedOptions.title = none ∧
    (discover taggedAndUntagged.tree
      (searchOf everyFile untaggedOptions taggedAndUntagged.cwd)).value = .ok [pathA, pathB] ∧
    HoldsTests taggedAndUntagged pathA [taggedTest] ∧
    HoldsTests taggedAndUntagged pathB [Prefilter.splitTest] ∧
    Prefilter.splitTest ∈ (Filter.ofExpressions none untaggedOptions.tags).select
      [Prefilter.splitTest] untaggedOptions.untagged ∧
    ∃ x, (select taggedAndUntagged everyFile (some untaggedOptions) .specs).value = .ok x ∧
      pathB ∉ x.files := by
  refine ⟨rfl, rfl, discover_taggedAndUntagged, holdsTests_pathA, holdsTests_pathB, by decide, ?_⟩
  have hkeeps : ∀ p cs, HoldsTests taggedAndUntagged p cs →
      ((prefilterOf everyFile untaggedOptions .specs).keeps taggedAndUntagged.tree
        taggedAndUntagged.cwd p).value =
          .ok (!((Filter.ofExpressions none (some "t")).select cs false).isEmpty) :=
    fun p cs hcs => keeps_of_holdsTests rfl (by decide) hcs
  have hA := hkeeps _ _ holdsTests_pathA
  have hB := hkeeps _ _ holdsTests_pathB
  refine ⟨_, select_eq_ok_iff.mpr ⟨untaggedOptions, Or.inl rfl, selectWith_eq_ok_iff.mpr
    ⟨_, discover_taggedAndUntagged, ?_, rfl⟩⟩, ?_⟩
  · simp only [List.forall_mem_cons]
    exact ⟨⟨_, hA⟩, ⟨_, hB⟩, by simp⟩
  · refine (not_mem_files_iff (by simp)).mpr ⟨by decide, ?_, pathA, by simp, ?_⟩
    · rw [hB]
      decide
    · rw [hA]
      decide

end Selection

end Sieve
