import Sieve.Proofs.Filter.Decision
import Sieve.Proofs.Selection.Keeping

/-!
Files by the names in them.

A test is judged by its whole title, its file by each name alone. The file of a test that runs is
kept if a word of the expression is in one of the names, but it is lost if the words that are in
the title only run over the spaces between the names. It is kept or lost alike whatever the tags.
-/

namespace Sieve.Selection.Prefilter

open Files Spec

variable {g : String} {tags : Option String} {workers : Int} {t : Tree} {cwd p : Path}
  {text : String}

/-- The expression spells a word to look for or to exclude. -/
def SpellsWord (g : String) : Prop :=
  ∃ w, TitleWord (some g) w ∨ NegatedWord (some g) w

/-- A name alone lets its file pass. -/
def NamePasses (g name : String) : Prop :=
  (∀ w, NegatedWord (some g) w → ¬ Mentions w name) ∧
  ((∀ w, ¬ TitleWord (some g) w) ∨ ∃ w, TitleWord (some g) w ∧ Mentions w name)

lemma ofExpressions_of_ne (hg : g ≠ "") (ex : Extractors) :
    ofExpressions (some g) tags ex workers =
      ⟨Filter.ofExpressions (some g) none, true, ex, (max 1 workers).toNat⟩ := by
  have hne : nonEmpty (some g) = some g := by
    simp [nonEmpty, Option.filter, hg]
  simp [ofExpressions, hne]

lemma isActive_eq_false_iff (hg : g ≠ "") :
    (ofExpressions (some g) tags .specs workers).isActive = false ↔ ¬ SpellsWord g := by
  have hempty : ∀ f : TitleFilter, (Filter.mk f .none).isEmpty = f.isEmpty := by
    intro f
    unfold Filter.isEmpty Filter.kind
    rcases f.isEmpty with _ | _ <;> rfl
  have htitle : (Filter.ofExpressions (some g) none).isEmpty =
      (Filter.ofExpressions (some g) none).title.isEmpty := hempty _
  rw [← Bool.not_eq_true, not_iff_not, ofExpressions_of_ne hg, isActive, htitle, SpellsWord,
    exists_or]
  simp only [← mem_words_iff (x := none), ← mem_negated_iff (x := none), ← ne_nil_iff_exists_mem]
  simp [TitleFilter.isEmpty]

lemma admitsName_iff (hg : g ≠ "") {name : String} :
    (ofExpressions (some g) tags .specs workers).admitsName name = true ↔ NamePasses g name := by
  have htags : (Filter.ofExpressions (some g) none).tags.Admits [] false := Or.inl ⟨rfl, rfl⟩
  rw [ofExpressions_of_ne hg, admitsName, Filter.admits_iff, forall_negated_iff, exists_word_iff]
  simp [NamePasses, htags]

lemma verdict_of_ne (hg : g ≠ "") :
    (ofExpressions (some g) tags .specs workers).verdict text =
      (namesOfText text).map fun ns =>
        ns.all.any (ofExpressions (some g) tags .specs workers).admitsName := by
  rw [ofExpressions_of_ne hg, verdict]
  rfl

/-- By names that can be read, a file is kept if one of them passes. -/
lemma keeps_of_names (hg : g ≠ "") (htext : t.textAt cwd p = .ok text) {ns : Names}
    (hns : namesOfText text = .ok ns) :
    ((ofExpressions (some g) tags .specs workers).keeps t cwd p).value = .ok true ↔
      ¬ SpellsWord g ∨ ∃ name ∈ ns.all, NamePasses g name := by
  rw [keeps_eq_true_iff rfl htext, verdict_of_ne hg, hns, isActive_eq_false_iff hg]
  simp [settled, Except.map, admitsName_iff hg]

/-! ### Tests that run -/

/-- What is known of a test that runs without a required tag: its title is joined from names of
the document, none of which a negated word is in. -/
lemma path_of_runs {untaggedPass : Bool} {root : Mapping} {c : Candidate}
    (hc : c ∈
      (Filter.ofExpressions (some g) tags).select (root.tests.map (·.candidate)) untaggedPass)
    (hreq : c.requiredTags = []) :
    NamePasses g c.title ∧ ∃ path, path ≠ [] ∧ c.title = " ".intercalate path ∧
      ∀ name ∈ path, name ∈ root.allNames.all := by
  obtain ⟨hmem, hruns⟩ := List.mem_filter.mp hc
  obtain ⟨t, ht, rfl⟩ := List.mem_map.mp hmem
  obtain ⟨y, hy, m, hm, hsuite, rfl⟩ := mem_tests_iff.mp ht
  rw [Filter.admitsCandidate, Filter.admits_iff, forall_negated_iff, exists_word_iff] at hruns
  have hnone : (testAt root.base y m).candidate.subject.isRequired = false := by
    simp [Candidate.subject, hreq]
  rw [hnone] at hruns
  obtain ⟨hnegated, -, hwords, -⟩ := hruns.resolve_left Bool.false_ne_true
  refine ⟨⟨hnegated, hwords⟩, y.path root m, by simp [Item.path], title_testAt y m, ?_⟩
  exact fun name hname => mem_allNames_of_mem_path hy hm hsuite hname

/-- **The file of a test that runs** without a required tag is kept if and only if there is nothing
to filter by, or the names can be read and no word is asked for or some word is in a name that no
negated word is in. So it is kept where a word without a space is in the title of the test, unless
the document is a part of itself. -/
theorem keeps_of_runs_iff (hg : g ≠ "") (htext : t.textAt cwd p = .ok text)
    {cs : List Candidate} (hcs : candidatesOfText text = .ok cs) {c : Candidate}
    {untaggedPass : Bool} (hc : c ∈ (Filter.ofExpressions (some g) tags).select cs untaggedPass)
    (hreq : c.requiredTags = []) :
    (((ofExpressions (some g) tags .specs workers).keeps t cwd p).value = .ok true ↔
      ¬ SpellsWord g ∨ ∃ ns, namesOfText text = .ok ns ∧
        ((∀ w, ¬ TitleWord (some g) w) ∨ ∃ w, TitleWord (some g) w ∧ ∃ name ∈ ns.all,
          Mentions w name ∧ ∀ v, NegatedWord (some g) v → ¬ Mentions v name)) ∧
    ((∀ root : Mapping, load text = .ok (.map root.line root.entries) → ¬ root.Has .whole) →
      (∃ w, TitleWord (some g) w ∧ ' ' ∉ w.toList ∧ Mentions w c.title) →
      ((ofExpressions (some g) tags .specs workers).keeps t cwd p).value = .ok true) := by
  obtain ⟨root, hload, htests, rfl⟩ := candidatesOfText_eq_ok_iff.mp hcs
  obtain ⟨⟨hnegated, -⟩, path, hne, htitle, hpath⟩ := path_of_runs hc hreq
  have hnamesOf : namesOfText text = names (.map root.line root.entries) := by
    simp [namesOfText, extract, hload]
  -- What is in a name of the path is in the title too.
  have hclean : ∀ name ∈ path, ∀ v, NegatedWord (some g) v → ¬ Mentions v name := by
    intro name hname v hv hm
    exact hnegated v hv (htitle ▸ mentions_join_of_mem hname hm)
  have hns : namesOfText text = .ok root.allNames := hnamesOf.trans (names_of_hasTests htests)
  rw [keeps_of_names hg htext hns]
  constructor
  · refine or_congr_right ?_
    constructor
    · rintro ⟨name, hname, hneg, hwords | ⟨w, hw, hm⟩⟩
      · exact ⟨_, hns, Or.inl hwords⟩
      · exact ⟨_, hns, Or.inr ⟨w, hw, name, hname, hm, hneg⟩⟩
    · rintro ⟨ns, hns', hwords | ⟨w, hw, name, hname, hm, hneg⟩⟩
      · obtain ⟨name, hname⟩ := List.exists_mem_of_ne_nil path hne
        exact ⟨name, hpath name hname, hclean name hname, Or.inl hwords⟩
      · rw [hns] at hns'
        cases hns'
        exact ⟨name, hname, hneg, Or.inr ⟨w, hw, hm⟩⟩
  · rintro - ⟨w, hw, hspace, hm⟩
    rw [htitle, mentions_join_iff hspace hne] at hm
    obtain ⟨name, hname, hm⟩ := hm
    exact Or.inr ⟨name, hpath name hname, hclean name hname, Or.inr ⟨w, hw, hm⟩⟩

/-! ### A test that is lost -/

/-- A test whose title has a word over the space between two names. -/
def splitSpec : String := "suite: A\ntests: [{name: b}]\n"

def splitTree : Tree := .dir [("s.yaml", .file (Text.Utf8.encode splitSpec))]

def splitPath : Path := ⟨.root, ["s.yaml"]⟩

def splitRoot : Mapping :=
  ⟨some 1, [(.str "suite", .str "A"),
    (.str "tests", .seq (some 2) [.map (some 2) [(.str "name", .str "b")]])]⟩

def splitTest : Candidate := .make "A b" [] [] []

lemma textAt_splitTree : splitTree.textAt ⟨.root, []⟩ splitPath = .ok splitSpec :=
  eq_ok_of_toOption (by decide +kernel)

lemma load_splitSpec : load splitSpec = .ok (.map splitRoot.line splitRoot.entries) :=
  load_of_agrees (by decide +kernel)

lemma testsOf_splitRoot :
    testsOf splitRoot.entries = .listed (some 2) [.map (some 2) [(.str "name", .str "b")]] := rfl

lemma nameIs_splitRoot : NameIs splitRoot.entries "suite" "A" :=
  ⟨"A", rfl, by decide, by decide⟩

lemma nameIs_splitEntries : NameIs [(.str "name", .str "b")] "name" "b" :=
  ⟨"b", rfl, by decide, by decide⟩

lemma candidatesOfText_splitSpec : candidatesOfText splitSpec = .ok [splitTest] := by
  have hbase : splitRoot.HasBase :=
    ⟨fun _ => ⟨_, nameIs_splitRoot⟩, isTagged_of_none rfl, isTagged_of_none rfl⟩
  refine candidatesOfText_eq_ok_iff.mpr ⟨splitRoot, load_splitSpec, ?_, ?_⟩
  · exact hasTests_of_single hbase testsOf_splitRoot rfl (isTagged_of_none rfl)
      (isTagged_of_none rfl) ⟨_, nameIs_splitEntries⟩
  · rw [tests_of_single testsOf_splitRoot rfl]
    decide

lemma namesOfText_splitSpec : namesOfText splitSpec = .ok ⟨["A"], ["b"]⟩ := by
  simp only [namesOfText, extract, load_splitSpec]
  exact names_of_single nameIs_splitRoot testsOf_splitRoot rfl nameIs_splitEntries

/-- The test runs, but its file is lost. -/
theorem lost_over_a_space :
    splitTree.textAt ⟨.root, []⟩ splitPath = .ok splitSpec ∧
    candidatesOfText splitSpec = .ok [splitTest] ∧
    splitTest ∈ (Filter.ofExpressions (some "A b") none).select [splitTest] false ∧
    splitTest.requiredTags = [] ∧
    ((ofExpressions (some "A b") none .specs 8).keeps splitTree ⟨.root, []⟩ splitPath).value =
      .ok false := by
  refine ⟨textAt_splitTree, candidatesOfText_splitSpec, ?_, rfl, ?_⟩
  · decide
  · rw [keeps_of_text rfl (by decide) textAt_splitTree, verdict_of_ne (by decide),
      namesOfText_splitSpec]
    decide

/-- With a word of a single name the file is kept. -/
theorem kept_for_a_name :
    ((ofExpressions (some "b") none .specs 8).keeps splitTree ⟨.root, []⟩ splitPath).value =
      .ok true := by
  have hword : TitleWord (some "b") "b" := (mem_words_iff (x := none)).mp (by decide)
  have hnegated : ∀ v, ¬ NegatedWord (some "b") v := by
    intro v hv
    rw [← mem_negated_iff (x := none)] at hv
    have hnil : (Filter.ofExpressions (some "b") none).title.negated = [] := by decide
    rw [hnil] at hv
    cases hv
  have hc : splitTest ∈ (Filter.ofExpressions (some "b") none).select [splitTest] false := by
    decide
  refine (keeps_of_runs_iff (by decide) textAt_splitTree candidatesOfText_splitSpec hc rfl).1.mpr ?_
  refine Or.inr ⟨_, namesOfText_splitSpec, Or.inr ⟨"b", hword, "b", by simp [Names.all], ?_, ?_⟩⟩
  · exact List.infix_rfl
  · exact fun v hv => absurd hv (hnegated v)

end Sieve.Selection.Prefilter
