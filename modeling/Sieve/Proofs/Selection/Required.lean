import Sieve.Proofs.Selection.ByNames
import Sieve.Proofs.Selection.ByTags

/-!
Files of required tests.

A test with a required tag runs under every filter. By tags its file is kept, since the tags are
looked at together with the required ones. By names it is judged as any other file: whether some
test is required is not looked at, so that a test that always runs may be lost with its file.
-/

namespace Sieve.Selection.Prefilter

open Files Spec

variable {title tags : Option String} {workers : Int} {t : Tree} {cwd p : Path} {text : String}
  {cs : List Candidate} {c : Candidate}

/-- A required test runs under every filter. -/
lemma admitsCandidate_of_required (hreq : c.requiredTags ≠ []) (f : Filter) (untaggedPass : Bool) :
    f.admitsCandidate untaggedPass c = true := by
  have hrequired : c.subject.isRequired = true := by
    simp [Candidate.subject, hreq]
  exact Filter.admits_iff.mpr (Or.inl hrequired)

/-- By tags the file of a required test is kept. -/
lemma keeps_byTags_of_required (hn : nonEmpty title = none) (htext : t.textAt cwd p = .ok text)
    (hcs : candidatesOfText text = .ok cs) (hc : c ∈ cs) (hreq : c.requiredTags ≠ []) :
    ((ofExpressions title tags .specs workers).keeps t cwd p).value = .ok true := by
  have hruns : cs.any ((Filter.ofExpressions none tags).admitsCandidate false) = true :=
    List.any_eq_true.mpr ⟨c, hc, admitsCandidate_of_required hreq _ _⟩
  rw [ofExpressions_untitled hn, keeps_of_candidates htext hcs, Filter.isEmpty_select, hruns,
    Bool.or_true]

/-- By names the file of a test is judged as if nothing were required. -/
lemma keeps_byNames_iff {g : String} (hg : g ≠ "") (htext : t.textAt cwd p = .ok text)
    (hcs : candidatesOfText text = .ok cs) :
    ((ofExpressions (some g) tags .specs workers).keeps t cwd p).value = .ok true ↔
      ¬ SpellsWord g ∨
        ∃ ns, namesOfText text = .ok ns ∧ ∃ name ∈ ns.all, NamePasses g name := by
  obtain ⟨root, hload, htests, -⟩ := candidatesOfText_eq_ok_iff.mp hcs
  have hnamesOf : namesOfText text = names (.map root.line root.entries) := by
    simp [namesOfText, extract, hload]
  have hns : namesOfText text = .ok root.allNames := hnamesOf.trans (names_of_hasTests htests)
  rw [keeps_of_names hg htext hns, hns]
  simp

/-- **The file of a required test.** The test runs under every filter. Without a title expression
its file is kept, whatever tags are asked for. With one it is kept if and only if the expression
spells no word, or the names can be read and one of them passes alone. -/
theorem keeps_of_required_iff (htext : t.textAt cwd p = .ok text)
    (hcs : candidatesOfText text = .ok cs) (hc : c ∈ cs) (hreq : c.requiredTags ≠ []) :
    (∀ (f : Filter) (untaggedPass : Bool), c ∈ f.select cs untaggedPass) ∧
    (((ofExpressions title tags .specs workers).keeps t cwd p).value = .ok true ↔
      ∀ g, nonEmpty title = some g → ¬ SpellsWord g ∨
        ∃ ns, namesOfText text = .ok ns ∧ ∃ name ∈ ns.all, NamePasses g name) := by
  refine ⟨fun f untaggedPass => ?_, ?_⟩
  · exact List.mem_filter.mpr ⟨hc, admitsCandidate_of_required hreq f untaggedPass⟩
  rcases hn : nonEmpty title with _ | g
  · simp [keeps_byTags_of_required hn htext hcs hc hreq]
  · obtain ⟨htitle, hne⟩ := Option.filter_eq_some_iff.mp hn
    have hg : g ≠ "" := by
      rintro rfl
      cases hne
    rw [htitle, keeps_byNames_iff hg htext hcs]
    simp

/-! ### A required test that is lost -/

/-- A test that requires a tag, whose names the expression `x` does not look for. -/
def requiredSpec : String := "suite: A\nrequired_tags: r\ntests: [{name: b}]\n"

def requiredTree : Tree := .dir [("s.yaml", .file (Text.Utf8.encode requiredSpec))]

def requiredRoot : Mapping :=
  ⟨some 1, [(.str "suite", .str "A"), (.str "required_tags", .str "r"),
    (.str "tests", .seq (some 3) [.map (some 3) [(.str "name", .str "b")]])]⟩

def requiredTest : Candidate := .make "A b" [] [] ["r"]

lemma textAt_requiredTree : requiredTree.textAt ⟨.root, []⟩ splitPath = .ok requiredSpec :=
  eq_ok_of_toOption (by decide +kernel)

lemma load_requiredSpec :
    load requiredSpec = .ok (.map requiredRoot.line requiredRoot.entries) :=
  load_of_agrees (by decide +kernel)

lemma testsOf_requiredRoot :
    testsOf requiredRoot.entries = .listed (some 3) [.map (some 3) [(.str "name", .str "b")]] := rfl

lemma nameIs_requiredRoot : NameIs requiredRoot.entries "suite" "A" :=
  ⟨"A", rfl, by decide, by decide⟩

lemma candidatesOfText_requiredSpec : candidatesOfText requiredSpec = .ok [requiredTest] := by
  have hrequired : TagsAre requiredRoot.entries "required_tags" ["r"] :=
    Or.inr (Or.inl ⟨"r", "r", rfl, ⟨"r", rfl, by decide, by decide⟩, rfl⟩)
  have hbase : requiredRoot.HasBase :=
    ⟨fun _ => ⟨_, nameIs_requiredRoot⟩, isTagged_of_none rfl, ⟨_, hrequired⟩⟩
  refine candidatesOfText_eq_ok_iff.mpr ⟨requiredRoot, load_requiredSpec, ?_, ?_⟩
  · exact hasTests_of_single hbase testsOf_requiredRoot rfl (isTagged_of_none rfl)
      (isTagged_of_none rfl) ⟨_, nameIs_splitEntries⟩
  · rw [tests_of_single testsOf_requiredRoot rfl]
    decide

lemma namesOfText_requiredSpec : namesOfText requiredSpec = .ok ⟨["A"], ["b"]⟩ := by
  simp only [namesOfText, extract, load_requiredSpec]
  exact names_of_single nameIs_requiredRoot testsOf_requiredRoot rfl nameIs_splitEntries

/-- The test always runs, but its file is lost. -/
theorem lost_though_required :
    requiredTree.textAt ⟨.root, []⟩ splitPath = .ok requiredSpec ∧
    candidatesOfText requiredSpec = .ok [requiredTest] ∧
    requiredTest.requiredTags ≠ [] ∧
    requiredTest ∈ (Filter.ofExpressions (some "x") none).select [requiredTest] false ∧
    ((ofExpressions (some "x") none .specs 8).keeps requiredTree ⟨.root, []⟩ splitPath).value =
      .ok false := by
  refine ⟨textAt_requiredTree, candidatesOfText_requiredSpec, by decide, ?_, ?_⟩
  · decide
  · rw [keeps_of_text rfl (by decide) textAt_requiredTree, verdict_of_ne (by decide),
      namesOfText_requiredSpec]
    decide

/-- By a tag that the test does not have, its file is kept. -/
theorem kept_for_a_required_tag :
    requiredTest.requiredTags ≠ [] ∧
    ((ofExpressions none (some "t") .specs 8).keeps requiredTree ⟨.root, []⟩ splitPath).value =
      .ok true := by
  have hrequired : requiredTest.requiredTags ≠ [] := by decide
  refine ⟨hrequired, ?_⟩
  refine (keeps_of_required_iff textAt_requiredTree candidatesOfText_requiredSpec
    List.mem_cons_self hrequired).2.mpr fun g hg => ?_
  cases hg

end Sieve.Selection.Prefilter
