import Sieve.Proofs.Spec.Agreement
import Sieve.Proofs.Spec.Extraction
import Sieve.Selection.Prefilter

/-!
Which files a prefilter keeps.

A file without a text, or whose text is no spec, is kept. The prefilter fails on a file only where
the walk over its names or tests is stopped by what names no rule: an integer that cannot be
written, or the document once too often among its own suites.
-/

namespace Sieve.Selection

open Files Spec

/-- What the extraction from its text means for a file: one that breaks a rule is kept. -/
def settled : Except Failure Bool → Except LookFault Bool
  | .ok b => .ok b
  | .error (.load _) => .ok true
  | .error (.violation _) => .ok true
  | .error .noText => .error (.extract (.spec .noText))
  | .error .endless => .error (.extract (.spec .endless))

lemma settled_eq_error_iff {r : Except Failure Bool} :
    (∃ l, settled r = .error l) ↔ r = .error .noText ∨ r = .error .endless := by
  rcases r with e | b
  · cases e <;> simp [settled]
  · simp [settled]

/-- The number of tests is reported, which changes nothing of them. -/
lemma value_candidatesOf {text : String} : (candidatesOf text).value = candidatesOfText text := by
  unfold candidatesOf
  rcases candidatesOfText text with e | cs <;> rfl

namespace Prefilter

variable {f : Prefilter} {t : Tree} {cwd p : Path} {text : String}

/-- What is found in a text: by names, one that could be that of a test that runs, or else the tags
of a test that runs. -/
def verdict (f : Prefilter) (text : String) : Except Failure Bool :=
  if f.byNames then (namesOfText text).map fun ns => ns.all.any f.admitsName
  else (candidatesOfText text).map fun cs => (tagsByTitle cs).any fun e => f.admitsTags e.2

lemma value_holdsName (hspecs : f.extractors = .specs) :
    (f.holdsName text).value =
      ((namesOfText text).map fun ns => ns.all.any f.admitsName).mapError .spec := by
  unfold holdsName
  rw [hspecs]
  change ((namesOfText text).mapError ExtractFault.spec).map _ = _
  rcases namesOfText text with e | ns <;> rfl

lemma value_holdsTags (hspecs : f.extractors = .specs) :
    (f.holdsTags text).value =
      ((candidatesOfText text).map fun cs =>
        (tagsByTitle cs).any fun e => f.admitsTags e.2).mapError .spec := by
  unfold holdsTags
  rw [hspecs, ← value_candidatesOf]
  change (((candidatesOf text).value.map tagsByTitle).mapError ExtractFault.spec).map _ = _
  rcases (candidatesOf text).value with e | cs <;> rfl

lemma value_look (hspecs : f.extractors = .specs) (htext : t.textAt cwd p = .ok text) :
    (f.look t cwd p).value = ((f.verdict text).mapError .spec).mapError .extract := by
  unfold look verdict
  rw [htext]
  dsimp only
  split_ifs with hnames
  · rw [← value_holdsName hspecs]
    rfl
  · rw [← value_holdsTags hspecs]
    rfl

lemma keeps_of_inactive (h : f.isActive = false) : (f.keeps t cwd p).value = .ok true := by
  unfold keeps
  simp only [h]
  rfl

lemma keeps_of_active (h : f.isActive = true) :
    (f.keeps t cwd p).value =
      match (f.look t cwd p).value with
      | .ok b => .ok b
      | .error e => if e.blamesFile then .ok true else .error e := by
  unfold keeps
  rw [h, if_neg (by simp)]
  change (Log.Logged.bind (f.look t cwd p) _).value = _
  unfold Log.Logged.bind
  rcases (f.look t cwd p).value with e | b
  · dsimp only
    split_ifs <;> rfl
  · rfl

/-- **A file that cannot be read** is kept. -/
theorem keeps_of_unreadable {e : ContentFault} (h : t.textAt cwd p = .error e) :
    (f.keeps t cwd p).value = .ok true := by
  by_cases hactive : f.isActive = true
  · rw [keeps_of_active hactive, look, h]
    rfl
  · exact keeps_of_inactive (Bool.eq_false_iff.mpr hactive)

/-- **A file with a text** is judged by what is found in it. -/
theorem keeps_of_text (hspecs : f.extractors = .specs) (hactive : f.isActive = true)
    (htext : t.textAt cwd p = .ok text) :
    (f.keeps t cwd p).value = settled (f.verdict text) := by
  rw [keeps_of_active hactive, value_look hspecs htext]
  rcases f.verdict text with e | b
  · cases e <;> rfl
  · rfl

/-- A file with a text is kept if there is nothing to filter by, or for what is found in it. -/
lemma keeps_eq_true_iff (hspecs : f.extractors = .specs) (htext : t.textAt cwd p = .ok text) :
    (f.keeps t cwd p).value = .ok true ↔
      f.isActive = false ∨ settled (f.verdict text) = .ok true := by
  rcases hactive : f.isActive with _ | _
  · simp [keeps_of_inactive hactive]
  · simp [keeps_of_text hspecs hactive htext]

/-! ### Failures -/

lemma verdict_stuck_iff :
    (f.verdict text = .error .noText ∨ f.verdict text = .error .endless) ↔
      ∃ root : Mapping, load text = .ok (.map root.line root.entries) ∧
        if f.byNames then root.NamesStuck else root.TestsStuck := by
  unfold verdict
  rcases f.byNames with _ | _
  · simp only [Bool.false_eq_true, if_false, map_eq_error_iff, candidatesOfText_stuck_iff]
  · simp only [if_true, map_eq_error_iff, namesOfText_stuck_iff]

/-- The prefilter fails on a file where its walk is stopped by what names no rule. -/
theorem keeps_eq_error_iff (hspecs : f.extractors = .specs) :
    (∃ e, (f.keeps t cwd p).value = .error e) ↔
      f.isActive = true ∧ ∃ (text : String) (root : Mapping), t.textAt cwd p = .ok text ∧
        load text = .ok (.map root.line root.entries) ∧
        if f.byNames then root.NamesStuck else root.TestsStuck := by
  by_cases hactive : f.isActive = true
  swap
  · rw [Bool.not_eq_true] at hactive
    simp [keeps_of_inactive hactive, hactive]
  rcases htext : t.textAt cwd p with c | text
  · simp [keeps_of_unreadable htext]
  · rw [keeps_of_text hspecs hactive htext, settled_eq_error_iff, verdict_stuck_iff]
    simp [hactive]

/-- A document that is its only test. -/
def selfSpec : String := "--- &r\nsuite: S\ntests: [*r]\n"

def selfTree : Tree := .dir [("s.yaml", .file (Text.Utf8.encode selfSpec))]

def selfPath : Path := ⟨.root, ["s.yaml"]⟩

def selfRoot : Mapping :=
  ⟨some 1, [(.str "suite", .str "S"), (.str "tests", .seq (some 3) [.whole])]⟩

lemma textAt_selfTree : selfTree.textAt ⟨.root, []⟩ selfPath = .ok selfSpec :=
  eq_ok_of_toOption (by decide +kernel)

lemma load_selfSpec : load selfSpec = .ok (.map selfRoot.line selfRoot.entries) :=
  load_of_agrees (by decide +kernel)

/-- An integer with more digits than can be written, as a name. -/
def hugeRoot : Mapping := ⟨some 1, [(.str "suite", .int (.ofNat (Nat.pow 10 4300)))]⟩

end Prefilter

end Sieve.Selection
