import Sieve.Proofs.Filter.Decision
import Sieve.Proofs.Selection.Keeping

/-!
Files by the tags of their tests.

The titles of the tests of a spec differ, so the table of tags under titles loses no test. A filter
without words does not look at the title. Hence a file is kept exactly for a test that runs.
-/

namespace Sieve

/-! ### Filters without words -/

namespace Filter

/-- A filter without words does not look at the title. -/
lemma admits_of_wordless {f : Filter} (hwords : f.title = .none) (title title' : String)
    (tags : List String) (isRequired untaggedPass : Bool) :
    f.admits ⟨title, tags, isRequired⟩ untaggedPass =
      f.admits ⟨title', tags, isRequired⟩ untaggedPass := by
  rw [Bool.eq_iff_iff, admits_iff, admits_iff, hwords]
  simp [TitleFilter.none]

lemma isEmpty_select {f : Filter} {cs : List Candidate} {untaggedPass : Bool} :
    (!(f.select cs untaggedPass).isEmpty) = cs.any (f.admitsCandidate untaggedPass) := by
  rw [Bool.eq_iff_iff]
  simp [select]

end Filter

namespace Selection

open Files Spec

namespace Prefilter

/-- Without words, a test that runs is found in the table of tags. -/
lemma any_tagsByTitle {f : Prefilter} (hwords : f.filter.title = .none) {cs : List Candidate}
    (h : (cs.map (·.title)).Nodup) :
    ((tagsByTitle cs).any fun e => f.admitsTags e.2) = cs.any (f.filter.admitsCandidate false) := by
  have hsame : (fun e => f.admitsTags e.2) ∘ tagEntry = f.filter.admitsCandidate false := by
    funext c
    exact Filter.admits_of_wordless hwords _ _ _ _ _
  rw [tagsByTitle_eq_map h, List.any_map, hsame]

/-- An expression without any character is as none. -/
lemma ofExpressions_untitled {title tags : Option String} {ex : Extractors} {workers : Int}
    (h : nonEmpty title = none) :
    ofExpressions title tags ex workers = ofExpressions none tags ex workers := by
  simp only [ofExpressions, h]
  rfl

/-- By tags, a file whose tests can be extracted is kept for one that runs, if there is something to
filter by. -/
lemma keeps_of_candidates {tags : Option String} {workers : Int} {t : Tree} {cwd p : Path}
    {text : String} {cs : List Candidate} (htext : t.textAt cwd p = .ok text)
    (hcs : candidatesOfText text = .ok cs) :
    ((ofExpressions none tags .specs workers).keeps t cwd p).value =
      .ok ((Filter.ofExpressions none tags).isEmpty ||
        !((Filter.ofExpressions none tags).select cs false).isEmpty) := by
  have hactive : (ofExpressions none tags .specs workers).isActive =
      !(Filter.ofExpressions none tags).isEmpty := rfl
  have hwords : (ofExpressions none tags .specs workers).filter.title = .none := rfl
  have hnames : ¬ (ofExpressions none tags .specs workers).byNames = true := by
    simp [ofExpressions, nonEmpty]
  rcases hempty : (Filter.ofExpressions none tags).isEmpty with _ | _ <;> rw [hempty] at hactive
  · rw [keeps_of_text rfl hactive htext, verdict, if_neg hnames, hcs]
    simp only [Except.map, settled]
    rw [any_tagsByTitle hwords (nodup_titles hcs), Filter.isEmpty_select, Bool.false_or]
    rfl
  · rw [keeps_of_inactive hactive, Bool.true_or]

/-- **By tags, files are kept exactly**: for a test that runs, if there is something to filter by,
and if the tests cannot be extracted. -/
theorem keeps_byTags_eq (tags : Option String) (workers : Int) (t : Tree) (cwd p : Path) :
    ((ofExpressions none tags .specs workers).keeps t cwd p).value =
      match t.textAt cwd p with
      | .error _ => .ok true
      | .ok text =>
        match candidatesOfText text with
        | .ok cs =>
          let f := Filter.ofExpressions none tags
          .ok (f.isEmpty || !(f.select cs false).isEmpty)
        | .error (.load _) => .ok true
        | .error (.violation _) => .ok true
        | .error e =>
          if (Filter.ofExpressions none tags).isEmpty then .ok true
          else .error (.extract (.spec e)) := by
  rcases htext : t.textAt cwd p with c | text
  · exact keeps_of_unreadable htext
  dsimp only
  rcases hcs : candidatesOfText text with e | cs
  · have hactive : (ofExpressions none tags .specs workers).isActive =
        !(Filter.ofExpressions none tags).isEmpty := rfl
    have hnames : ¬ (ofExpressions none tags .specs workers).byNames = true := by
      simp [ofExpressions, nonEmpty]
    rcases hempty : (Filter.ofExpressions none tags).isEmpty with _ | _ <;> rw [hempty] at hactive
    · rw [keeps_of_text rfl hactive htext, verdict, if_neg hnames, hcs]
      cases e <;> rfl
    · rw [keeps_of_inactive hactive]
      cases e <;> rfl
  · exact keeps_of_candidates htext hcs

end Prefilter

end Selection

end Sieve
