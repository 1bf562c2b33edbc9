import Sieve.Proofs.Selection.ByNames
import Sieve.Proofs.Selection.Untagged

/-!
Title expressions that say nothing.

Blanks, separators and bare minus signs spell no word. For a test such an expression is as none. For
a selection of files it is one all the same unless it is empty: it takes the place of the tag
expression, and then nothing is left to filter by.
-/

namespace Sieve

open Files Log Spec

variable {g : String} {x : Option String} {t : Tree} {cwd p : Path} {found : List Path}

/-- The title expression says nothing. -/
def SaysNothing (g : String) : Prop := (TitleFilter.ofExpression g).isEmpty = true

instance (g : String) : Decidable (SaysNothing g) := inferInstanceAs (Decidable (_ = true))

lemma SaysNothing.ofExpressions_eq (hg : SaysNothing g) :
    Filter.ofExpressions (some g) x = Filter.ofExpressions none x := by
  have hempty : TitleFilter.ofExpression g = .none := by
    rw [SaysNothing, TitleFilter.isEmpty, Bool.and_eq_true, List.isEmpty_iff,
      List.isEmpty_iff] at hg
    rcases htitle : TitleFilter.ofExpression g with ⟨words, negated⟩
    rw [htitle] at hg
    obtain ⟨rfl, rfl⟩ : words = [] ∧ negated = [] := hg
    rfl
  exact congrArg (Filter.mk · _) hempty

namespace Selection

variable {w : Surroundings} {s : Settings} {o : Options} {ex : Extractors} {workers : Int}

namespace Prefilter

/-- If it has a character, nothing is filtered by. -/
lemma isActive_of_saysNothing (hg : SaysNothing g) (hne : g ≠ "") :
    (ofExpressions (some g) x ex workers).isActive = false := by
  rw [ofExpressions_of_ne hne, isActive, hg.ofExpressions_eq]
  rfl

lemma ofExpressions_empty :
    ofExpressions (some "") x ex workers = ofExpressions none x ex workers :=
  ofExpressions_untitled (by decide)

lemma isActive_saysNothing_iff (hg : SaysNothing g) :
    (ofExpressions (some g) x ex workers).isActive = (ofExpressions none x ex workers).isActive ↔
      g = "" ∨ (Filter.ofExpressions none x).isEmpty = true := by
  by_cases hne : g = ""
  · simp [hne, ofExpressions_empty]
  · have hactive : (ofExpressions none x ex workers).isActive =
        !(Filter.ofExpressions none x).isEmpty := rfl
    rw [isActive_of_saysNothing hg hne, hactive, eq_comm, Bool.not_eq_false', or_iff_right hne]

lemma keeps_saysNothing_iff (hg : SaysNothing g) :
    ((ofExpressions (some g) x ex workers).keeps t cwd p).value =
        ((ofExpressions none x ex workers).keeps t cwd p).value ↔
      g = "" ∨ ((ofExpressions none x ex workers).keeps t cwd p).value = .ok true := by
  by_cases hne : g = ""
  · simp [hne, ofExpressions_empty]
  · rw [keeps_of_inactive (isActive_of_saysNothing hg hne), eq_comm, or_iff_right hne]

end Prefilter

/-! ### Files that are selected -/

/-- The files of a selection that succeeds. -/
def selected (w : Surroundings) (s : Settings) (o : Options) (ex : Extractors) :
    Except SelectFault (List Path) :=
  (select w s (some o) ex).value.map Selection.files

lemma selected_congr {o' : Options} (hsearch : searchOf s o w.cwd = searchOf s o' w.cwd)
    (hfilter : prefilterOf s o ex = prefilterOf s o' ex) :
    selected w s o ex = selected w s o' ex := by
  simp only [selected, value_select_some, value_selectWith, value_narrow, hsearch, hfilter]

lemma selected_of_fault {e : SearchFault}
    (h : (discover w.tree (searchOf s o w.cwd)).value = .error e) :
    selected w s o ex = .error (.search e) := by
  rw [selected, value_select_some, value_selectWith, h]
  rfl

lemma selected_of_inactive (h : (prefilterOf s o ex).isActive = false) :
    selected w s o ex = (discover w.tree (searchOf s o w.cwd)).value.mapError .search := by
  rw [selected, value_select_some, value_selectWith, h]
  rcases (discover w.tree (searchOf s o w.cwd)).value with e | found <;> rfl

lemma selected_eq_found_iff (hfound : (discover w.tree (searchOf s o w.cwd)).value = .ok found) :
    selected w s o ex = .ok found ↔
      (∀ p ∈ found, ((prefilterOf s o ex).keeps w.tree w.cwd p).value = .ok true) ∨
        ∀ p ∈ found, ((prefilterOf s o ex).keeps w.tree w.cwd p).value = .ok false := by
  have hall : selected w s o ex = .ok found ↔
      (∀ p ∈ found, ∃ b, ((prefilterOf s o ex).keeps w.tree w.cwd p).value = .ok b) ∧
        (amongFound (prefilterOf s o ex) w.tree w.cwd found).files = found := by
    rw [selected, value_select_some, map_eq_ok_iff]
    simp only [selectWith_eq_ok_iff, hfound, Except.ok.injEq, exists_eq_left']
    constructor
    · rintro ⟨y, ⟨hlooked, rfl⟩, hfiles⟩
      exact ⟨hlooked, hfiles.symm⟩
    · rintro ⟨hlooked, hfiles⟩
      exact ⟨_, ⟨hlooked, rfl⟩, hfiles.symm⟩
  rw [hall, files_amongFound_eq_iff]
  constructor
  · rintro ⟨hlooked, hkept | hnone⟩
    · exact Or.inl hkept
    · refine Or.inr fun p hp => ?_
      obtain ⟨b, hb⟩ := hlooked p hp
      rcases b with _ | _
      · exact hb
      · exact absurd hb (hnone p hp)
  · rintro (hkept | hnone)
    · exact ⟨fun p hp => ⟨_, hkept p hp⟩, Or.inl hkept⟩
    · exact ⟨fun p hp => ⟨_, hnone p hp⟩, Or.inr fun p hp => by simp [hnone p hp]⟩

/-- With and without the expression, the same files are selected if all that are found are kept
without it, or none is. -/
lemma selected_saysNothing_iff (hg : SaysNothing g) :
    selected w s { o with title := some g, tags := x } ex =
        selected w s { o with title := none, tags := x } ex ↔
      g = "" ∨ ∀ found, (discover w.tree (searchOf s o w.cwd)).value = .ok found →
        (∀ p ∈ found, ((Prefilter.ofExpressions none x ex s.workers).keeps w.tree w.cwd p).value =
          .ok true) ∨
        ∀ p ∈ found, ((Prefilter.ofExpressions none x ex s.workers).keeps w.tree w.cwd p).value =
          .ok false := by
  by_cases hne : g = ""
  · refine iff_of_true (selected_congr rfl ?_) (Or.inl hne)
    rw [hne]
    exact Prefilter.ofExpressions_empty
  have hinactive : (prefilterOf s { o with title := some g, tags := x } ex).isActive = false :=
    Prefilter.isActive_of_saysNothing hg hne
  rw [or_iff_right hne, selected_of_inactive hinactive]
  change (discover w.tree (searchOf s o w.cwd)).value.mapError _ = _ ↔ _
  rcases hfound : (discover w.tree (searchOf s o w.cwd)).value with e | found
  · have hnone : selected w s { o with title := none, tags := x } ex = .error (.search e) :=
      selected_of_fault hfound
    rw [hnone]
    simp [Except.mapError]
  · rw [eq_comm]
    simp only [Except.ok.injEq, forall_eq']
    exact selected_eq_found_iff hfound

/-- **A title expression that says nothing.** Every test is decided as without it. For files it is as
none if it is empty. Else the prefilter is active as without it only if no tag is asked for; a file
is judged as without it only if it is kept then, which for one with tests means that some test runs;
and the same files are selected only if all that are found are kept without it, or none is. -/
theorem blank_title_is_none_iff (hg : SaysNothing g) (x : Option String) :
    Filter.ofExpressions (some g) x = Filter.ofExpressions none x ∧
    (∀ ex workers, (Prefilter.ofExpressions (some g) x ex workers).isActive =
        (Prefilter.ofExpressions none x ex workers).isActive ↔
      g = "" ∨ (Filter.ofExpressions none x).isEmpty = true) ∧
    (∀ ex workers t cwd p, ((Prefilter.ofExpressions (some g) x ex workers).keeps t cwd p).value =
        ((Prefilter.ofExpressions none x ex workers).keeps t cwd p).value ↔
      g = "" ∨ ((Prefilter.ofExpressions none x ex workers).keeps t cwd p).value = .ok true) ∧
    (∀ workers t cwd p text cs, t.textAt cwd p = .ok text → candidatesOfText text = .ok cs →
      (((Prefilter.ofExpressions none x .specs workers).keeps t cwd p).value = .ok true ↔
        (Filter.ofExpressions none x).isEmpty = true ∨
          (Filter.ofExpressions none x).select cs false ≠ [])) ∧
    (∀ w s o ex, selected w s { o with title := some g, tags := x } ex =
        selected w s { o with title := none, tags := x } ex ↔
      g = "" ∨ ∀ found, (discover w.tree (searchOf s o w.cwd)).value = .ok found →
        (∀ p ∈ found, ((Prefilter.ofExpressions none x ex s.workers).keeps w.tree w.cwd p).value =
          .ok true) ∨
        ∀ p ∈ found, ((Prefilter.ofExpressions none x ex s.workers).keeps w.tree w.cwd p).value =
          .ok false) := by
  refine ⟨hg.ofExpressions_eq, fun _ _ => Prefilter.isActive_saysNothing_iff hg,
    fun _ _ _ _ _ => Prefilter.keeps_saysNothing_iff hg,
    fun workers t cwd p text cs htext hcs => ?_, fun _ _ _ _ => selected_saysNothing_iff hg⟩
  rw [Prefilter.keeps_of_candidates htext hcs]
  simp

/-! ### A blank expression beside a tag -/

lemma keeps_taggedAndUntagged {cs : List Candidate} (hcs : HoldsTests taggedAndUntagged p cs) :
    ((Prefilter.ofExpressions none (some "t") .specs 8).keeps taggedAndUntagged.tree
        taggedAndUntagged.cwd p).value =
      .ok (!((Filter.ofExpressions none (some "t")).select cs false).isEmpty) := by
  obtain ⟨text, htext, hcs⟩ := hcs
  have hsome : (Filter.ofExpressions none (some "t")).isEmpty = false := by decide
  rw [Prefilter.keeps_of_candidates htext hcs, hsome, Bool.false_or]

/-- Blanks and a semicolon: nothing is filtered by if the tag expression is blank too, and the file
of the tagged test is kept. -/
theorem blank_beside_blank_and_tag :
    (Prefilter.ofExpressions (some " ; ") (some " + ") .specs 8).isActive =
      (Prefilter.ofExpressions none (some " + ") .specs 8).isActive ∧
    ((Prefilter.ofExpressions (some " ; ") (some "t") .specs 8).keeps taggedAndUntagged.tree
        taggedAndUntagged.cwd pathA).value =
      ((Prefilter.ofExpressions none (some "t") .specs 8).keeps taggedAndUntagged.tree
        taggedAndUntagged.cwd pathA).value := by
  have hblank : SaysNothing " ; " := by decide
  obtain ⟨-, hactive, -⟩ := blank_title_is_none_iff hblank (some " + ")
  obtain ⟨-, -, hkeeps, -⟩ := blank_title_is_none_iff hblank (some "t")
  refine ⟨(hactive _ _).mpr (Or.inr (by decide)), (hkeeps _ _ _ _ _).mpr (Or.inr ?_)⟩
  rw [keeps_taggedAndUntagged holdsTests_pathA]
  decide

/-- The options that ask for two expressions only. -/
def asking (title tags : Option String) : Options :=
  { Options.none with title := title, tags := tags }

/-- The tag is not asked for once the title expression is blank and not missing: the file of the
untagged test is kept and selected, although every test is decided as without the expression. -/
theorem blank_takes_the_place_of_a_tag :
    SaysNothing " ; " ∧
    Filter.ofExpressions (some " ; ") (some "t") = Filter.ofExpressions none (some "t") ∧
    (Prefilter.ofExpressions (some " ; ") (some "t") .specs 8).isActive = false ∧
    (Prefilter.ofExpressions none (some "t") .specs 8).isActive = true ∧
    ((Prefilter.ofExpressions (some " ; ") (some "t") .specs 8).keeps taggedAndUntagged.tree
      taggedAndUntagged.cwd pathB).value = .ok true ∧
    ((Prefilter.ofExpressions none (some "t") .specs 8).keeps taggedAndUntagged.tree
      taggedAndUntagged.cwd pathB).value = .ok false ∧
    selected taggedAndUntagged everyFile (asking (some " ; ") (some "t")) .specs =
      .ok [pathA, pathB] ∧
    selected taggedAndUntagged everyFile (asking none (some "t")) .specs ≠ .ok [pathA, pathB] := by
  have hinactive : (prefilterOf everyFile (asking (some " ; ") (some "t")) .specs).isActive =
      false := by
    decide
  have hdiscover : ∀ title tags, (discover taggedAndUntagged.tree
      (searchOf everyFile (asking title tags) taggedAndUntagged.cwd)).value = .ok [pathA, pathB] :=
    fun _ _ => discover_taggedAndUntagged
  have hA := keeps_taggedAndUntagged holdsTests_pathA
  have hB := keeps_taggedAndUntagged holdsTests_pathB
  have hruns : (Filter.ofExpressions none (some "t")).select [taggedTest] false = [taggedTest] := by
    decide
  have hlost : (Filter.ofExpressions none (some "t")).select [Prefilter.splitTest] false = [] := by
    decide
  rw [hruns] at hA
  rw [hlost] at hB
  refine ⟨by decide, by decide, hinactive, by decide, Prefilter.keeps_of_inactive hinactive, hB,
    ?_, ?_⟩
  · rw [selected_of_inactive hinactive, hdiscover]
    rfl
  · -- One of the files is kept, the other one is not.
    rw [Ne, selected_eq_found_iff (hdiscover _ _), not_or]
    constructor
    · intro hall
      exact absurd (hB.symm.trans (hall pathB (by simp))) (by simp)
    · intro hnone
      exact absurd (hA.symm.trans (hnone pathA (by simp))) (by simp)

end Selection

end Sieve
