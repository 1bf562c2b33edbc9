import Sieve.Proofs.Files.Hidden
import Sieve.Proofs.Selection.Safety

/-!
Selections in trees that differ in hidden files.

A selection asks the settings for all but how the run reports, and the files that are found for
their texts. If the hidden files among these are kept in both trees or in neither, the selections
are the same.
-/

namespace Sieve

namespace Settings

/-- The settings without levels of modules. -/
def withoutLevels (s : Settings) : Settings :=
  { s with logging := { s.logging with moduleLevels := [] } }

/-- Settings that differ in levels of modules have all else in common. -/
lemma eq_of_withoutLevels {s s' : Settings} (h : s.withoutLevels = s'.withoutLevels) :
    s.patterns = s'.patterns ∧ s.excludes = s'.excludes ∧ s.workers = s'.workers ∧
      s.env = s'.env ∧ s.logging.level = s'.logging.level ∧ s.logging.file = s'.logging.file := by
  simp only [withoutLevels, mk.injEq, LogSettings.mk.injEq] at h
  obtain ⟨hpatterns, hexcludes, hworkers, henv, hlevel, -, hfile, -⟩ := h
  exact ⟨hpatterns, hexcludes, hworkers, henv, hlevel, hfile⟩

end Settings

namespace Selection

open Files Log

variable {w w' : Surroundings} {s s' : Settings} {o : Options} {ex : Extractors} {f : Prefilter}
  {t t' : Tree} {cwd p : Path} {found : List Path} {hidden : Places} {search : Search}

lemma Prefilter.keeps_congr (h : t.textAt cwd p = t'.textAt cwd p) :
    f.keeps t cwd p = f.keeps t' cwd p := by
  unfold keeps look
  rw [h]

/-- A prefilter that judges each file alike keeps the same. -/
lemma Prefilter.value_run_congr
    (h : ∀ p ∈ found, (f.keeps t cwd p).value = (f.keeps t' cwd p).value) :
    (f.run t cwd found).value = (f.run t' cwd found).value := by
  change kept _ = kept _
  induction found with
  | nil => rfl
  | cons p found ih =>
    obtain ⟨hp, hfound⟩ := List.forall_mem_cons.mp h
    simp only [List.map_cons, kept, hp, ih hfound]

lemma value_discover_congr (ht : t.without hidden = t'.without hidden) :
    (discover t search).value = (discover t' search).value := by
  unfold discover
  simp only [Search.run_congr ht]

/-- The files among those found that are hidden are kept in both trees or in neither. -/
def JudgesHidden (hidden : Places) (f : Prefilter) (cwd : Path) (t t' : Tree) (search : Search) :
    Prop :=
  ∀ found, (discover t search).value = .ok found → ∀ p ∈ found,
    hidden (cwd.resolve p).parts = true → (f.keeps t cwd p).value = (f.keeps t' cwd p).value

lemma keeps_congr_of_judgesHidden (ht : t.without hidden = t'.without hidden)
    (hjudges : JudgesHidden hidden f cwd t t' search) (hfound : (discover t search).value = .ok found)
    (hp : p ∈ found) : (f.keeps t cwd p).value = (f.keeps t' cwd p).value := by
  rcases hplace : hidden (cwd.resolve p).parts with _ | _
  · rw [Prefilter.keeps_congr (Tree.textAt_congr ht hplace)]
  · exact hjudges found hfound p hp hplace

/-- **Selections are the same** in trees that differ in hidden files, if these are judged alike. -/
theorem value_selectWith_congr (hcwd : w.cwd = w'.cwd)
    (ht : w.tree.without hidden = w'.tree.without hidden)
    (hs : s.withoutLevels = s'.withoutLevels)
    (hjudges : JudgesHidden hidden (prefilterOf s o ex) w.cwd w.tree w'.tree
      (searchOf s o w.cwd)) :
    (selectWith w s o ex).value = (selectWith w' s' o ex).value := by
  obtain ⟨hpatterns, hexcludes, hworkers, -⟩ := Settings.eq_of_withoutLevels hs
  have hsearch : searchOf s o w.cwd = searchOf s' o w'.cwd := by
    rw [searchOf, searchOf, hpatterns, hexcludes, hcwd]
  have hfilter : prefilterOf s o ex = prefilterOf s' o ex := by
    rw [prefilterOf, prefilterOf, hworkers]
  rw [value_selectWith, value_selectWith, ← hsearch, ← hfilter, ← value_discover_congr ht]
  rcases hfound : (discover w.tree (searchOf s o w.cwd)).value with e | found
  · rfl
  · have hrun : ((prefilterOf s o ex).run w.tree w.cwd found).value =
        ((prefilterOf s o ex).run w'.tree w'.cwd found).value := by
      rw [← hcwd]
      exact Prefilter.value_run_congr fun p hp => keeps_congr_of_judgesHidden ht hjudges hfound hp
    dsimp only
    rw [value_narrow, value_narrow, hrun]

end Selection

end Sieve
