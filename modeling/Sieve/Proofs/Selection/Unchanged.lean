import Sieve.Proofs.Selection.ByNames
import Sieve.Proofs.Selection.Safety

/-!
When settings stay as they are.

Settings come back as they were if there is nothing to filter by, nothing is found, or no file is
kept. Otherwise they come back with the files that are kept for patterns. These are fewer than the
files that are found unless all are kept: then nothing is left out, and the settings come back
changed nevertheless.
-/

namespace Sieve.Selection

open Files Log

variable {w : Surroundings} {s : Settings} {o : Options} {ex : Extractors} {f : Prefilter}
  {t : Tree} {cwd : Path} {found : List Path} {id : String} {c : Correlation} {r : Option Settings}

namespace Prefilter

/-- Each of the files is kept. -/
def KeepsAll (f : Prefilter) (t : Tree) (cwd : Path) (found : List Path) : Prop :=
  ∀ p ∈ found, (f.keeps t cwd p).value = .ok true

/-- None of the files is kept. -/
def KeepsNone (f : Prefilter) (t : Tree) (cwd : Path) (found : List Path) : Prop :=
  ∀ p ∈ found, (f.keeps t cwd p).value ≠ .ok true

lemma keptOf_eq_self_iff : f.keptOf t cwd found = found ↔ f.KeepsAll t cwd found := by
  simp [keptOf, KeepsAll]

lemma length_keptOf_lt_iff :
    (f.keptOf t cwd found).length < found.length ↔ ¬ f.KeepsAll t cwd found := by
  have hsub : (f.keptOf t cwd found).Sublist found := List.filter_sublist
  rw [← keptOf_eq_self_iff, ← hsub.length_eq]
  exact hsub.length_le.lt_iff_ne

end Prefilter

/-- The ways in which all files are selected. -/
lemma selects_all_iff : (amongFound f t cwd found).files = found ↔
    f.isActive = false ∨ found = [] ∨ f.KeepsAll t cwd found ∨ f.KeepsNone t cwd found := by
  constructor
  · exact fun hall => Or.inr (Or.inr (files_amongFound_eq_iff.mp hall))
  · rintro (hinactive | rfl | h)
    · exact files_amongFound_eq_iff.mpr (Or.inl fun p _ => Prefilter.keeps_of_inactive hinactive)
    · exact files_amongFound_eq_iff.mpr (Or.inl (List.forall_mem_nil _))
    · exact files_amongFound_eq_iff.mpr h

/-- Settings are left alone for a selection that does not filter or falls back. -/
lemma narrowed?_amongFound_eq_none_iff : narrowed? s (amongFound f t cwd found) = none ↔
    f.isActive = false ∨ found = [] ∨ f.KeepsNone t cwd found := by
  unfold amongFound
  split_ifs with hactive hkept
  · simp [narrowed?, hactive]
  · have hnone : f.KeepsNone t cwd found := Prefilter.keptOf_eq_nil_iff.mp hkept
    simp [narrowed?, hnone]
  · refine iff_of_false (by simp [narrowed?]) ?_
    rintro (h | rfl | hnone)
    · exact hactive h
    · exact hkept rfl
    · exact hkept (Prefilter.keptOf_eq_nil_iff.mpr hnone)

/-- Other settings have the selected files for patterns, which are those that are kept. -/
lemma narrowed?_amongFound_of_ne_none (h : narrowed? s (amongFound f t cwd found) ≠ none) :
    narrowed? s (amongFound f t cwd found) =
        some { s with patterns := (amongFound f t cwd found).files.map (·.text) } ∧
      (amongFound f t cwd found).files = f.keptOf t cwd found ∧ f.keptOf t cwd found ≠ [] := by
  obtain ⟨s', hs'⟩ := Option.ne_none_iff_exists'.mp h
  obtain ⟨hfiltered, hfallback, rfl⟩ := narrowed?_eq_some_iff.mp hs'
  obtain ⟨-, hfiles, hkept⟩ := files_amongFound hfiltered hfallback
  exact ⟨hs', hfiles, hkept⟩

/-- What comes back where a selection is asked for. -/
lemma value_narrowSettings (henv : s.env ≠ []) (hpatterns : s.patterns ≠ [])
    (ho : s.options = .ok o) (hasked : o.filterSpecs = true) :
    (narrowSettings w s ex id c).1.value =
      match (select w s (some o) ex).value with
      | .error e => .error (.select e)
      | .ok x => .ok (narrowed? s x) := by
  unfold narrowSettings selectIfAsked
  rw [if_neg (by simpa using henv), if_neg (by simpa using hpatterns), ho]
  simp only [Logged.value_map, Correlation.value_within, Logged.value_bind, hasked, Bool.not_true,
    Bool.false_eq_true, if_false]
  rcases (select w s (some o) ex).value with e | x <;> rfl

/-- **Settings come back as they were** if there is nothing to filter by, nothing is found, or no
file is kept, and only then. Otherwise their patterns are the files that are kept, at least one, and
fewer than are found unless all are kept. So they come back as they were just where all files are
selected, except if there is something to filter by, something is found, and all of it is kept. -/
theorem unchanged_iff (henv : s.env ≠ []) (hpatterns : s.patterns ≠ []) (ho : s.options = .ok o)
    (hasked : o.filterSpecs = true) (hr : (narrowSettings w s ex id c).1.value = .ok r) :
    ∃ found x, (discover w.tree (searchOf s o w.cwd)).value = .ok found ∧
      (select w s (some o) ex).value = .ok x ∧
      let f := prefilterOf s o ex
      (x.files = found ↔ f.isActive = false ∨ found = [] ∨ f.KeepsAll w.tree w.cwd found ∨
        f.KeepsNone w.tree w.cwd found) ∧
      (r = none ↔ f.isActive = false ∨ found = [] ∨ f.KeepsNone w.tree w.cwd found) ∧
      (r ≠ none → r = some { s with patterns := x.files.map (·.text) } ∧ x.files ≠ [] ∧
        x.files.Sublist found ∧
        (x.files.length < found.length ↔ ¬ f.KeepsAll w.tree w.cwd found)) ∧
      ((r = none ↔ x.files = found) ↔
        ¬ (f.isActive = true ∧ found ≠ [] ∧ f.KeepsAll w.tree w.cwd found)) := by
  rw [value_narrowSettings henv hpatterns ho hasked] at hr
  rcases hselect : (select w s (some o) ex).value with e | x
  · rw [hselect] at hr
    cases hr
  rw [hselect] at hr
  obtain rfl : narrowed? s x = r := Except.ok.inj hr
  obtain ⟨found, hfound, -, rfl⟩ := selectWith_eq_ok_iff.mp (value_select_some ▸ hselect)
  refine ⟨found, _, hfound, rfl, selects_all_iff, narrowed?_amongFound_eq_none_iff,
    fun hne => ?_, ?_⟩
  · obtain ⟨hcopy, hfiles, hkept⟩ := narrowed?_amongFound_of_ne_none hne
    refine ⟨hcopy, by rwa [hfiles], isAmong_amongFound.sublist, ?_⟩
    rw [hfiles, Prefilter.length_keptOf_lt_iff]
  · rw [selects_all_iff, narrowed?_amongFound_eq_none_iff]
    -- If something is found, all and none of it cannot be kept at once.
    have hdisjoint : found ≠ [] → (prefilterOf s o ex).KeepsAll w.tree w.cwd found →
        ¬ (prefilterOf s o ex).KeepsNone w.tree w.cwd found := by
      intro hne hall hnone
      obtain ⟨p, hp⟩ := List.exists_mem_of_ne_nil found hne
      exact hnone p hp (hall p hp)
    rcases (prefilterOf s o ex).isActive with _ | _
    · simp
    · tauto

/-- Settings that come back with one of two files, since the other one is not kept. -/
theorem changed_to_fewer_files :
    (narrowSettings twoFiles loginSettings wholeTexts "run" .none).1.value =
        .ok (some { loginSettings with patterns := ["/a"] }) ∧
    ¬ (prefilterOf loginSettings loginOptions wholeTexts).KeepsAll twoFiles.tree twoFiles.cwd
        [pathA, pathB] := by
  have hnarrowed : (narrowSettings twoFiles loginSettings wholeTexts "run" .none).1.value =
      .ok (some { loginSettings with patterns := ["/a"] }) := narrowSettings_twoFiles
  obtain ⟨found, x, hfound, hx, -, -, hcopy, -⟩ :=
    unchanged_iff (by decide) (by decide) options_loginSettings rfl hnarrowed
  rw [discover_twoFiles] at hfound
  cases hfound
  rw [select_twoFiles] at hx
  cases hx
  obtain ⟨-, -, -, hfewer⟩ := hcopy (Option.some_ne_none _)
  exact ⟨hnarrowed, hfewer.mp (by decide)⟩

/-! ### A copy with all files -/

def splitSurroundings : Surroundings := ⟨Prefilter.splitTree, ⟨.root, []⟩, []⟩

def splitSettings : Settings :=
  ⟨["*.yaml"], [], 8, [("grep", .str "b"), ("grepFilterSpecs", .bool true)], .default⟩

def splitOptions : Options := ⟨some "b", none, none, false, false, true, none⟩

lemma options_splitSettings : splitSettings.options = .ok splitOptions :=
  eq_ok_of_toOption (by decide +kernel)

lemma discover_splitTree :
    (discover splitSurroundings.tree (searchOf splitSettings splitOptions
      splitSurroundings.cwd)).value = .ok [Prefilter.splitPath] := by
  have hexcludes : (searchOf splitSettings splitOptions splitSurroundings.cwd).excluded? =
      .ok [] := rfl
  have hnamed : (searchOf splitSettings splitOptions splitSurroundings.cwd).named
      splitSurroundings.tree = [Prefilter.splitPath] := by
    decide +kernel
  rw [discover_eq_ok_iff (by decide) hexcludes]
  refine ⟨List.pairwise_singleton _ _, fun p => ?_⟩
  rw [hnamed, Search.isExcluded_nil]
  simp

lemma keeps_splitPath :
    ((prefilterOf splitSettings splitOptions .specs).keeps splitSurroundings.tree
      splitSurroundings.cwd Prefilter.splitPath).value = .ok true := by
  have htext : splitSurroundings.tree.textAt splitSurroundings.cwd Prefilter.splitPath =
      .ok Prefilter.splitSpec := Prefilter.textAt_splitTree
  have hverdict : (prefilterOf splitSettings splitOptions .specs).verdict Prefilter.splitSpec =
      .ok true := by
    unfold Prefilter.verdict
    rw [if_pos (by decide), Prefilter.namesOfText_splitSpec]
    decide
  rw [Prefilter.keeps_of_text rfl (by decide) htext, hverdict]
  rfl

/-- The only file is kept, so that all files are selected, but the settings come back with it for a
pattern. -/
theorem changed_though_all_are_kept :
    (discover splitSurroundings.tree (searchOf splitSettings splitOptions
      splitSurroundings.cwd)).value = .ok [Prefilter.splitPath] ∧
    (select splitSurroundings splitSettings (some splitOptions) .specs).value =
      .ok ⟨[Prefilter.splitPath], 1, true, false⟩ ∧
    (narrowSettings splitSurroundings splitSettings .specs "run" .none).1.value =
      .ok (some { splitSettings with patterns := ["/s.yaml"] }) := by
  have hkept : (prefilterOf splitSettings splitOptions .specs).keptOf splitSurroundings.tree
      splitSurroundings.cwd [Prefilter.splitPath] = [Prefilter.splitPath] :=
    Prefilter.keptOf_eq_self_iff.mpr (List.forall_mem_singleton.mpr keeps_splitPath)
  have hselect : (select splitSurroundings splitSettings (some splitOptions) .specs).value =
      .ok ⟨[Prefilter.splitPath], 1, true, false⟩ := by
    rw [value_select_some]
    refine selectWith_eq_ok_iff.mpr ⟨_, discover_splitTree,
      List.forall_mem_singleton.mpr ⟨true, keeps_splitPath⟩, ?_⟩
    rw [amongFound, if_neg (by decide), hkept]
    rfl
  have htexts : [Prefilter.splitPath].map (·.text) = ["/s.yaml"] := by decide
  refine ⟨discover_splitTree, hselect, ?_⟩
  rw [value_narrowSettings (by decide) (by decide) options_splitSettings rfl, hselect, ← htexts]
  rfl

end Sieve.Selection
