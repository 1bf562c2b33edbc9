import Sieve.Proofs.Files.Glob
import Sieve.Proofs.Selection.ByNames
import Sieve.Proofs.Selection.Safety

/-!
Settings narrowed to files, read again.

Narrowed settings hold the paths of the selected files where patterns stand, and a search reads them
as patterns. A path without wildcards names itself alone, so that the search finds the selected files
again and a second narrowing changes nothing. A path with wildcards may name other files, or not
even itself.
-/

namespace Sieve.Selection

open Files Log

variable {w : Surroundings} {s s' : Settings} {o : Options} {ex : Extractors} {search : Search}
  {found : List Path} {x : Selection} {id : String} {c : Correlation}

/-- Paths that are read back from their texts: as patterns they can be followed, and they name each
of them, and no other file that is not left out. -/
structure AreReadBack (t : Tree) (search : Search) (paths : List Path) : Prop where
  reachable : ∀ q ∈ paths, Search.isUnreachable q.text = false
  each : ∀ p ∈ paths, ∃ q ∈ paths, p ∈ (Glob.ofText q.text).files t search.folder
  only : ∀ excludes, search.excluded? = .ok excludes →
    ∀ q ∈ paths, ∀ p ∈ (Glob.ofText q.text).files t search.folder,
      Search.isExcluded search.folder excludes p = false → p ∈ paths

/-- The same search for the files with these paths. -/
def searchBack (search : Search) (paths : List Path) : Search :=
  { search with patterns := paths.map (·.text) }

lemma isFreeOfNulls_searchBack_iff {paths : List Path} (h : search.IsFreeOfNulls) :
    (searchBack search paths).IsFreeOfNulls ↔
      ∀ q ∈ paths, Search.isUnreachable q.text = false := by
  constructor
  · exact fun hback q hq => hback.patterns _ (List.mem_map_of_mem hq)
  · exact fun hpaths => ⟨h.folder, h.excludes, List.forall_mem_map.mpr hpaths⟩

lemma mem_named_searchBack {t : Tree} {paths : List Path} {p : Path} :
    p ∈ (searchBack search paths).named t ↔
      ∃ q ∈ paths, p ∈ (Glob.ofText q.text).files t search.folder := by
  simp [Search.named, searchBack]

/-- **Files are found again** by their paths if and only if these are read back. -/
theorem discover_searchBack_iff {t : Tree} {paths : List Path}
    (hfound : (discover t search).value = .ok found) (hpaths : paths.Sublist found) :
    (discover t (searchBack search paths)).value = .ok paths ↔ AreReadBack t search paths := by
  rw [value_discover_eq_ok_iff] at hfound ⊢
  obtain ⟨hfree, hfound⟩ := hfound
  obtain ⟨d, hrun, -⟩ := map_eq_ok_iff.mp hfound
  obtain ⟨excludes, hexcludes, -⟩ := Search.run_eq_ok_iff.mp hrun
  obtain ⟨hascending, hmem⟩ := (Search.files_eq_iff hexcludes).mp hfound
  have hback : (searchBack search paths).excluded? = .ok excludes := hexcludes
  rw [isFreeOfNulls_searchBack_iff hfree, Search.files_eq_iff hback]
  change _ ∧ _ ∧ (∀ p, _ ↔ _ ∧ Search.isExcluded search.folder excludes p = false) ↔ _
  simp only [mem_named_searchBack]
  constructor
  · rintro ⟨hreachable, -, hiff⟩
    refine ⟨hreachable, fun p hp => ((hiff p).mp hp).1, fun excludes' hexcludes' q hq p hp hkept => ?_⟩
    rw [hexcludes] at hexcludes'
    cases hexcludes'
    exact (hiff p).mpr ⟨⟨q, hq, hp⟩, hkept⟩
  · rintro ⟨hreachable, heach, honly⟩
    refine ⟨hreachable, hascending.sublist hpaths, fun p => ⟨fun hp => ?_, ?_⟩⟩
    · exact ⟨heach p hp, ((hmem p).mp (hpaths.subset hp)).2⟩
    · rintro ⟨⟨q, hq, hp⟩, hkept⟩
      exact honly excludes hexcludes q hq p hp hkept

/-- Paths without wildcards are read back. -/
theorem areReadBack_of_plain (hdir : w.tree.isDir = true) (hnamed : w.tree.isNamed = true)
    (hfolder : search.folder.anchor ≠ .here) (hfound : (discover w.tree search).value = .ok found)
    {paths : List Path} (hpaths : paths ⊆ found) (hplain : ∀ p ∈ paths, Glob.IsPlain p) :
    AreReadBack w.tree search paths := by
  obtain ⟨-, hfound⟩ := value_discover_eq_ok_iff.mp hfound
  obtain ⟨d, hrun, -⟩ := map_eq_ok_iff.mp hfound
  obtain ⟨excludes, hexcludes, -⟩ := Search.run_eq_ok_iff.mp hrun
  have hmem := ((Search.files_eq_iff hexcludes).mp hfound).2
  have hproper : ∀ p ∈ paths, p.IsProper := fun p hp =>
    Search.isProper_of_mem_named hdir hnamed hfolder ((hmem p).mp (hpaths hp)).1
  have hfiles : ∀ p ∈ paths, (Glob.ofText p.text).files w.tree search.folder = [p] := by
    intro p hp
    rw [Glob.files_text (hproper p hp) (hplain p hp)]
    exact List.filter_eq_self.mpr
      (by simpa using (Search.resolved_of_mem_named ((hmem p).mp (hpaths hp)).1).1)
  refine ⟨fun q hq => Search.isUnreachable_of_plain (hproper q hq) (hplain q hq),
    fun p hp => ⟨p, hp, ?_⟩, fun excludes _ q hq p hp _ => ?_⟩
  · rw [hfiles p hp]
    exact List.mem_singleton_self p
  · rw [hfiles q hq, List.mem_singleton] at hp
    rwa [hp]

/-! ### Narrowing twice -/

lemma keptOf_keptOf {f : Prefilter} {t : Tree} {cwd : Path} :
    f.keptOf t cwd (f.keptOf t cwd found) = f.keptOf t cwd found := by
  simp [Prefilter.keptOf, List.filter_filter]

/-- Files that are found again are selected again. -/
lemma narrowSettings_again (hs' : (narrowSettings w s ex id c).1.value = .ok (some s'))
    (ho : s.options = .ok o) (hselect : (select w s (some o) ex).value = .ok x)
    (hagain : (discover w.tree (searchOf s' o w.cwd)).value = .ok x.files)
    {id' : String} {c' : Correlation} :
    (narrowSettings w s' ex id' c').1.value = .ok (some s') := by
  obtain ⟨henv, -, o', x', ho', hasked, hselect', hfiltered, hfallback, rfl⟩ :=
    narrowSettings_eq_some_iff.mp hs'
  rw [ho] at ho'
  cases ho'
  rw [hselect] at hselect'
  cases hselect'
  obtain ⟨found, -, -, rfl⟩ := selectWith_eq_ok_iff.mp (value_select_some ▸ hselect)
  obtain ⟨hactive, hfiles, hkept⟩ := files_amongFound hfiltered hfallback
  set f := prefilterOf s o ex
  -- The prefilter keeps all files of the selection, so it selects the same among them.
  have hsame : amongFound f w.tree w.cwd (f.keptOf w.tree w.cwd found) =
      ⟨f.keptOf w.tree w.cwd found, (f.keptOf w.tree w.cwd found).length, true, false⟩ := by
    unfold amongFound
    rw [if_neg (by simp [hactive]), keptOf_keptOf, if_neg hkept]
  refine narrowSettings_eq_some_iff.mpr ⟨henv, by simpa [hfiles] using hkept, o, _, ho, hasked,
    selectWith_eq_ok_iff.mpr ⟨_, hagain, ?_, rfl⟩, ?_, ?_, ?_⟩
  · rw [hfiles]
    exact fun p hp => ⟨true, (Prefilter.mem_keptOf_iff.mp hp).2⟩
  · rw [hfiles]
    exact congrArg Selection.isFiltered hsame
  · rw [hfiles]
    exact congrArg Selection.isFallback hsame
  · rw [hfiles]
    exact congrArg (fun x : Selection => { s with patterns := x.files.map Path.text }) hsame.symm

/-- **Narrowed settings denote the selected files** if and only if the paths of these are read back,
as they are if none of them holds a wildcard. Then a second narrowing changes nothing. -/
theorem narrowed_denotes_iff (hcwd : w.cwd.anchor ≠ .here) (hdir : w.tree.isDir = true)
    (hnamed : w.tree.isNamed = true)
    (hs' : (narrowSettings w s ex id c).1.value = .ok (some s')) :
    ∃ (o : Options) (x : Selection), s.options = .ok o ∧
      (select w s (some o) ex).value = .ok x ∧ s'.patterns = x.files.map (·.text) ∧
      ((discover w.tree (searchOf s' o w.cwd)).value = .ok x.files ↔
        AreReadBack w.tree (searchOf s o w.cwd) x.files) ∧
      ((∀ p ∈ x.files, Glob.IsPlain p) → AreReadBack w.tree (searchOf s o w.cwd) x.files) ∧
      (AreReadBack w.tree (searchOf s o w.cwd) x.files → ∀ (id' : String) (c' : Correlation),
        (narrowSettings w s' ex id' c').1.value = .ok (some s')) := by
  obtain ⟨-, -, o, x, ho, -, hselect, -, -, hx⟩ := narrowSettings_eq_some_iff.mp hs'
  obtain ⟨found, hfound, -, rfl⟩ := selectWith_eq_ok_iff.mp (value_select_some ▸ hselect)
  have hsublist : (amongFound (prefilterOf s o ex) w.tree w.cwd found).files.Sublist found :=
    isAmong_amongFound.sublist
  have hback : searchOf s' o w.cwd =
      searchBack (searchOf s o w.cwd)
        (amongFound (prefilterOf s o ex) w.tree w.cwd found).files := by
    rw [hx]
    rfl
  have hiff := discover_searchBack_iff hfound hsublist
  rw [← hback] at hiff
  refine ⟨o, _, ho, hselect, congrArg Settings.patterns hx, hiff, fun hplain => ?_, ?_⟩
  · exact areReadBack_of_plain hdir hnamed (Search.absolute_folderAt hcwd) hfound hsublist.subset
      hplain
  · exact fun hread _ _ => narrowSettings_again hs' ho hselect (hiff.mpr hread)

/-- A file with a plain name is found and selected again. -/
theorem first_file_is_found_again :
    (narrowSettings twoFiles loginSettings wholeTexts "run" .none).1.value =
      .ok (some { loginSettings with patterns := ["/a"] }) ∧
    (discover twoFiles.tree ⟨["/a"], ⟨.root, []⟩, []⟩).value = .ok [pathA] ∧
    (narrowSettings twoFiles { loginSettings with patterns := ["/a"] } wholeTexts "again"
      .none).1.value = .ok (some { loginSettings with patterns := ["/a"] }) := by
  have hnarrowed : (narrowSettings twoFiles loginSettings wholeTexts "run" .none).1.value =
      .ok (some { loginSettings with patterns := ["/a"] }) := narrowSettings_twoFiles
  obtain ⟨o, x, ho, hx, -, hiff, hplain, hagain⟩ :=
    narrowed_denotes_iff (by decide) (by decide) (by decide) hnarrowed
  rw [options_loginSettings] at ho
  cases ho
  rw [select_twoFiles] at hx
  cases hx
  have hread := hplain (by unfold Glob.IsPlain; decide)
  exact ⟨hnarrowed, hiff.mpr hread, hagain hread "again" .none⟩

/-! ### A file that is not found again -/

/-- A file with a set of characters for a name. -/
def bracketSurroundings : Surroundings :=
  ⟨.dir [("[a].yaml", .file (Text.Utf8.encode Prefilter.splitSpec))], ⟨.root, []⟩, []⟩

def bracketPath : Path := ⟨.root, ["[a].yaml"]⟩

def bracketSettings : Settings :=
  ⟨["*.yaml"], [], 8, [("grep", .str "b"), ("grepFilterSpecs", .bool true)], .default⟩

def bracketOptions : Options := ⟨some "b", none, none, false, false, true, none⟩

lemma options_bracketSettings : bracketSettings.options = .ok bracketOptions :=
  eq_ok_of_toOption (by decide +kernel)

lemma discover_bracket {patterns : List String} {l : List Path} (hl : IsAscending l)
    (hfree : Search.IsFreeOfNulls ⟨patterns, ⟨.root, []⟩, []⟩)
    (hnamed : Search.named ⟨patterns, ⟨.root, []⟩, []⟩ bracketSurroundings.tree = l) :
    (discover bracketSurroundings.tree ⟨patterns, ⟨.root, []⟩, []⟩).value = .ok l := by
  have hexcludes : (Search.mk patterns ⟨.root, []⟩ []).excluded? = .ok [] := rfl
  rw [discover_eq_ok_iff hfree hexcludes]
  refine ⟨hl, fun p => ?_⟩
  rw [hnamed, Search.isExcluded_nil]
  simp

lemma keeps_bracketPath :
    ((prefilterOf bracketSettings bracketOptions .specs).keeps bracketSurroundings.tree
      bracketSurroundings.cwd bracketPath).value = .ok true := by
  have htext : bracketSurroundings.tree.textAt bracketSurroundings.cwd bracketPath =
      .ok Prefilter.splitSpec := eq_ok_of_toOption (by decide +kernel)
  have hverdict : (prefilterOf bracketSettings bracketOptions .specs).verdict
      Prefilter.splitSpec = .ok true := by
    unfold Prefilter.verdict
    rw [if_pos (by decide), Prefilter.namesOfText_splitSpec]
    decide
  rw [Prefilter.keeps_of_text rfl (by decide) htext, hverdict]
  rfl

/-- The settings are narrowed to a path that, as a pattern, names no file, so that they are not
narrowed again. -/
theorem not_found_by_its_path :
    (narrowSettings bracketSurroundings bracketSettings .specs "run" .none).1.value =
      .ok (some { bracketSettings with patterns := ["/[a].yaml"] }) ∧
    (select bracketSurroundings bracketSettings (some bracketOptions) .specs).value =
      .ok ⟨[bracketPath], 1, true, false⟩ ∧
    (discover bracketSurroundings.tree ⟨["/[a].yaml"], ⟨.root, []⟩, []⟩).value = .ok [] ∧
    ∀ s', (narrowSettings bracketSurroundings
      { bracketSettings with patterns := ["/[a].yaml"] } .specs "again" .none).1.value ≠
        .ok (some s') := by
  have hselect : (select bracketSurroundings bracketSettings (some bracketOptions) .specs).value =
      .ok ⟨[bracketPath], 1, true, false⟩ := by
    have hkept : (prefilterOf bracketSettings bracketOptions .specs).keptOf
        bracketSurroundings.tree bracketSurroundings.cwd [bracketPath] = [bracketPath] := by
      simp [Prefilter.keptOf, keeps_bracketPath]
    rw [value_select_some]
    refine selectWith_eq_ok_iff.mpr ⟨[bracketPath], ?_, ?_, ?_⟩
    · exact discover_bracket (List.pairwise_singleton _ _) (by decide) (by decide +kernel)
    · simp [keeps_bracketPath]
    · rw [amongFound, if_neg (by decide), hkept]
      rfl
  have hnone : (discover bracketSurroundings.tree ⟨["/[a].yaml"], ⟨.root, []⟩, []⟩).value =
      .ok [] := discover_bracket List.Pairwise.nil (by decide) (by decide +kernel)
  refine ⟨?_, hselect, hnone, fun s' hs' => ?_⟩
  · exact narrowSettings_eq_some_iff.mpr ⟨by decide, by decide, _, _, options_bracketSettings, rfl,
      hselect, rfl, rfl, congrArg (fun l => { bracketSettings with patterns := l }) (by decide)⟩
  · -- Nothing is found, so nothing is kept.
    obtain ⟨-, -, o, x, ho, -, hx, hfiltered, hfallback, -⟩ := narrowSettings_eq_some_iff.mp hs'
    obtain ⟨found, hfound, -, rfl⟩ := selectWith_eq_ok_iff.mp (value_select_some ▸ hx)
    change bracketSettings.options = .ok o at ho
    rw [options_bracketSettings] at ho
    cases ho
    obtain rfl : [] = found := Except.ok.inj (hnone.symm.trans hfound)
    exact (files_amongFound hfiltered hfallback).2.2 rfl

end Sieve.Selection
