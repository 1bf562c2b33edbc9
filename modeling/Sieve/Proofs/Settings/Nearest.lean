import Sieve.Proofs.Settings.Malformed
import Sieve.Proofs.Settings.Search

/-!
The file of settings that counts where none is named.

It is the nearest one on the way up from the working directory, if that lies less than ten levels
up. Then it does not matter how far below it the run is. A file that lies higher is not found, and
the settings are those without a file.
-/

namespace Sieve.Settings

open Value Files Log

variable {s : Surroundings} {c p : Path} {given ves file es : List (Value × Value)}
  {settings : Settings}

/-! ### Runs in several directories -/

/-- The same surroundings, but the run is in another directory. -/
def inDirectory (s : Surroundings) (c : Path) : Surroundings := { s with cwd := c }

lemma ConfigFile.load_of_isAbsolute {base : Path} (h : p.isAbsolute = true) :
    ConfigFile.load s.tree c p = ConfigFile.load s.tree base p := by
  unfold ConfigFile.load Tree.bytesAt
  rw [Path.join_of_isAbsolute h, Path.join_of_isAbsolute h]

lemma gather_inDirectory (h : envFile (inDirectory s c) = envFile s) :
    gather (inDirectory s c) given = gather s given := by
  unfold gather
  rw [h]
  rfl

lemma withFoundFile_inDirectory (habsolute : p.isAbsolute = true)
    (hfind : ConfigFile.find? s.tree s.cwd = some p) (hfindc : ConfigFile.find? s.tree c = some p) :
    withFoundFile (inDirectory s c) es = withFoundFile s es := by
  have hsame : ConfigFile.find? (inDirectory s c).tree (inDirectory s c).cwd = some p := hfindc
  have hload : ConfigFile.load (inDirectory s c).tree (inDirectory s c).cwd p =
      ConfigFile.load s.tree s.cwd p := ConfigFile.load_of_isAbsolute habsolute
  unfold withFoundFile
  rw [hsame, hfind]
  rcases ((lookup es Variables.skipKey).getD .null).isTruthy with _ | _
  · simp only [Bool.false_eq_true, if_false, hload]
  · rfl

/-- **The directory does not matter**, as long as the same file is found. -/
theorem load_inDirectory (habsolute : s.cwd.isAbsolute = true)
    (hfind : ConfigFile.find? s.tree s.cwd = some p) (hfindc : ConfigFile.find? s.tree c = some p)
    (henv : envFile (inDirectory s c) = envFile s) :
    load (inDirectory s c) none given = load s none given := by
  have hp : p.isAbsolute = true := ConfigFile.isAbsolute_of_find? habsolute hfind
  change build (inDirectory s c) given = build s given
  unfold build
  simp only [gather_inDirectory henv, withFoundFile_inDirectory hp hfind hfindc]

/-! ### What lies beneath the variables -/

/-- What the nearest file of settings holds if it lies less than ten levels up, and else nothing. -/
inductive LiesBeneath (s : Surroundings) : List (Value × Value) → Prop
  | nearest {d : Nat} {p : Path} {file : List (Value × Value)} : d < 10 →
    IsNearest s.tree s.cwd d p → Holds s.tree s.cwd p file → LiesBeneath s file
  | nothing : (∀ d < 10, ∀ p, ¬ LiesIn s.tree (s.cwd.above d) p) → LiesBeneath s []

lemma LiesBeneath.isBeneath (h : LiesBeneath s file) : IsBeneath s none file := by
  cases h with
  | nearest hd hnearest hholds =>
    exact .found (ConfigFile.find?_eq_some_iff.mpr ⟨_, hd, hnearest⟩)
      (value_load_eq_ok_iff.mpr hholds)
  | nothing h => exact .absent (ConfigFile.find?_eq_none_iff.mpr h)

/-- What is given, what variables say and what lies beneath them are sources of settings. -/
structure AreSources (s : Surroundings) (given ves file : List (Value × Value)) : Prop where
  vars : variableEntries s = .ok ves
  ofGiven : IsSource given
  taken : AreTaken given
  ofVariables : IsSource ves
  ofFile : IsSource file

namespace AreSources

lemma exists_merged (h : AreSources s given ves file) (hbeneath : LiesBeneath s file) :
    ∃ es, IsMerged none given ves file es ∧
      ∀ settings, (load s none given).value = .ok settings ↔ ofEntries es = .ok settings :=
  Settings.exists_merged hbeneath.isBeneath h.vars h.ofGiven h.ofVariables h.ofFile h.taken

/-- Each setting that is loaded is what the source of the highest rank says. -/
lemma holds_ranked (h : AreSources s given ves file) (hbeneath : LiesBeneath s file)
    (hload : (load s none given).value = .ok settings) (x : Setting) :
    x.Holds (x.ranked given ves file) settings := by
  obtain ⟨es, hmerged, hes⟩ := h.exists_merged hbeneath
  have hholds := Setting.holds_of_ofEntries hmerged.sections ((hes settings).mp hload) x
  rw [Setting.valueAt_merged hmerged] at hholds
  exact hholds

lemma exists_load (h : AreSources s given ves file) (hbeneath : LiesBeneath s file)
    (hgiven : IsValid given) (hves : IsValid ves) (hfile : IsValid file) :
    ∃ settings, (load s none given).value = .ok settings := by
  obtain ⟨es, hmerged, hes⟩ := h.exists_merged hbeneath
  obtain ⟨settings, hsettings⟩ := Setting.exists_ofEntries hmerged.sections fun x v =>
    accepts_merged hmerged hgiven hves hfile
  exact ⟨settings, (hes settings).mpr hsettings⟩

end AreSources

/-- **The nearest file of settings counts, up to ten directories.** The search from a directory
finds the file in the nearest of the ten directories on the way up that has one, and nothing if none
of them has one. Settings are loaded if all sources are valid, and each of them is what is given,
what variables say, what that file says, or the default, whichever comes first. Runs in all
directories from which the search finds the same file have the same settings, unless their files of
variables differ. -/
theorem nearest_of_ten_counts :
    (∀ t start p, ConfigFile.find? t start = some p ↔ ∃ d < 10, IsNearest t start d p) ∧
    (∀ t start, ConfigFile.find? t start = none ↔
      ∀ d < 10, ∀ p, ¬ LiesIn t (start.above d) p) ∧
    (∀ s given ves file, LiesBeneath s file → AreSources s given ves file →
      (IsValid given → IsValid ves → IsValid file →
        ∃ settings, (load s none given).value = .ok settings) ∧
      ∀ settings, (load s none given).value = .ok settings →
        ∀ x : Setting, x.Holds (x.ranked given ves file) settings) ∧
    (∀ s c given p d e, s.cwd.isAbsolute = true →
      d < 10 → IsNearest s.tree s.cwd d p → e < 10 → IsNearest s.tree c e p →
      envFile (inDirectory s c) = envFile s →
      load (inDirectory s c) none given = load s none given) := by
  refine ⟨fun t start p => ConfigFile.find?_eq_some_iff,
    fun t start => ConfigFile.find?_eq_none_iff, fun s given ves file hbeneath h =>
      ⟨h.exists_load hbeneath, fun settings => h.holds_ranked hbeneath⟩, ?_⟩
  intro s c given p d e habsolute hd hnearest he hnearestc henv
  have hfind : ConfigFile.find? s.tree s.cwd = some p :=
    ConfigFile.find?_eq_some_iff.mpr ⟨d, hd, hnearest⟩
  have hfindc : ConfigFile.find? s.tree c = some p :=
    ConfigFile.find?_eq_some_iff.mpr ⟨e, he, hnearestc⟩
  exact load_inDirectory habsolute hfind hfindc henv

/-! ### A run nine directories below the file, and one ten below it -/

/-- A file of settings in the topmost directory, and a run so many directories below it. -/
def deepBelow (n : Nat) : Surroundings :=
  let names := List.replicate n "a"
  let file := ("specgrep.config.yaml", Tree.file (Text.Utf8.encode "parallel_workers: 4\n"))
  ⟨(Tree.dir [file]).put names (.dir []), ⟨.root, names⟩, []⟩

/-- The file nine levels up counts, as it does where it lies. -/
theorem counts_nine_levels_up :
    IsNearest (deepBelow 9).tree (deepBelow 9).cwd 9 filePath ∧
    ConfigFile.find? (deepBelow 9).tree (deepBelow 9).cwd = some filePath ∧
    (∃ settings, (load (deepBelow 9) none []).value = .ok settings ∧ settings.workers = 4) ∧
    load (inDirectory (deepBelow 9) ⟨.root, []⟩) none [] = load (deepBelow 9) none [] := by
  obtain ⟨hfound, -, hsettings, hsame⟩ := nearest_of_ten_counts
  have hnearest : IsNearest (deepBelow 9).tree (deepBelow 9).cwd 9 filePath := by decide +kernel
  obtain ⟨w, hload, hw⟩ := @exists_workers _
    (ConfigFile.load (deepBelow 9).tree (deepBelow 9).cwd filePath).value 4 (by decide +kernel)
  refine ⟨hnearest, (hfound _ _ _).mpr ⟨9, by omega, hnearest⟩, ?_, ?_⟩
  · have hsources : AreSources (deepBelow 9) [] [] [(.str "parallel_workers", w)] :=
      ⟨HasNoVariables.variableEntries_eq ⟨List.forall_mem_nil _, [], by rfl, List.forall_mem_nil _⟩,
        isSource_nil, areTaken_nil, isSource_nil, isSource_workers⟩
    obtain ⟨hloads, hholds⟩ := hsettings (deepBelow 9) [] [] _
      (.nearest (by omega) hnearest (value_load_eq_ok_iff.mp hload)) hsources
    obtain ⟨settings, hloaded⟩ := hloads isValid_nil isValid_nil (isValid_workers hw)
    have hworkers := hholds settings hloaded .workers
    exact ⟨settings, hloaded, Except.ok.inj (hworkers.symm.trans hw)⟩
  · exact hsame (deepBelow 9) ⟨.root, []⟩ [] filePath 9 0 (by decide) (by omega) hnearest
      (by omega) (by decide +kernel) (by decide +kernel)

/-- The file ten levels up is the nearest one, but is not found, though it says four workers. -/
theorem missed_ten_levels_up :
    IsNearest (deepBelow 10).tree (deepBelow 10).cwd 10 filePath ∧
    ConfigFile.find? (deepBelow 10).tree (deepBelow 10).cwd = none ∧
    (load (deepBelow 10) none []).value.toOption.map (·.workers) = some 8 ∧
    (load (deepBelow 10) (some filePath) []).value.toOption.map (·.workers) = some 4 := by
  refine ⟨?_, ?_, ?_, ?_⟩ <;> decide +kernel

end Sieve.Settings
