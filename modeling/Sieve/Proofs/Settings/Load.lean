import Sieve.Proofs.Log.Logged
import Sieve.Proofs.Schema.Read
import Sieve.Proofs.Settings.Parameter

/-!
How settings are loaded where a file of settings lies.

The file may be named, or found. Either way the settings are read from one mapping: what is given,
what variables give and what the file holds, merged.
-/

namespace Sieve.Settings

open Value Files Schema Log

variable {s : Surroundings} {path : Option Path} {given file ves es es' env : List (Value × Value)}
  {settings : Settings} {k : String}

/-! ### Settings from entries -/

lemma ofEntries_eq_ok_iff : ofEntries es = .ok settings ↔
    Read.field es "spec_pattern" readPatterns [] = .ok settings.patterns ∧
    Read.field es "exclude_spec_pattern" readPatterns [] = .ok settings.excludes ∧
    Read.field es "parallel_workers" (Read.integerWithin 1 64) 8 = .ok settings.workers ∧
    Read.field es "env" (Read.dictionary fun v => .ok v) [] = .ok settings.env ∧
    Read.field es "logging" LogSettings.read .default = .ok settings.logging := by
  unfold ofEntries
  simp only [map_eq_ok_iff, both_eq_ok_iff, Prod.exists]
  constructor
  · rintro ⟨patterns, excludes, workers, env, logging,
      ⟨⟨hpatterns, hexcludes⟩, hworkers, henv, hlogging⟩, rfl⟩
    exact ⟨hpatterns, hexcludes, hworkers, henv, hlogging⟩
  · rintro ⟨hpatterns, hexcludes, hworkers, henv, hlogging⟩
    exact ⟨_, _, _, _, _, ⟨⟨hpatterns, hexcludes⟩, hworkers, henv, hlogging⟩, rfl⟩

/-- Settings keep an environment from texts as it is. -/
lemma envEntries_eq (h : ofEntries es = .ok settings) (henv : lookup es "env" = some (.map env))
    (htext : IsTextMapping env) : settings.envEntries = env := by
  obtain ⟨l, hl, hmap⟩ := exists_dictionary htext
  have hread := (ofEntries_eq_ok_iff.mp h).2.2.2.1
  unfold Read.field at hread
  rw [henv] at hread
  dsimp only at hread
  rw [at_eq_ok_iff, hl] at hread
  rw [envEntries, ← Except.ok.inj hread]
  exact hmap

/-- **Another environment** leaves all other settings as they are. -/
theorem exists_ofEntries_of_rest (h : ofEntries es = .ok settings) (hrest : rest es' = rest es)
    (henv : lookup es' "env" = some (.map env)) (htext : IsTextMapping env) :
    ∃ l, ofEntries es' = .ok { settings with env := l } := by
  obtain ⟨l, hl, -⟩ := exists_dictionary htext
  have hlookup : ∀ k, Text.lower k ≠ "env" → lookup es' k = lookup es k := by
    intro k hk
    rw [← lookup_rest hk, hrest, lookup_rest hk]
  obtain ⟨hpatterns, hexcludes, hworkers, -, hlogging⟩ := ofEntries_eq_ok_iff.mp h
  refine ⟨l, ofEntries_eq_ok_iff.mpr ⟨?_, ?_, ?_, ?_, ?_⟩⟩
  · rwa [field_congr (hlookup _ (by decide))]
  · rwa [field_congr (hlookup _ (by decide))]
  · rwa [field_congr (hlookup _ (by decide))]
  · unfold Read.field
    rw [henv]
    exact at_eq_ok_iff.mpr hl
  · rwa [field_congr (hlookup _ (by decide))]

/-! ### Files of settings -/

/-- The settings are loaded with a file of settings: one that is named, or one that is found. No
key in it, or among the variables `ves`, keeps it from being read. -/
inductive HasFile (s : Surroundings) (ves : List (Value × Value)) :
    Option Path → List (Value × Value) → Prop
  | named {p : Path} {file : List (Value × Value)} : s.tree.existsAt s.cwd p = true →
    (ConfigFile.load s.tree s.cwd p).value = .ok file → lookup file Variables.skipKey = none →
    HasFile s ves (some p) file
  | found {p : Path} {file : List (Value × Value)} : ConfigFile.find? s.tree s.cwd = some p →
    (ConfigFile.load s.tree s.cwd p).value = .ok file → lookup ves Variables.skipKey = none →
    HasFile s ves none file

/-- What is given over a file that is named; of the environment the entries are merged. -/
def overNamed (file given : List (Value × Value)) : List (Value × Value) :=
  match lookup file "env", lookup given "env" with
  | some (.map below), some (.map above) =>
    put (overlay file given) "env" (.map (overlay below above))
  | _, _ => overlay file given

/-- What is passed on as given. -/
def passed (path : Option Path) (file given : List (Value × Value)) : List (Value × Value) :=
  match path with
  | none => given
  | some _ => overlay [(.str Variables.skipKey, .bool true)] (overNamed file given)

/-- The entries that settings are read from. -/
def merged (path : Option Path) (file ves given : List (Value × Value)) : List (Value × Value) :=
  let es := deepEntries (renameGiven (passed path file given)) ves
  match path with
  | none => mergeFile file es
  | some _ => es

lemma value_build_of_fault {f : LoadFault} (h : givenFault? given = some f) :
    (build s given).value = .error f := by
  unfold build
  rw [h]
  rfl

lemma value_build_of_late {message : String} (h : givenFault? given = none)
    (hlate : Parameter.lateRefusal? given = some message) :
    (build s given).value = (gather s given).bind fun _ => .error (.parameter message) := by
  unfold build
  rw [h, hlate]
  rcases gather s given with f | es <;> rfl

lemma value_build (h : AreTaken given) : (build s given).value =
    (gather s given).bind fun es =>
      (withFoundFile s es).value.bind fun es => (ofEntries es).mapError .invalid := by
  unfold build
  rw [(areTaken_iff.mp h).1, h.notRefusedLate]
  rcases gather s given with f | es
  · rfl
  · dsimp only [Except.bind]
    rw [Logged.value_bind]
    rcases (withFoundFile s es).value with f | es' <;> rfl

lemma build_eq_ok_iff (hves : variableEntries s = .ok ves) :
    (build s given).value = .ok settings ↔
      AreTaken given ∧
        ∃ es, (withFoundFile s (deepEntries (renameGiven given) ves)).value = .ok es ∧
          ofEntries es = .ok settings := by
  rcases hfault : givenFault? given with _ | f
  · rcases hlate : Parameter.lateRefusal? given with _ | message
    · have htaken : AreTaken given := areTaken_iff.mpr ⟨hfault, hlate⟩
      rw [value_build htaken, gather_eq, hves]
      change (withFoundFile s (deepEntries (renameGiven given) ves)).value.bind _ = _ ↔ _
      simp only [bind_eq_ok_iff, mapError_eq_ok_iff, htaken, true_and]
    · rw [value_build_of_late hfault hlate]
      refine iff_of_false (by simp [bind_eq_ok_iff]) fun h => ?_
      rw [h.1.notRefusedLate] at hlate
      cases hlate
  · rw [value_build_of_fault hfault]
    refine iff_of_false (by simp) fun h => ?_
    rw [(areTaken_iff.mp h.1).1] at hfault
    cases hfault

/-- No file is read but the one that is named. -/
lemma withFoundFile_of_skip (h : lookup es Variables.skipKey = some (.bool true)) :
    (withFoundFile s es).value = .ok es := by
  unfold withFoundFile
  rw [h]
  rfl

lemma withFoundFile_of_found {p : Path} (hskip : lookup es Variables.skipKey = none)
    (hfind : ConfigFile.find? s.tree s.cwd = some p)
    (hload : (ConfigFile.load s.tree s.cwd p).value = .ok file) :
    (withFoundFile s es).value = .ok (mergeFile file es) := by
  unfold withFoundFile
  simp only [hskip, hfind, Option.getD_none, isTruthy, Bool.false_eq_true, if_false]
  rw [Logged.value_bind, hload]
  rfl

/-! ### Entries given -/

lemma hasDistinctKeys_overNamed (h : HasDistinctKeys file) :
    HasDistinctKeys (overNamed file given) := by
  unfold overNamed
  split
  · exact h.overlay.put
  · exact h.overlay

lemma lookup_overNamed (hk : k ≠ "env") (hgiven : HasDistinctKeys given) :
    lookup (overNamed file given) k = (lookup given k).or (lookup file k) := by
  unfold overNamed
  split
  · rw [lookup_put, if_neg hk.symm, lookup_overlay hgiven]
  · rw [lookup_overlay hgiven]

lemma hasDistinctKeys_passed_named {p : Path} : HasDistinctKeys (passed (some p) file given) :=
  HasDistinctKeys.overlay (List.nodup_singleton Variables.skipKey)

lemma HasFile.isFilled (h : HasFile s ves path file) : IsFilled file := by
  cases h with
  | named _ hload _ => exact isFilled_of_load hload
  | found _ hload _ => exact isFilled_of_load hload

/-- The file that is named is read, and with it no other one. -/
lemma value_load_named {p : Path} (hexists : s.tree.existsAt s.cwd p = true)
    (hload : (ConfigFile.load s.tree s.cwd p).value = .ok file) :
    (load s (some p) given).value = (build s (passed (some p) file given)).value := by
  unfold load
  simp only [hexists, Bool.not_true, Bool.false_eq_true, if_false]
  rw [Logged.value_bind, hload]
  rfl

lemma lookup_passed_skipKey {p : Path} (hfile : HasDistinctKeys file)
    (hgiven : HasDistinctKeys given) (hskip : lookup given Variables.skipKey = none) :
    lookup (passed (some p) file given) Variables.skipKey =
      (lookup file Variables.skipKey).or (some (.bool true)) := by
  unfold passed
  rw [lookup_overlay (hasDistinctKeys_overNamed hfile), lookup_overNamed (by decide) hgiven, hskip,
    Option.none_or]
  rfl

lemma lookup_merged_skipKey {p : Path} (hfile : HasDistinctKeys file)
    (hgiven : HasDistinctKeys given) (hnoSkip : lookup file Variables.skipKey = none)
    (hskip : lookup given Variables.skipKey = none) :
    lookup (merged (some p) file ves given) Variables.skipKey = some (.bool true) := by
  change lookup (deepEntries _ _) _ = _
  rw [lookup_deepEntries hasDistinctKeys_renameGiven,
    lookup_renameGiven_skipKey hasDistinctKeys_passed_named,
    lookup_passed_skipKey hfile hgiven hskip, hnoSkip]
  simp [over?, deepOver]

namespace HasFile

lemma value_load (h : HasFile s ves path file) :
    (load s path given).value = (build s (passed path file given)).value := by
  cases h with
  | named hexists hload _ => exact value_load_named hexists hload
  | found _ _ _ => rfl

/-- Once the file is merged, no other one is. -/
lemma withFoundFile (h : HasFile s ves path file) (hgiven : HasDistinctKeys given)
    (hskip : lookup given Variables.skipKey = none) :
    (withFoundFile s (deepEntries (renameGiven (passed path file given)) ves)).value =
      .ok (merged path file ves given) := by
  have hdistinct := h.isFilled.1
  cases h with
  | named _ _ hnoSkip =>
    exact withFoundFile_of_skip (lookup_merged_skipKey hdistinct hgiven hnoSkip hskip)
  | found hfind hload hnoSkip =>
    refine withFoundFile_of_found ?_ hfind hload
    change lookup (deepEntries (renameGiven given) ves) Variables.skipKey = none
    rw [lookup_deepEntries hasDistinctKeys_renameGiven, lookup_renameGiven_skipKey hgiven, hskip,
      hnoSkip]
    rfl

end HasFile

/-- **Settings are read from one mapping**, in which all that is given is merged. -/
theorem load_eq_ok_iff (hfile : HasFile s ves path file) (hves : variableEntries s = .ok ves)
    (hgiven : HasDistinctKeys given) (hskip : lookup given Variables.skipKey = none) :
    (load s path given).value = .ok settings ↔
      AreTaken (passed path file given) ∧
        ofEntries (merged path file ves given) = .ok settings := by
  rw [hfile.value_load, build_eq_ok_iff hves, hfile.withFoundFile hgiven hskip]
  simp

/-- Without settings, the faults are those of the mapping. -/
lemma value_load_of_taken (hfile : HasFile s ves path file) (hves : variableEntries s = .ok ves)
    (hgiven : HasDistinctKeys given) (hskip : lookup given Variables.skipKey = none)
    (htaken : AreTaken (passed path file given)) :
    (load s path given).value = (ofEntries (merged path file ves given)).mapError .invalid := by
  have hbuild := hfile.withFoundFile hgiven hskip
  rw [hfile.value_load, value_build htaken, gather_eq, hves]
  change (Settings.withFoundFile s _).value.bind _ = _
  rw [hbuild]
  rfl

end Sieve.Settings
