import Sieve.Proofs.Settings.Faults
import Sieve.Proofs.Settings.Precedence
import Sieve.Proofs.Settings.Search

/-!
A file of settings that is named, and the same file found.

Without variables both ways read the file beneath what is given. A file that is found is merged
section by section, but of one that is named only the environment is, and only with another mapping.
So the two ways agree unless a section is lost to one that is given: the whole section where that is
no mapping, or else what it alone says of the log. A file that cannot be loaded, or that has a key
that is no text or a parameter that is refused, fails without a report if it is named. If it is
found, such a key is passed over.
-/

namespace Sieve.Settings

open Value Files Schema

variable {s : Surroundings} {p q : Path} {given file es : List (Value × Value)} {part k : String}

/-! ### Runs without variables -/

/-- The variable is not named as variables for settings are, nor is it the key that keeps files from
being read. -/
def IsOther (name : String) : Prop :=
  ¬ Variables.start.toList <+: (Text.lower name).toList ∧ Text.lower name ≠ Variables.skipKey

/-- The file of variables can be read, if there is one, and no variable is one for settings. -/
structure HasNoVariables (s : Surroundings) : Prop where
  process : ∀ e ∈ s.environment, IsOther e.1
  file : ∃ bindings, envFile s = .ok bindings ∧ ∀ b ∈ bindings, IsOther b.1

lemma HasNoVariables.variableEntries_eq (h : HasNoVariables s) : variableEntries s = .ok [] := by
  have hentries : ∀ {source} {l : List EnvFile.Binding}, (∀ b ∈ l, IsOther b.1) →
      Variables.entries source (.ofBindings l) = .ok [] := fun {source l} hl =>
    Variables.entries_of_unnamed (Variables.ofBindings_names
      (P := fun n => ¬ Variables.start.toList <+: n.toList ∧ n ≠ Variables.skipKey) hl)
  have hprocess : ∀ b ∈ s.environment.map fun e => (e.1, some e.2), IsOther b.1 := by
    intro b hb
    obtain ⟨e, he, rfl⟩ := List.mem_map.mp hb
    exact h.process e he
  obtain ⟨bindings, hfile, hbindings⟩ := h.file
  unfold variableEntries
  rw [hfile]
  change ((Variables.entries .process (processTable s)).mapError LoadFault.source).bind _ = _
  rw [processTable, hentries hprocess]
  change ((Variables.entries .file (.ofBindings bindings)).mapError LoadFault.source).bind _ = _
  rw [hentries hbindings]
  rfl

/-! ### Paths to one file -/

/-- A path leads to the file of settings that is found. -/
structure LeadsToFound (s : Surroundings) (q p : Path) : Prop where
  absolute : s.cwd.isAbsolute = true
  found : ConfigFile.find? s.tree s.cwd = some p
  same : s.tree.find (s.cwd.join q) = s.tree.find p

namespace LeadsToFound

lemma join_found (h : LeadsToFound s q p) : s.cwd.join p = p :=
  Path.join_of_isAbsolute (ConfigFile.isAbsolute_of_find? h.absolute h.found)

lemma existsAt (h : LeadsToFound s q p) : s.tree.existsAt s.cwd q = true := by
  have hsome := List.find?_some h.found
  unfold Tree.existsAt Tree.find?
  rw [h.same]
  exact hsome

lemma load_eq (h : LeadsToFound s q p) :
    (ConfigFile.load s.tree s.cwd q).value = (ConfigFile.load s.tree s.cwd p).value := by
  have hread : s.tree.read (s.cwd.join q) = s.tree.read (s.cwd.join p) := by
    unfold Tree.read
    rw [h.same, h.join_found]
  unfold ConfigFile.load Tree.bytesAt
  rw [hread]
  rcases s.tree.read (s.cwd.join p) with f | bytes
  · rfl
  · dsimp only [Except.mapError]
    unfold ConfigFile.entriesOf
    rcases readDocument bytes with f | v
    · cases f <;> rfl
    · cases v <;> rfl

end LeadsToFound

/-! ### What both ways merge -/

/-- Each key stands once, settings are named in small letters, and nothing keeps files from being
read. -/
structure IsPlain (es : List (Value × Value)) : Prop where
  distinct : HasDistinctKeys es
  names : NamesSettings es
  noSkip : lookup es Variables.skipKey = none

/-- What is given by keywords: its keys are texts and no parameters, and no mapping has a key
twice. -/
structure IsKeywords (es : List (Value × Value)) : Prop extends IsPlain es where
  text : HasTextKeys es
  noParameters : HasNoParameters es
  inner : ∀ k inner, lookup es k = some (.map inner) → HasDistinctKeys inner

section Merged

variable (hgiven : IsPlain given)
include hgiven

lemma lookup_alone : lookup (deepEntries (renameGiven given) []) k = lookup given k := by
  rw [lookup_over hgiven.distinct hgiven.names]
  exact over?_none_right

/-- A setting by itself is the same both ways. -/
lemma lookup_found_of_not_part (hk : k ∉ parts) :
    lookup (merged none file [] given) k = (lookup given k).or (lookup file k) := by
  have hes : HasDistinctKeys (deepEntries (renameGiven given) []) :=
    hasDistinctKeys_nil.deepEntries
  change lookup (mergeFile file (deepEntries (renameGiven given) [])) k = _
  rw [lookup_mergeFile_of_not_part hes hk, lookup_alone hgiven]

/-- A section of a file that is found lies beneath the one that is given. -/
lemma lookup_found_of_map {below : List (Value × Value)} (hpart : part ∈ parts)
    (hbelow : lookup file part = some (.map below)) :
    lookup (merged none file [] given) part = some (.map (overlay below (partOf given part))) := by
  have hsame : partOf (deepEntries (renameGiven given) []) part = partOf given part :=
    partOf_congr (lookup_alone hgiven)
  rw [← hsame]
  change lookup (mergeFile file (deepEntries (renameGiven given) [])) part = _
  rw [mergeFile_eq]
  rcases mem_parts_iff.mp hpart with rfl | rfl
  · rw [lookup_mergePart_of_ne (by decide), mergePart, hbelow]
    dsimp only
    rw [lookup_put, if_pos rfl]
    rfl
  · rw [mergePart, hbelow]
    dsimp only
    rw [lookup_put, if_pos rfl]
    rfl

/-- What is no section lies there as any setting does. -/
lemma lookup_found_of_ne_map (hpart : part ∈ parts)
    (hfile : ∀ below, lookup file part ≠ some (.map below)) :
    lookup (merged none file [] given) part = (lookup given part).or (lookup file part) := by
  have hes : HasDistinctKeys (deepEntries (renameGiven given) []) :=
    hasDistinctKeys_nil.deepEntries
  have hstays : ∀ acc, mergePart file (deepEntries (renameGiven given) []) acc part = acc := by
    intro acc
    unfold mergePart
    split
    · exact absurd ‹_› (hfile _)
    · rfl
  have hoverlay : lookup (overlay file (deepEntries (renameGiven given) [])) part =
      (lookup given part).or (lookup file part) := by
    rw [lookup_overlay hes, lookup_alone hgiven]
  change lookup (mergeFile file (deepEntries (renameGiven given) [])) part = _
  rw [mergeFile_eq]
  rcases mem_parts_iff.mp hpart with rfl | rfl
  · rw [lookup_mergePart_of_ne (by decide), hstays, hoverlay]
  · rw [hstays, lookup_mergePart_of_ne (by decide), hoverlay]

variable (hfile : IsPlain file)
include hfile

lemma lookup_named (hk : k ≠ Variables.skipKey) :
    lookup (merged (some q) file [] given) k = lookup (overNamed file given) k := by
  change lookup (deepEntries (renameGiven (passed (some q) file given)) []) k = _
  rw [lookup_over hasDistinctKeys_passed_named
    (namesSettings_passed hgiven.distinct hgiven.names hfile.distinct hfile.names),
    lookup_passed hfile.distinct hk]
  exact over?_none_right

/-- The environment of a file that is named lies beneath a mapping that is given. -/
lemma lookup_named_env {below above : List (Value × Value)}
    (hbelow : lookup file "env" = some (.map below))
    (habove : lookup given "env" = some (.map above)) :
    lookup (merged (some q) file [] given) "env" = some (.map (overlay below above)) := by
  rw [lookup_named hgiven hfile (by decide), overNamed, hbelow, habove]
  dsimp only
  rw [lookup_put, if_pos rfl]

/-- Any other section of it is hidden. -/
lemma lookup_named_of_not_both (hk : k ≠ Variables.skipKey)
    (hnot : k = "env" → ∀ below above, lookup file "env" = some (.map below) →
      lookup given "env" ≠ some (.map above)) :
    lookup (merged (some q) file [] given) k = (lookup given k).or (lookup file k) := by
  rw [lookup_named hgiven hfile hk]
  by_cases henv : k = "env"
  · unfold overNamed
    split
    · rename_i below above hbelow habove
      exact absurd habove (hnot henv below above hbelow)
    · exact lookup_overlay hgiven.distinct
  · exact lookup_overNamed_of_ne hgiven.distinct henv

end Merged

/-! ### What is lost -/

/-- The settings of which no source says anything. -/
def blank : Settings := ⟨[], [], 8, [], LogSettings.default⟩

/-- Nothing of a file that is named is lost to what is given. A section that lies over one of the
file is a mapping, and what is said of the log in the file alone is the default. -/
structure NothingIsLost (given file : List (Value × Value)) : Prop where
  sections : ∀ part ∈ parts, ∀ below v, lookup file part = some (.map below) →
    lookup given part = some v → ∃ above, v = .map above
  log : ∀ x : Setting, x.section? = some "logging" → lookup given "logging" ≠ none →
    x.valueAt given = none → x.Holds (x.valueAt file) blank

end Sieve.Settings

namespace Sieve.Setting

open Value Settings Schema

variable {x : Setting} {v : Option Value} {settings : Settings} {es : List (Value × Value)}

lemma holds_none_blank (x : Setting) : x.Holds none blank := holds_none x

/-- A value that is read as the default says no more than no value. -/
lemma holds_none_of_blank (hblank : x.Holds v blank) (h : x.Holds v settings) :
    x.Holds none settings := by
  cases x with
  | env key =>
    change settings.env.lookup key = none
    change settings.env.lookup key = v at h
    rw [h]
    exact hblank.symm
  | _ => exact hblank.symm.trans h

lemma holds_blank_iff (h : x.Holds none settings) : x.Holds v blank ↔ x.Holds v settings := by
  cases x with
  | env key =>
    change settings.env.lookup key = none at h
    change none = v ↔ settings.env.lookup key = v
    rw [h]
  | _ =>
    exact ⟨fun hv => hv.trans h, fun hv => hv.trans h.symm⟩

/-- What concerns the log is read setting by setting. -/
lemma read_log_iff : LogSettings.read (.map es) = .ok settings.logging ↔
    ∀ x : Setting, x.section? = some "logging" → x.Holds (lookup es x.key) settings := by
  rw [LogSettings.read_map_eq_ok_iff]
  constructor
  · rintro ⟨hlevel, hjson, hfile, hmodules⟩ x hx
    cases x with
    | level => exact hlevel
    | json => exact hjson
    | file => exact hfile
    | moduleLevels => exact hmodules
    | env key => simp [section?] at hx
    | patterns | excludes | workers => cases hx
  · intro h
    exact ⟨h .level rfl, h .json rfl, h .file rfl, h .moduleLevels rfl⟩

end Sieve.Setting

namespace Sieve.Settings

open Value Files Schema

variable {s : Surroundings} {p q : Path} {given file : List (Value × Value)} {settings : Settings}

/-- The log of a file that is found says what is not given. -/
lemma read_found_logging_iff (hgiven : IsKeywords given) {above below : List (Value × Value)}
    (habove : lookup given "logging" = some (.map above))
    (hbelow : lookup file "logging" = some (.map below)) :
    Read.field (merged none file [] given) "logging" LogSettings.read .default =
        .ok settings.logging ↔
      ∀ x : Setting, x.section? = some "logging" →
        x.Holds ((lookup above x.key).or (lookup below x.key)) settings := by
  have hdistinct : HasDistinctKeys above := hgiven.inner _ above habove
  rw [field_eq_ok_iff, lookup_found_of_map hgiven.toIsPlain (by decide) hbelow,
    partOf_eq habove]
  change LogSettings.read (.map (overlay below above)) = _ ↔ _
  rw [Setting.read_log_iff]
  simp only [lookup_overlay hdistinct]

section Compared

variable (hgiven : IsKeywords given) (hfile : IsPlain file)
include hgiven hfile

/-- Where nothing is lost, the environment is the same both ways. -/
lemma lookup_env_eq (h : NothingIsLost given file) :
    lookup (merged (some q) file [] given) "env" = lookup (merged none file [] given) "env" := by
  by_cases hmap : ∃ below, lookup file "env" = some (.map below)
  · obtain ⟨below, hbelow⟩ := hmap
    rw [lookup_found_of_map hgiven.toIsPlain (by decide) hbelow]
    rcases habove : lookup given "env" with _ | v
    · rw [lookup_named_of_not_both hgiven.toIsPlain hfile (by decide)
        (fun _ _ _ _ => by simp [habove]), habove, partOf_eq_nil habove, Option.none_or, hbelow]
      rfl
    · obtain ⟨above, rfl⟩ := h.sections "env" (by decide) below v hbelow habove
      rw [lookup_named_env hgiven.toIsPlain hfile hbelow habove, partOf_eq habove]
  · rw [not_exists] at hmap
    rw [lookup_found_of_ne_map hgiven.toIsPlain (by decide) hmap,
      lookup_named_of_not_both hgiven.toIsPlain hfile (by decide)
        (fun _ below _ hbelow => absurd hbelow (hmap below))]

lemma lookup_named_logging : lookup (merged (some q) file [] given) "logging" =
    (lookup given "logging").or (lookup file "logging") :=
  lookup_named_of_not_both hgiven.toIsPlain hfile (by decide)
    fun henv => absurd henv (by decide)

/-- That of a file that is named does not. -/
lemma read_named_logging_iff {above : List (Value × Value)}
    (habove : lookup given "logging" = some (.map above)) :
    Read.field (merged (some q) file [] given) "logging" LogSettings.read .default =
        .ok settings.logging ↔
      ∀ x : Setting, x.section? = some "logging" → x.Holds (lookup above x.key) settings := by
  rw [field_eq_ok_iff, lookup_named_logging hgiven hfile, habove]
  exact Setting.read_log_iff

/-- Where nothing is lost, the log is the same both ways. -/
lemma read_logging_iff (h : NothingIsLost given file) :
    Read.field (merged (some q) file [] given) "logging" LogSettings.read .default =
        .ok settings.logging ↔
      Read.field (merged none file [] given) "logging" LogSettings.read .default =
        .ok settings.logging := by
  by_cases hmap : ∃ below, lookup file "logging" = some (.map below)
  · obtain ⟨below, hbelow⟩ := hmap
    rcases habove : lookup given "logging" with _ | v
    · rw [field_eq_ok_iff, field_eq_ok_iff, lookup_named_logging hgiven hfile,
        lookup_found_of_map hgiven.toIsPlain (by decide) hbelow, habove, partOf_eq_nil habove,
        Option.none_or, hbelow]
      rfl
    · obtain ⟨above, rfl⟩ := h.sections "logging" (by decide) below v hbelow habove
      rw [read_found_logging_iff hgiven habove hbelow,
        read_named_logging_iff hgiven hfile habove]
      refine forall₂_congr fun x hx => ?_
      rcases hv : lookup above x.key with _ | v
      · -- The file alone says something, and that is the default.
        have hblank : x.Holds (lookup below x.key) blank := by
          have hlog := h.log x hx (by simp [habove])
          simp only [Setting.valueAt, hx, partOf_eq habove, partOf_eq hbelow] at hlog
          exact hlog hv
        rw [Option.none_or]
        exact ⟨fun hnone => (Setting.holds_blank_iff hnone).mp hblank,
          Setting.holds_none_of_blank hblank⟩
      · rfl
  · rw [not_exists] at hmap
    rw [field_eq_ok_iff, field_eq_ok_iff, lookup_named_logging hgiven hfile,
      lookup_found_of_ne_map hgiven.toIsPlain (by decide) hmap]

/-- A setting that stands by itself is the same both ways, whatever is lost. -/
lemma lookup_by_itself_eq {k : String} (hk : k ∉ parts) (hskip : k ≠ Variables.skipKey) :
    lookup (merged (some q) file [] given) k = lookup (merged none file [] given) k := by
  rw [lookup_found_of_not_part hgiven.toIsPlain hk,
    lookup_named_of_not_both hgiven.toIsPlain hfile hskip]
  rintro rfl
  exact absurd (by decide) hk

/-- **Where nothing is lost**, both ways give the same settings. -/
theorem ofEntries_iff (h : NothingIsLost given file) :
    ofEntries (merged (some q) file [] given) = .ok settings ↔
      ofEntries (merged none file [] given) = .ok settings := by
  have hitself : ∀ k, k ∉ parts → k ≠ Variables.skipKey →
      lookup (merged (some q) file [] given) k = lookup (merged none file [] given) k :=
    fun k => lookup_by_itself_eq hgiven hfile
  rw [ofEntries_eq_ok_iff, ofEntries_eq_ok_iff,
    read_logging_iff hgiven hfile h,
    field_congr (hitself "spec_pattern" (by decide) (by decide)),
    field_congr (hitself "exclude_spec_pattern" (by decide) (by decide)),
    field_congr (hitself "parallel_workers" (by decide) (by decide)),
    field_congr (lookup_env_eq hgiven hfile h)]

/-- What lies over a section of a file that is named has to be a mapping. -/
lemma exists_map_of_ofEntries (h : ofEntries (merged (some q) file [] given) = .ok settings)
    {part : String} (hpart : part ∈ parts) {v : Value} (hv : lookup given part = some v) :
    ∃ above, v = .map above := by
  by_contra hnot
  rw [not_exists] at hnot
  obtain ⟨-, -, -, henv, hlogging⟩ := ofEntries_eq_ok_iff.mp h
  rw [field_eq_ok_iff] at henv hlogging
  rcases mem_parts_iff.mp hpart with rfl | rfl
  · rw [lookup_named_of_not_both hgiven.toIsPlain hfile (by decide)
      (fun _ _ above _ => by simpa [hv] using hnot above), hv] at henv
    change Read.dictionary _ v = _ at henv
    cases v with
    | map above => exact hnot above rfl
    | _ => cases henv
  · rw [lookup_named_logging hgiven hfile, hv] at hlogging
    change LogSettings.read v = _ at hlogging
    cases v with
    | map above => exact hnot above rfl
    | _ => cases hlogging

/-- **Where both ways give the same settings**, nothing is lost. -/
theorem nothingIsLost_of_ofEntries
    (hnamed : ofEntries (merged (some q) file [] given) = .ok settings)
    (hfound : ofEntries (merged none file [] given) = .ok settings) : NothingIsLost given file := by
  have hmaps : ∀ part ∈ parts, ∀ v, lookup given part = some v → ∃ above, v = .map above :=
    fun part hpart v => exists_map_of_ofEntries hgiven hfile hnamed hpart
  refine ⟨fun part hpart _ v _ => hmaps part hpart v, fun x hx hgivenLog hnone => ?_⟩
  obtain ⟨v, hv⟩ := Option.ne_none_iff_exists'.mp hgivenLog
  obtain ⟨above, rfl⟩ := hmaps "logging" (by decide) v hv
  simp only [Setting.valueAt, hx, partOf_eq hv] at hnone ⊢
  by_cases hmap : ∃ below, lookup file "logging" = some (.map below)
  · obtain ⟨below, hbelow⟩ := hmap
    have hread := (ofEntries_eq_ok_iff.mp hnamed).2.2.2.2
    have hreadFound := (ofEntries_eq_ok_iff.mp hfound).2.2.2.2
    rw [read_named_logging_iff hgiven hfile hv] at hread
    rw [read_found_logging_iff hgiven hv hbelow] at hreadFound
    have hdefault := hread x hx
    have hbeneath := hreadFound x hx
    rw [hnone] at hdefault hbeneath
    rw [partOf_eq hbelow]
    exact (Setting.holds_blank_iff hdefault).mpr hbeneath
  · have hnil : partOf file "logging" = [] := by
      rw [not_exists] at hmap
      unfold partOf
      rcases hlookup : lookup file "logging" with _ | w
      · rfl
      · cases w with
        | map below => exact absurd hlookup (hmap below)
        | _ => rfl
    rw [hnil]
    exact Setting.holds_none_blank x

end Compared

/-! ### Both ways -/

/-- Two ways to settings agree: both give the same, or both are refused with a report. -/
def Agree (a b : Except LoadFault Settings) : Prop :=
  (∃ f g, a = .error f ∧ b = .error g ∧ f.IsReported ∧ g.IsReported) ∨
    ∃ settings, a = .ok settings ∧ b = .ok settings

lemma agree_of_issues_iff {a b : Read Settings} :
    Agree (a.mapError .invalid) (b.mapError .invalid) ↔
      (∃ settings, a = .ok settings ∧ b = .ok settings) ∨
        ∀ settings, a ≠ .ok settings ∧ b ≠ .ok settings := by
  unfold Agree
  rcases a with e | x <;> rcases b with e' | y
  · simp [Except.mapError, LoadFault.IsReported]
  · simp [Except.mapError]
  · simp [Except.mapError]
  · constructor
    · rintro (⟨f, g, hf, -⟩ | hsame)
      · cases hf
      · exact Or.inl (by simpa [Except.mapError] using hsame)
    · rintro (hsame | hnone)
      · exact Or.inr (by simpa [Except.mapError] using hsame)
      · exact absurd rfl (hnone x).1

lemma not_agree_of_unreported {f : LoadFault} {b : Except LoadFault Settings}
    (hf : ¬ f.IsReported) : ¬ Agree (.error f) b := by
  rintro (⟨f', g, hf', -, hreported, -⟩ | ⟨settings, hok, -⟩)
  · exact hf (Except.error.inj hf' ▸ hreported)
  · cases hok

section BothWays

variable (hpath : LeadsToFound s q p) (hvars : HasNoVariables s) (hgiven : IsKeywords given)
include hpath hvars hgiven

/-- Both ways, once the file is loaded and given. -/
lemma agree_iff_of_taken (hload : (ConfigFile.load s.tree s.cwd p).value = .ok file)
    (hfile : IsPlain file) (htaken : AreTaken (passed (some q) file given)) :
    Agree (load s (some q) given).value (load s none given).value ↔
      NothingIsLost given file ∨
        ∀ settings, (load s (some q) given).value ≠ .ok settings ∧
          (load s none given).value ≠ .ok settings := by
  have hves := hvars.variableEntries_eq
  have hnamed : (load s (some q) given).value =
      (ofEntries (merged (some q) file [] given)).mapError .invalid :=
    value_load_of_taken (.named hpath.existsAt (hpath.load_eq.trans hload) hfile.noSkip) hves
      hgiven.distinct hgiven.noSkip htaken
  have hfound : (load s none given).value =
      (ofEntries (merged none file [] given)).mapError .invalid :=
    value_load_of_taken (.found hpath.found hload rfl) hves hgiven.distinct hgiven.noSkip
      (hgiven.noParameters.areTaken hgiven.text)
  rw [hnamed, hfound, agree_of_issues_iff]
  simp only [ne_eq, mapError_eq_ok_iff]
  constructor
  · rintro (⟨settings, ha, hb⟩ | hnone)
    · exact Or.inl (nothingIsLost_of_ofEntries hgiven hfile ha hb)
    · exact Or.inr hnone
  · rintro (hnothing | hnone)
    · have hiff : ∀ settings, ofEntries (merged (some q) file [] given) = .ok settings ↔
          ofEntries (merged none file [] given) = .ok settings :=
        fun settings => ofEntries_iff hgiven hfile hnothing
      by_cases hsome : ∃ settings, ofEntries (merged (some q) file [] given) = .ok settings
      · obtain ⟨settings, hsettings⟩ := hsome
        exact Or.inl ⟨settings, hsettings, (hiff settings).mp hsettings⟩
      · rw [not_exists] at hsome
        exact Or.inr fun settings =>
          ⟨hsome settings, fun h => hsome settings ((hiff settings).mpr h)⟩
    · exact Or.inr hnone

end BothWays

/-! ### Files that are named and found -/

/-- The two ways agree about a file in the topmost directory, where the run is. -/
def AgreeOn (text : String) (given : List (Value × Value)) : Prop :=
  Agree (load (withFile text []) (some ⟨.here, ["specgrep.config.yaml"]⟩) given).value
    (load (withFile text []) none given).value

lemma leadsToFound_withFile (text : String) :
    LeadsToFound (withFile text []) ⟨.here, ["specgrep.config.yaml"]⟩ filePath :=
  ⟨rfl, rfl, rfl⟩

lemma hasNoVariables_withFile (text : String) : HasNoVariables (withFile text []) :=
  ⟨List.forall_mem_nil _, [], rfl, List.forall_mem_nil _⟩

/-- A file that is loaded, as far as its keys go. -/
lemma exists_plain {ε : Type} {r : Except ε (List (Value × Value))}
    (h : (r.toOption.any fun es => es.all (fun e => e.1.string?.isSome) &&
      decide (textKeys es).Nodup && (textKeys es).all (fun name => name.toList.head? != some '_') &&
      (textKeys es).all (fun name => (Variables.fields.lookup (Text.lower name)).isNone ||
        (lookup es (Text.lower name)).isSome) && (lookup es Variables.skipKey).isNone) = true) :
    ∃ es, r = .ok es ∧ IsPlain es ∧ AreTaken es := by
  obtain ⟨es, hes, hkeys⟩ := (Option.any_eq_true _ _).mp h
  simp only [Bool.and_eq_true, List.all_eq_true, Bool.or_eq_true, Option.isNone_iff_eq_none,
    Option.isSome_iff_exists, string?_eq_some_iff, decide_eq_true_eq, bne_iff_ne] at hkeys
  obtain ⟨⟨⟨⟨htext, hdistinct⟩, hsigns⟩, hnames⟩, hskip⟩ := hkeys
  refine ⟨es, eq_ok_of_toOption hes, ⟨hdistinct, fun name hname hfield => ?_, hskip⟩,
    (hasNoParameters_of_keys hsigns).areTaken htext⟩
  rcases hnames name hname with hnone | ⟨v, hv⟩
  · rw [hnone] at hfield
    cases hfield
  · rw [hv]
    exact Option.some_ne_none v

/-- The tags of a run, given over an environment in a file that also sets a level. -/
def tagsGiven : List (Value × Value) :=
  [(.str "env", .map [(.str "grepTags", .str "regression")])]

def smokeText : String :=
  "env: \x7bgrepTags: smoke, grepUntagged: true\x7d\nlogging: \x7blevel: DEBUG\x7d\n"

lemma isKeywords_tagsGiven : IsKeywords tagsGiven where
  distinct := List.nodup_singleton _
  names name hname _ := by
    obtain rfl : name = "env" := by simpa [tagsGiven, textKeys, string?] using hname
    rw [show Text.lower "env" = "env" by decide]
    simp [tagsGiven, lookup]
  noSkip := by simp [tagsGiven, lookup, Variables.skipKey]
  noParameters := hasNoParameters_of_keys (by decide)
  text := List.forall_mem_singleton.mpr ⟨_, rfl⟩
  inner k inner hinner := by
    have hmem := mem_of_lookup hinner
    simp only [tagsGiven, List.mem_singleton, Prod.mk.injEq, Value.map.injEq] at hmem
    rw [hmem.2]
    exact List.nodup_singleton _

lemma not_agree_of_ne {α : Type} {a b : Except LoadFault Settings} {f : Settings → α}
    (h : a.toOption.map f ≠ b.toOption.map f) : ¬ Agree a b := by
  rintro (⟨e, e', rfl, rfl, -⟩ | ⟨settings, rfl, rfl⟩)
  · exact h rfl
  · exact h rfl

end Sieve.Settings
