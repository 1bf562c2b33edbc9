import Sieve.Proofs.Settings.Environment

/-!
What is merged of several sources.

A key stands by itself or in a section, of which there are two: the environment and what concerns
the log. What stands under a key in the entries that settings are read from is known from what
stands there in what is given, in the variables and in the file. A section that is given hides that
of a file that is named, unless it is the environment.
-/

namespace Sieve.Settings

open Value Files Schema

variable {s : Surroundings} {path : Option Path} {given file ves es top : List (Value × Value)}
  {part k : String} {p : Path}

/-- The names of the sections. -/
def parts : List String := ["env", "logging"]

lemma mem_parts_iff : part ∈ parts ↔ part = "env" ∨ part = "logging" := by
  simp [parts]

/-- The entries of a section; none if it is no mapping. -/
def partOf (es : List (Value × Value)) (part : String) : List (Value × Value) :=
  ((lookup es part).bind entries?).getD []

/-- The section is a mapping, if it is there; the environment is one from texts. -/
def HasSection (es : List (Value × Value)) (part : String) : Prop :=
  ∀ v, lookup es part = some v →
    ∃ inner, v = .map inner ∧ HasDistinctKeys inner ∧ (part = "env" → HasTextKeys inner)

/-- Whatever spells a setting in other letters stands beside one that names it in small ones. -/
def NamesSettings (es : List (Value × Value)) : Prop :=
  ∀ name ∈ textKeys es, (Variables.fields.lookup (Text.lower name)).isSome = true →
    lookup es (Text.lower name) ≠ none

/-- A source that settings can be read from: each key once, sections that are mappings, and nothing
that keeps files from being read. -/
structure IsSource (es : List (Value × Value)) : Prop where
  distinct : HasDistinctKeys es
  sections : ∀ part ∈ parts, HasSection es part
  names : NamesSettings es
  noSkip : lookup es Variables.skipKey = none

lemma partOf_eq {inner : List (Value × Value)} (h : lookup es part = some (.map inner)) :
    partOf es part = inner := by
  simp [partOf, h, entries?]

lemma partOf_eq_nil (h : lookup es part = none) : partOf es part = [] := by
  simp [partOf, h]

namespace HasSection

lemma none_or_map (h : HasSection es part) :
    lookup es part = none ∨ lookup es part = some (.map (partOf es part)) := by
  rcases hlookup : lookup es part with _ | v
  · exact Or.inl rfl
  · obtain ⟨inner, rfl, -⟩ := h v hlookup
    rw [partOf_eq hlookup]
    exact Or.inr rfl

lemma distinct (h : HasSection es part) : HasDistinctKeys (partOf es part) := by
  rcases hlookup : lookup es part with _ | v
  · rw [partOf_eq_nil hlookup]
    exact hasDistinctKeys_nil
  · obtain ⟨inner, rfl, hinner, -⟩ := h v hlookup
    rwa [partOf_eq hlookup]

lemma text (h : HasSection es part) (hpart : part = "env") : HasTextKeys (partOf es part) := by
  rcases hlookup : lookup es part with _ | v
  · rw [partOf_eq_nil hlookup]
    exact isTextMapping_nil.text
  · obtain ⟨inner, rfl, -, htext⟩ := h v hlookup
    rw [partOf_eq hlookup]
    exact htext hpart

lemma of_none (h : lookup es part = none) : HasSection es part := by
  intro v hv
  rw [h] at hv
  cases hv

lemma of_map {inner : List (Value × Value)} (h : lookup es part = some (.map inner))
    (hdistinct : HasDistinctKeys inner) (htext : part = "env" → HasTextKeys inner) :
    HasSection es part := by
  intro v hv
  rw [h] at hv
  cases hv
  exact ⟨inner, rfl, hdistinct, htext⟩

lemma of_lookup (h : HasSection top part) (hlookup : lookup es part = lookup top part) :
    HasSection es part := fun v hv => h v (hlookup ▸ hv)

end HasSection

lemma partOf_congr (h : lookup es part = lookup top part) : partOf es part = partOf top part := by
  rw [partOf, partOf, h]

/-! ### Variables -/

lemma lower_of_mem_fields {name : String} {form : Variables.Form}
    (h : (name, form) ∈ Variables.fields) : Text.lower name = name := by
  have hfields : ∀ f ∈ Variables.fields, Text.lower f.1 = f.1 := by decide
  exact hfields (name, form) h

/-- **Variables are a source**, if they give no section that is no mapping and do not keep files
from being read. -/
theorem isSource_variables (h : variableEntries s = .ok ves)
    (hskip : lookup ves Variables.skipKey = none)
    (hmaps : ∀ part ∈ parts, ∀ v, lookup ves part = some v → ∃ inner, v = .map inner) :
    IsSource ves := by
  have henv := isTextMapping_variables h
  unfold variableEntries at h
  obtain ⟨bindings, -, h⟩ := bind_eq_ok_iff.mp h
  obtain ⟨fromProcess, hprocess, h⟩ := bind_eq_ok_iff.mp h
  obtain ⟨fromFile, hfile, h⟩ := bind_eq_ok_iff.mp h
  rw [mapError_eq_ok_iff] at hprocess hfile
  obtain rfl : deepEntries fromProcess fromFile = ves := Except.ok.inj h
  have hlookup : ∀ k, lookup (deepEntries fromProcess fromFile) k =
      over? (lookup fromProcess k) (lookup fromFile k) := fun k =>
    lookup_deepEntries (Variables.hasDistinctKeys_process hprocess)
  have hfileSkip : lookup fromFile Variables.skipKey = none :=
    (over?_eq_none_iff.mp (hlookup _ ▸ hskip)).2
  refine ⟨(Variables.hasDistinctKeys_entries hfile hfileSkip).deepEntries, fun part hpart v hv => ?_,
    fun name hname _ => ?_, hskip⟩
  · obtain ⟨inner, rfl⟩ := hmaps part hpart v hv
    rcases mem_parts_iff.mp hpart with rfl | rfl
    · rw [envOf_eq hv] at henv
      exact ⟨inner, rfl, henv.distinct, fun _ => henv.text⟩
    · refine ⟨inner, rfl, ?_, fun hpart => absurd hpart (by decide)⟩
      rw [hlookup] at hv
      rcases exists_of_over?_eq_map hv with ⟨-, hold⟩ | htop | ⟨new, below, -, hold, rfl⟩
      · exact Variables.hasDistinctKeys_logging hfile hold
      · exact Variables.hasDistinctKeys_logging hprocess htop
      · exact (Variables.hasDistinctKeys_logging hfile hold).deepEntries
  · have hne : lookup (deepEntries fromProcess fromFile) name ≠ none := lookup_ne_none_of_mem hname
    have hnoSkip : name ≠ Variables.skipKey := by
      rintro rfl
      exact hne hskip
    obtain ⟨form, hfield⟩ : ∃ form, (name, form) ∈ Variables.fields := by
      rw [hlookup, Ne, over?_eq_none_iff, not_and_or] at hne
      rcases hne with hne | hne <;> obtain ⟨w, hw⟩ := Option.ne_none_iff_exists'.mp hne
      · obtain ⟨form, -, hfield, -⟩ := Variables.exists_of_lookup_entries hprocess hnoSkip hw
        exact ⟨form, hfield⟩
      · obtain ⟨form, -, hfield, -⟩ := Variables.exists_of_lookup_entries hfile hnoSkip hw
        exact ⟨form, hfield⟩
    rwa [lower_of_mem_fields hfield]

/-! ### Sections over others -/

/-- A section that lies in that of variables. -/
lemma section_over (htop : HasSection top part) (hves : HasSection ves part)
    (h : lookup es part = over? (lookup top part) (lookup ves part)) :
    HasSection es part ∧
      ∀ k, lookup (partOf es part) k = over? (lookup (partOf top part) k) (lookup (partOf ves part) k) := by
  rcases htop.none_or_map with hnone | htopMap
  · rw [hnone, over?] at h
    rw [partOf_congr h, partOf_eq_nil hnone]
    exact ⟨hves.of_lookup h, fun k => rfl⟩
  · rcases hves.none_or_map with hnone | hvesMap
    · rw [hnone, over?_none_right] at h
      rw [partOf_congr h, partOf_eq_nil hnone]
      exact ⟨htop.of_lookup h, fun k => over?_none_right.symm⟩
    · have hmap : lookup es part = some (.map (deepEntries (partOf top part) (partOf ves part))) := by
        rw [h, htopMap, hvesMap]
        simp [over?, deepOver]
      rw [partOf_eq hmap]
      exact ⟨.of_map hmap hves.distinct.deepEntries fun hpart =>
        (hves.text hpart).deepEntries (htop.text hpart), fun k => lookup_deepEntries htop.distinct⟩

/-- A section with that of a file beneath it. -/
def laidOver (file top : List (Value × Value)) (part : String) : Option Value :=
  match lookup file part with
  | some (.map below) => some (.map (overlay below (partOf top part)))
  | _ => lookup top part

lemma section_beneath (hfile : HasSection file part) (htop : HasSection top part)
    (h : lookup es part = laidOver file top part) :
    HasSection es part ∧
      ∀ k, lookup (partOf es part) k =
        (lookup (partOf top part) k).or (lookup (partOf file part) k) := by
  unfold laidOver at h
  rcases hfile.none_or_map with hnone | hmap
  · rw [hnone] at h
    rw [partOf_congr h, partOf_eq_nil hnone]
    exact ⟨htop.of_lookup h, fun k => (Option.or_none).symm⟩
  · rw [hmap] at h
    rw [partOf_eq h]
    exact ⟨.of_map h hfile.distinct.overlay fun hpart =>
      (hfile.text hpart).overlay (htop.text hpart), fun k => lookup_overlay htop.distinct⟩

/-! ### What is given over variables -/

lemma meantKey_eq (h : NamesSettings given) {name : String} (hname : name ∈ textKeys given) :
    meantKey given name = name := by
  rcases @meantKey_eq_or given name with hsame | ⟨-, hfield, hnone⟩
  · exact hsame
  · exact absurd hnone (h name hname hfield)

lemma lookup_renameGiven_of_names (hdistinct : HasDistinctKeys given) (h : NamesSettings given) :
    lookup (renameGiven given) k = lookup given k :=
  lookup_renameGiven hdistinct fun name hname => by rw [meantKey_eq h hname]

lemma lookup_over (hdistinct : HasDistinctKeys given) (h : NamesSettings given) :
    lookup (deepEntries (renameGiven given) ves) k = over? (lookup given k) (lookup ves k) := by
  rw [lookup_deepEntries hasDistinctKeys_renameGiven, lookup_renameGiven_of_names hdistinct h]

/-! ### A file that is found -/

lemma lookup_mergePart_of_ne {acc : List (Value × Value)} (hk : k ≠ part) :
    lookup (mergePart file es acc part) k = lookup acc k := by
  unfold mergePart
  split
  · rw [lookup_put, if_neg (Ne.symm hk)]
  · rfl

lemma lookup_mergePart_self {acc : List (Value × Value)} (hfile : HasSection file part)
    (hacc : lookup file part = none → lookup acc part = lookup es part) :
    lookup (mergePart file es acc part) part = laidOver file es part := by
  unfold mergePart laidOver
  rcases hfile.none_or_map with hnone | hmap
  · rw [hnone]
    exact hacc hnone
  · rw [hmap]
    dsimp only
    rw [lookup_put, if_pos rfl]
    rfl

lemma lookup_mergeFile_of_part (hes : HasDistinctKeys es) (hpart : part ∈ parts)
    (hfile : HasSection file part) : lookup (mergeFile file es) part = laidOver file es part := by
  have hoverlay : lookup file part = none → lookup (overlay file es) part = lookup es part := by
    intro hnone
    rw [lookup_overlay hes, hnone, Option.or_none]
  rw [mergeFile_eq]
  rcases mem_parts_iff.mp hpart with rfl | rfl
  · rw [lookup_mergePart_of_ne (by decide), lookup_mergePart_self hfile hoverlay]
  · refine lookup_mergePart_self hfile fun hnone => ?_
    rw [lookup_mergePart_of_ne (by decide), hoverlay hnone]

lemma lookup_mergeFile_of_not_part (hes : HasDistinctKeys es) (hk : k ∉ parts) :
    lookup (mergeFile file es) k = (lookup es k).or (lookup file k) := by
  rw [mem_parts_iff, not_or] at hk
  rw [mergeFile_eq, lookup_mergePart_of_ne hk.2, lookup_mergePart_of_ne hk.1, lookup_overlay hes]

/-! ### A file that is named -/

lemma lookup_overNamed_of_ne (hgiven : HasDistinctKeys given) (hk : k ≠ "env") :
    lookup (overNamed file given) k = (lookup given k).or (lookup file k) := by
  unfold overNamed
  split
  · rw [lookup_put, if_neg (Ne.symm hk), lookup_overlay hgiven]
  · rw [lookup_overlay hgiven]

lemma section_overNamed_env (hgiven : IsSource given) (hfile : IsSource file) :
    HasSection (overNamed file given) "env" ∧
      ∀ k, lookup (partOf (overNamed file given) "env") k =
        (lookup (partOf given "env") k).or (lookup (partOf file "env") k) := by
  have habove := hgiven.sections "env" (by decide)
  have hbelow := hfile.sections "env" (by decide)
  have hoverlay : lookup (overlay file given) "env" =
      (lookup given "env").or (lookup file "env") := lookup_overlay hgiven.distinct
  rcases hbelow.none_or_map with hnone | hbelowMap
  · have hlookup : lookup (overNamed file given) "env" = lookup given "env" := by
      unfold overNamed
      rw [hnone, hoverlay, hnone, Option.or_none]
    rw [partOf_congr hlookup, partOf_eq_nil hnone]
    exact ⟨habove.of_lookup hlookup, fun k => Option.or_none.symm⟩
  · rcases habove.none_or_map with hnone | haboveMap
    · have hlookup : lookup (overNamed file given) "env" = lookup file "env" := by
        unfold overNamed
        rw [hbelowMap, hnone]
        dsimp only
        rw [hoverlay, hnone, Option.none_or, hbelowMap]
      rw [partOf_congr hlookup, partOf_eq_nil hnone]
      exact ⟨hbelow.of_lookup hlookup, fun k => rfl⟩
    · have hlookup : lookup (overNamed file given) "env" =
          some (.map (overlay (partOf file "env") (partOf given "env"))) := by
        unfold overNamed
        rw [hbelowMap, haboveMap]
        dsimp only
        rw [lookup_put, if_pos rfl]
      rw [partOf_eq hlookup]
      exact ⟨.of_map hlookup hbelow.distinct.overlay fun _ => (hbelow.text rfl).overlay
        (habove.text rfl), fun k => lookup_overlay habove.distinct⟩

/-- Another section of the file is hidden by one that is given. -/
lemma section_overNamed_logging (hgiven : IsSource given) (hfile : IsSource file) :
    HasSection (overNamed file given) "logging" ∧
      partOf (overNamed file given) "logging" =
        if (lookup given "logging").isSome then partOf given "logging"
        else partOf file "logging" := by
  have hlookup : lookup (overNamed file given) "logging" =
      (lookup given "logging").or (lookup file "logging") :=
    lookup_overNamed_of_ne hgiven.distinct (by decide)
  rcases (hgiven.sections "logging" (by decide)).none_or_map with hnone | hmap
  · rw [hnone, Option.none_or] at hlookup
    rw [partOf_congr hlookup, hnone]
    exact ⟨(hfile.sections "logging" (by decide)).of_lookup hlookup, rfl⟩
  · have hsame : lookup (overNamed file given) "logging" = lookup given "logging" := by
      rw [hlookup, hmap, Option.some_or]
    rw [partOf_congr hsame, if_pos (by rw [hmap]; rfl)]
    exact ⟨(hgiven.sections "logging" (by decide)).of_lookup hsame, rfl⟩

lemma lookup_overNamed_ne_none_iff (hgiven : HasDistinctKeys given) :
    lookup (overNamed file given) k ≠ none ↔ lookup given k ≠ none ∨ lookup file k ≠ none := by
  have hor : ∀ a b : Option Value, a.or b ≠ none ↔ a ≠ none ∨ b ≠ none := by
    intro a b
    rcases a with _ | a <;> simp
  by_cases hk : k = "env"
  · subst hk
    unfold overNamed
    split
    · rename_i below above hbelow habove
      simp [lookup_put, hbelow]
    · rw [lookup_overlay hgiven, hor]
  · rw [lookup_overNamed_of_ne hgiven hk, hor]

lemma lookup_passed (hfile : HasDistinctKeys file) (hk : k ≠ Variables.skipKey) :
    lookup (passed (some p) file given) k = lookup (overNamed file given) k := by
  have hskip : lookup [(.str Variables.skipKey, .bool true)] k = none := by
    simp [lookup, Ne.symm hk]
  unfold passed
  rw [lookup_overlay (hasDistinctKeys_overNamed hfile), hskip, Option.or_none]

/-- What is passed on names settings as the sources do. -/
lemma namesSettings_passed (hgiven : HasDistinctKeys given) (hgivenNames : NamesSettings given)
    (hfile : HasDistinctKeys file) (hfileNames : NamesSettings file) :
    NamesSettings (passed (some p) file given) := by
  intro name hname hfield
  have hlower : Text.lower name ≠ Variables.skipKey := by
    intro h
    rw [h] at hfield
    exact absurd hfield (by decide)
  rw [lookup_passed hfile hlower, lookup_overNamed_ne_none_iff hgiven]
  by_cases hskip : name = Variables.skipKey
  · rw [hskip] at hfield
    exact absurd hfield (by decide)
  · rw [mem_textKeys_iff, lookup_passed hfile hskip, lookup_overNamed_ne_none_iff hgiven,
      ← mem_textKeys_iff, ← mem_textKeys_iff] at hname
    exact hname.imp (hgivenNames name · hfield) (hfileNames name · hfield)

/-! ### All sources -/

/-- The file of settings that a run is loaded with: one that is named, one that is found, or none,
which is empty. -/
inductive IsBeneath (s : Surroundings) : Option Path → List (Value × Value) → Prop
  | named {p : Path} {file : List (Value × Value)} : s.tree.existsAt s.cwd p = true →
    (ConfigFile.load s.tree s.cwd p).value = .ok file → IsBeneath s (some p) file
  | found {p : Path} {file : List (Value × Value)} : ConfigFile.find? s.tree s.cwd = some p →
    (ConfigFile.load s.tree s.cwd p).value = .ok file → IsBeneath s none file
  | absent : ConfigFile.find? s.tree s.cwd = none → IsBeneath s none []

/-- What stands in one place of the merged entries: a file that is found lies beneath the variables,
one that is named lies over them unless it is hidden. -/
def sourced (path : Option Path) (hidden : Bool) (given vars file : Option Value) : Option Value :=
  match path with
  | none => (over? given vars).or file
  | some _ => over? (given.or (if hidden then none else file)) vars

lemma sourced_some {hidden : Bool} {given vars file : Option Value} :
    sourced (some p) hidden given vars file =
      over? (given.or (if hidden then none else file)) vars := rfl

/-- A section that is given hides that of a file, unless it is the environment. -/
def hides (given : List (Value × Value)) (part : String) : Bool :=
  part == "logging" && (lookup given "logging").isSome

/-- The entries are merged of the sources. -/
structure IsMerged (path : Option Path) (given ves file es : List (Value × Value)) : Prop where
  sections : ∀ part ∈ parts, HasSection es part
  alone : ∀ k ∉ parts, k ≠ Variables.skipKey →
    lookup es k = sourced path false (lookup given k) (lookup ves k) (lookup file k)
  inSection : ∀ part ∈ parts, ∀ k, lookup (partOf es part) k =
    sourced path (hides given part) (lookup (partOf given part) k) (lookup (partOf ves part) k)
      (lookup (partOf file part) k)

section Merged

variable (hgiven : IsSource given) (hves : IsSource ves)
include hgiven hves

lemma section_given_over {part : String} (hpart : part ∈ parts) :
    HasSection (deepEntries (renameGiven given) ves) part ∧
      ∀ k, lookup (partOf (deepEntries (renameGiven given) ves) part) k =
        over? (lookup (partOf given part) k) (lookup (partOf ves part) k) :=
  section_over (hgiven.sections part hpart) (hves.sections part hpart)
    (lookup_over hgiven.distinct hgiven.names)

lemma isMerged_absent : IsMerged none given ves [] (deepEntries (renameGiven given) ves) where
  sections part hpart := (section_given_over hgiven hves hpart).1
  alone k _ _ := by
    rw [lookup_over hgiven.distinct hgiven.names]
    simp [sourced, lookup]
  inSection part hpart k := by
    rw [(section_given_over hgiven hves hpart).2]
    simp [sourced, partOf, lookup]

lemma isMerged_found (hfile : IsSource file) :
    IsMerged none given ves file (mergeFile file (deepEntries (renameGiven given) ves)) := by
  have hdistinct : HasDistinctKeys (deepEntries (renameGiven given) ves) := hves.distinct.deepEntries
  have hbeneath := fun part (hpart : part ∈ parts) =>
    section_beneath (hfile.sections part hpart) (section_given_over hgiven hves hpart).1
      (lookup_mergeFile_of_part hdistinct hpart (hfile.sections part hpart))
  refine ⟨fun part hpart => (hbeneath part hpart).1, fun k hk _ => ?_, fun part hpart k => ?_⟩
  · rw [lookup_mergeFile_of_not_part hdistinct hk, lookup_over hgiven.distinct hgiven.names]
    rfl
  · rw [(hbeneath part hpart).2, (section_given_over hgiven hves hpart).2]
    rfl

lemma isMerged_named (hfile : IsSource file) :
    IsMerged (some p) given ves file
      (deepEntries (renameGiven (passed (some p) file given)) ves) := by
  set top := passed (some p) file given
  have hlookup : ∀ k, lookup (deepEntries (renameGiven top) ves) k =
      over? (lookup top k) (lookup ves k) := fun k =>
    lookup_over hasDistinctKeys_passed_named
      (namesSettings_passed hgiven.distinct hgiven.names hfile.distinct hfile.names)
  have htop : ∀ k, k ≠ Variables.skipKey → lookup top k = lookup (overNamed file given) k :=
    fun k hk => lookup_passed hfile.distinct hk
  have hsection : ∀ part ∈ parts, HasSection top part ∧
      ∀ k, lookup (partOf top part) k = (lookup (partOf given part) k).or
        (if hides given part then none else lookup (partOf file part) k) := by
    intro part hpart
    rcases mem_parts_iff.mp hpart with rfl | rfl
    · obtain ⟨hsec, henv⟩ := section_overNamed_env hgiven hfile
      have hsame := htop "env" (by decide)
      rw [partOf_congr hsame]
      exact ⟨hsec.of_lookup hsame, henv⟩
    · obtain ⟨hsec, hlogging⟩ := section_overNamed_logging hgiven hfile
      have hsame := htop "logging" (by decide)
      rw [partOf_congr hsame, hlogging]
      refine ⟨hsec.of_lookup hsame, fun k => ?_⟩
      rcases hgivenLogging : lookup given "logging" with _ | v
      · simp [hides, hgivenLogging, partOf_eq_nil hgivenLogging, lookup]
      · simp [hides, hgivenLogging]
  have hover := fun part (hpart : part ∈ parts) =>
    section_over (hsection part hpart).1 (hves.sections part hpart) (hlookup part)
  refine ⟨fun part hpart => (hover part hpart).1, fun k hk hskip => ?_, fun part hpart k => ?_⟩
  · have henv : k ≠ "env" := by
      rintro rfl
      exact hk (by decide)
    rw [hlookup, htop k hskip, lookup_overNamed_of_ne hgiven.distinct henv]
    rfl
  · rw [(hover part hpart).2, (hsection part hpart).2]
    rfl

end Merged

/-- **Settings are read from what is merged** of the sources, whether a file is named, found or
absent. -/
theorem exists_merged (hbeneath : IsBeneath s path file) (hvars : variableEntries s = .ok ves)
    (hgiven : IsSource given) (hves : IsSource ves) (hfile : IsSource file)
    (htaken : AreTaken (passed path file given)) :
    ∃ es, IsMerged path given ves file es ∧
      ∀ settings, (load s path given).value = .ok settings ↔ ofEntries es = .ok settings := by
  cases hbeneath with
  | @named p file hexists hload =>
    refine ⟨_, isMerged_named hgiven hves hfile, fun settings => ?_⟩
    rw [load_eq_ok_iff (.named hexists hload hfile.noSkip) hvars hgiven.distinct hgiven.noSkip]
    exact and_iff_right htaken
  | @found p file hfind hload =>
    refine ⟨_, isMerged_found hgiven hves hfile, fun settings => ?_⟩
    rw [load_eq_ok_iff (.found hfind hload hves.noSkip) hvars hgiven.distinct hgiven.noSkip]
    exact and_iff_right htaken
  | absent hfind =>
    refine ⟨_, isMerged_absent hgiven hves, fun settings => ?_⟩
    change (build s given).value = _ ↔ _
    have hnone : ∀ es, (withFoundFile s es).value = .ok es := by
      intro es
      unfold withFoundFile
      simp only [hfind, ite_self]
      rfl
    rw [build_eq_ok_iff hvars, hnone, and_iff_right (show AreTaken given from htaken)]
    simp

end Sieve.Settings
