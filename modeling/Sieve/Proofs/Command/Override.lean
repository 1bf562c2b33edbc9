import Sieve.Command.Run
import Sieve.Proofs.Settings.Override

/-!
Options of `select` over those of a file.

The command writes each of its options under one spelling into the environment that it gives. So an
option on the command line is lost to an earlier spelling in the file of settings, as any option is
that is given.
-/

namespace Sieve.Command

open Value Settings Schema Selection Files

variable {r : SelectRequest} {es vars : List (Value × Value)} {key : String} {v : Option Value}

namespace SelectRequest

/-- The environment that the options of `select` give. -/
def environment (r : SelectRequest) : List (Value × Value) :=
  entry "grep" ((nonEmpty r.title).map .str) ++ entry "grepTags" ((nonEmpty r.tags).map .str) ++
    entry "grepIntegrationFolder" (r.folder.map fun p => .str p.text)

/-- The other entries that the options of `select` give. -/
def others (r : SelectRequest) : List (Value × Value) :=
  listEntry "spec_pattern" r.patterns ++ listEntry "exclude_spec_pattern" r.excludes ++
    entry "parallel_workers" (r.workers.map .int)

lemma entries_eq : r.entries =
    r.others ++ if r.environment.isEmpty then [] else [(.str "env", .map r.environment)] := rfl

end SelectRequest

lemma textKeys_append {l : List (Value × Value)} : textKeys (es ++ l) = textKeys es ++ textKeys l :=
  List.filterMap_append

lemma textKeys_entry : (textKeys (entry key v)).Sublist [key] := by
  rcases v with _ | v
  · exact List.nil_sublist _
  · exact List.Sublist.refl _

lemma textKeys_listEntry {l : List String} : (textKeys (listEntry key l)).Sublist [key] := by
  unfold listEntry
  split_ifs
  · exact List.nil_sublist _
  · exact List.Sublist.refl _

lemma hasTextKeys_entry : HasTextKeys (entry key v) := by
  rcases v with _ | v
  · simp [entry, HasTextKeys]
  · exact List.forall_mem_singleton.mpr ⟨key, rfl⟩

lemma hasTextKeys_listEntry {l : List String} : HasTextKeys (listEntry key l) := by
  unfold listEntry
  split_ifs
  · exact List.forall_mem_nil _
  · exact List.forall_mem_singleton.mpr ⟨key, rfl⟩

lemma textKeys_others : (textKeys r.others).Sublist
    (["spec_pattern"] ++ ["exclude_spec_pattern"] ++ ["parallel_workers"]) := by
  rw [SelectRequest.others, textKeys_append, textKeys_append]
  exact (textKeys_listEntry.append textKeys_listEntry).append textKeys_entry

/-- The keys that the command gives are texts. -/
lemma hasTextKeys_entries : HasTextKeys r.entries := by
  have hothers : HasTextKeys r.others :=
    List.forall_mem_append.mpr ⟨List.forall_mem_append.mpr
      ⟨hasTextKeys_listEntry, hasTextKeys_listEntry⟩, hasTextKeys_entry⟩
  rw [SelectRequest.entries_eq]
  split_ifs
  · rwa [List.append_nil]
  · exact List.forall_mem_append.mpr ⟨hothers, List.forall_mem_singleton.mpr ⟨"env", rfl⟩⟩

/-- None of them is the name of a parameter. -/
lemma hasNoParameters_entries : HasNoParameters r.entries := by
  have hkeys : (textKeys r.entries).Sublist
      (["spec_pattern"] ++ ["exclude_spec_pattern"] ++ ["parallel_workers"] ++ ["env"]) := by
    rw [SelectRequest.entries_eq, textKeys_append]
    refine textKeys_others.append ?_
    split_ifs
    · exact List.nil_sublist _
    · exact List.Sublist.refl _
  have hsigns : ∀ name ∈ ["spec_pattern"] ++ ["exclude_spec_pattern"] ++ ["parallel_workers"] ++
      ["env"], name.toList.head? ≠ some '_' := by
    decide
  exact hasNoParameters_of_keys fun name hname => hsigns name (hkeys.subset hname)

/-- Each option has a key of its own. -/
lemma isTextMapping_environment : IsTextMapping r.environment := by
  constructor
  · exact List.forall_mem_append.mpr
      ⟨List.forall_mem_append.mpr ⟨hasTextKeys_entry, hasTextKeys_entry⟩, hasTextKeys_entry⟩
  · have hkeys : (textKeys r.environment).Sublist (["grep"] ++ ["grepTags"] ++
        ["grepIntegrationFolder"]) := by
      rw [SelectRequest.environment, textKeys_append, textKeys_append]
      exact (textKeys_entry.append textKeys_entry).append textKeys_entry
    exact List.Nodup.sublist hkeys (by decide)

lemma rest_others : rest r.others = r.others := by
  refine List.filter_eq_self.mpr fun e he => ?_
  rcases hkey : e.1.string? with _ | name
  · simp [namesEnv, hkey]
  · have hname : name ∈ textKeys r.others := List.mem_filterMap.mpr ⟨e, he, hkey⟩
    have hmem := textKeys_others.subset hname
    simp only [List.cons_append, List.nil_append, List.mem_cons, List.not_mem_nil, or_false] at hmem
    rw [string?_eq_some_iff.mp hkey]
    rcases hmem with rfl | rfl | rfl <;> decide

/-- The entries of `select` may be given. -/
lemma isGiven_entries : IsGiven r.entries ∧ envOf r.entries = r.environment := by
  have hothers : lookup r.others "env" = none := lookup_env_of_rest rest_others
  have hskip : lookup r.others Variables.skipKey = none := by
    refine lookup_eq_none_of_not_mem fun hmem => ?_
    exact absurd (textKeys_others.subset hmem) (by decide)
  have hdistinct : HasDistinctKeys r.others := List.Nodup.sublist textKeys_others (by decide)
  rw [SelectRequest.entries_eq]
  by_cases hempty : r.environment.isEmpty = true
  · rw [if_pos hempty, List.append_nil, envOf, hothers]
    exact ⟨⟨hdistinct, Or.inl rest_others, hskip⟩, (List.isEmpty_iff.mp hempty).symm⟩
  · rw [if_neg hempty]
    have henv : lookup (r.others ++ [(.str "env", .map r.environment)]) "env" =
        some (.map r.environment) := by
      rw [lookup_append, hothers]
      rfl
    refine ⟨⟨?_, Or.inr ⟨by rw [envOf_eq henv, henv], ?_⟩, ?_⟩, envOf_eq henv⟩
    · unfold HasDistinctKeys
      rw [textKeys_append]
      exact List.Nodup.sublist (textKeys_others.append (List.Sublist.refl ["env"])) (by decide)
    · rw [envOf_eq henv]
      exact isTextMapping_environment
    · rw [lookup_append, hskip]
      rfl

lemma eq_of_lookup_entry {n : String} {w : Value} (h : lookup (entry key v) n = some w) :
    n = key ∧ v = some w := by
  rcases v with _ | v
  · cases h
  · have hmem := mem_of_lookup h
    simp only [entry, Option.map_some, Option.toList_some, List.mem_singleton, Prod.mk.injEq,
      Value.str.injEq] at hmem
    rw [hmem.1, hmem.2]
    exact ⟨rfl, rfl⟩

/-- All that `select` writes into the environment is text, under three spellings. -/
lemma exists_of_lookup_environment {n : String} {w : Value} (h : lookup r.environment n = some w) :
    (n = "grep" ∨ n = "grepTags" ∨ n = "grepIntegrationFolder") ∧ ∃ t, w = .str t := by
  rw [SelectRequest.environment, lookup_append, lookup_append, Option.or_assoc,
    Option.or_eq_some_iff, Option.or_eq_some_iff] at h
  rcases h with h | ⟨-, h | ⟨-, h⟩⟩
  · obtain ⟨rfl, hw⟩ := eq_of_lookup_entry h
    obtain ⟨t, -, rfl⟩ := Option.map_eq_some_iff.mp hw
    exact ⟨Or.inl rfl, t, rfl⟩
  · obtain ⟨rfl, hw⟩ := eq_of_lookup_entry h
    obtain ⟨t, -, rfl⟩ := Option.map_eq_some_iff.mp hw
    exact ⟨Or.inr (Or.inl rfl), t, rfl⟩
  · obtain ⟨rfl, hw⟩ := eq_of_lookup_entry h
    obtain ⟨p, -, rfl⟩ := Option.map_eq_some_iff.mp hw
    exact ⟨Or.inr (Or.inr rfl), p.text, rfl⟩

lemma exists_expression (t : String) : ∃ e, Options.expression (.str t) = .ok e := by
  unfold Options.expression Options.readExpression
  split_ifs
  · exact ⟨_, rfl⟩
  · exact ⟨_, rfl⟩

/-- The command gives no option that cannot be read. -/
lemma isReadable_environment : IsReadable r.environment := by
  intro o n w hn hw
  obtain ⟨hname, t, rfl⟩ := exists_of_lookup_environment hw
  cases o with
  | title => exact exists_expression t
  | tags => exact exists_expression t
  | folder => exact ⟨some (.ofText t), rfl⟩
  | burn | untagged | omitFiltered | filterSpecs =>
    rcases hname with rfl | rfl | rfl <;> exact absurd hn (by decide)

lemma isApart_environment : IsApart r.environment vars := by
  intro n w hw
  obtain ⟨-, t, rfl⟩ := exists_of_lookup_environment hw
  exact Or.inr fun es => by simp

/-- **An option over those of a file** counts by its spelling, whether it is given to the settings
or on the command line. It counts if no earlier spelling stands in the file or in the variables,
else it has no effect. -/
theorem given_counts_by_spelling {s : Surroundings} {path : Option Path}
    {ves file below : List (Value × Value)} (hves : variableEntries s = .ok ves)
    (hfile : HasFile s ves path file) (hbelow : lookup file "env" = some (.map below))
    (htext : HasTextKeys below) :
    (∀ (given : List (Value × Value)) (settings : Settings) (opts : Options),
      IsGiven given → IsReadable (envOf given) → IsApart (envOf given) (envOf ves) →
      (Settings.load s path (rest given)).value = .ok settings → settings.options = .ok opts →
      CountsBySpelling s path given below (envOf ves) opts) ∧
    ∀ (r : SelectRequest) (settings : Settings) (opts : Options),
      (Settings.load s path (rest r.entries)).value = .ok settings → settings.options = .ok opts →
      envOf r.entries = r.environment ∧
        CountsBySpelling s path r.entries below (envOf ves) opts := by
  constructor
  · intro given settings opts hgiven hread hapart hsettings hopts
    exact countsBySpelling hves hfile hbelow htext hgiven hsettings hopts hread hapart
  · intro r settings opts hsettings hopts
    obtain ⟨hgiven, henv⟩ := @isGiven_entries r
    refine ⟨henv, countsBySpelling hves hfile hbelow htext hgiven hsettings hopts ?_ ?_⟩
    · rw [henv]
      exact isReadable_environment
    · rw [henv]
      exact isApart_environment

/-! ### A spelling that is lost -/

def configPath : Path := ⟨.root, ["specgrep.config.yaml"]⟩

/-- A file of settings sets the tags under a spelling. -/
def spelled (name : String) : Surroundings :=
  ⟨.dir [("specgrep.config.yaml", .file (Text.Utf8.encode ("env: \x7b" ++ name ++ ": a\x7d\n")))],
    ⟨.root, []⟩, []⟩

/-- `select --tags=b` -/
def tagsRequest : SelectRequest := ⟨none, some "b", [], [], none, none⟩

lemma entries_tagsRequest :
    tagsRequest.entries = [(.str "env", .map [(.str "grepTags", .str "b")])] := rfl

/-- The tags of options that are loaded. -/
def tagsLoaded (s : Surroundings) (path : Option Path) (given : List (Value × Value)) :
    Option (Option String) :=
  ((Settings.load s path given).value.toOption.bind fun settings => settings.options.toOption).map
    Options.tags

lemma tagsLoaded_eq_some_iff {s : Surroundings} {path : Option Path} {given : List (Value × Value)}
    {tags : Option String} : tagsLoaded s path given = some tags ↔
      ∃ settings opts, (Settings.load s path given).value = .ok settings ∧
        settings.options = .ok opts ∧ opts.tags = tags := by
  unfold tagsLoaded
  constructor
  · intro h
    obtain ⟨opts, hopts, htags⟩ := Option.map_eq_some_iff.mp h
    obtain ⟨settings, hsettings, hread⟩ := Option.bind_eq_some_iff.mp hopts
    exact ⟨settings, opts, eq_ok_of_toOption hsettings, eq_ok_of_toOption hread, htags⟩
  · rintro ⟨settings, opts, hsettings, hopts, rfl⟩
    rw [hsettings, Except.toOption, Option.bind_some, hopts]
    rfl

/-- The tags given are lost to those of the file, whose spelling comes first. -/
theorem lost_to_an_earlier_spelling :
    tagsRequest.entries = [(.str "env", .map [(.str "grepTags", .str "b")])] ∧
    Options.expression (.str "b") = .ok (some "b") ∧
    tagsLoaded (spelled "grep_tags") none tagsRequest.entries = some (some "a") ∧
    tagsLoaded (spelled "grep_tags") (some configPath) tagsRequest.entries = some (some "a") := by
  rw [entries_tagsRequest]
  exact ⟨rfl, rfl, by decide +kernel, by decide +kernel⟩

/-- The file read, as far as its environment goes. -/
lemma exists_below {s : Surroundings} {p : Path} {n : String}
    (h : ((ConfigFile.load s.tree s.cwd p).value.toOption.any fun file =>
      (lookup file Variables.skipKey).isNone &&
        (lookup file "env").any fun v => v.entries?.any fun below =>
          below.all (fun e => e.1.string?.isSome) && (lookup below n).isNone) = true) :
    ∃ file below, (ConfigFile.load s.tree s.cwd p).value = .ok file ∧
      lookup file Variables.skipKey = none ∧ lookup file "env" = some (.map below) ∧
        HasTextKeys below ∧ lookup below n = none := by
  simp only [Option.any_eq_true, Bool.and_eq_true, List.all_eq_true, Option.isNone_iff_eq_none,
    Option.isSome_iff_exists, string?_eq_some_iff] at h
  obtain ⟨file, hload, hskip, v, hv, below, hbelow, htext, hnone⟩ := h
  refine ⟨file, below, eq_ok_of_toOption hload, hskip, ?_, htext, hnone⟩
  cases v with
  | map es =>
    cases hbelow
    exact hv
  | _ => cases hbelow

lemma variableEntries_spelled : variableEntries (spelled "grep-tags") = .ok [] := by
  obtain ⟨ves, hves, hempty⟩ := (Option.any_eq_true _ _).mp
    (show (variableEntries (spelled "grep-tags")).toOption.any List.isEmpty = true by
      decide)
  rw [eq_ok_of_toOption hves, List.isEmpty_iff.mp hempty]

/-- They count over those of a file whose spelling comes later. -/
theorem counts_over_a_later_spelling :
    tagsLoaded (spelled "grep-tags") none tagsRequest.entries = some (some "b") ∧
    tagsLoaded (spelled "grep-tags") (some configPath) tagsRequest.entries = some (some "b") := by
  obtain ⟨file, below, hload, hskip, hbelow, htext, hfree⟩ :=
    @exists_below (spelled "grep-tags") configPath "grep_tags" (by decide +kernel)
  have htags : ∀ path opts,
      CountsBySpelling (spelled "grep-tags") path tagsRequest.entries below [] opts →
        tagsLoaded (spelled "grep-tags") path tagsRequest.entries = some (some "b") := by
    rintro path opts ⟨settings', opts', hload', hopts', hcounts⟩
    refine tagsLoaded_eq_some_iff.mpr ⟨settings', opts', hload', hopts', ?_⟩
    have hread := (hcounts .tags "grepTags" (.str "b") (by decide) rfl (by decide)).1
      (by simp [before, Options.Field.names, Options.tagsNames, hfree, lookup])
    exact (Except.ok.inj hread).symm
  constructor
  · obtain ⟨settings, opts, hsettings, hopts, -⟩ := (@tagsLoaded_eq_some_iff
      (spelled "grep-tags") none (rest tagsRequest.entries) (some "a")).mp (by decide +kernel)
    have hfile : HasFile (spelled "grep-tags") [] none file := .found (by decide) hload rfl
    exact htags none opts ((given_counts_by_spelling variableEntries_spelled hfile hbelow htext).2
      tagsRequest settings opts hsettings hopts).2
  · obtain ⟨settings, opts, hsettings, hopts, -⟩ := (@tagsLoaded_eq_some_iff
      (spelled "grep-tags") (some configPath) (rest tagsRequest.entries) (some "a")).mp
        (by decide +kernel)
    have hfile : HasFile (spelled "grep-tags") [] (some configPath) file :=
      .named (by decide) hload hskip
    exact htags _ opts ((given_counts_by_spelling variableEntries_spelled hfile hbelow htext).1
      tagsRequest.entries settings opts isGiven_entries.1 isReadable_environment isApart_environment
      hsettings hopts)

end Sieve.Command
