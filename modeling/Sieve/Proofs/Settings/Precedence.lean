import Sieve.Proofs.Settings.Setting

/-!
Which source decides a setting.

What is given ranks first, then variables, then the file of settings, then the default. A file that
is found keeps its rank. One that is named does not: it counts as given, so that it lies over the
variables, and what is given of the log hides all that it says of the log.
-/

namespace Sieve

open Value Files Settings

variable {s : Surroundings} {path : Option Path} {given ves file es : List (Value × Value)}

/-! ### Ranks -/

namespace Setting

variable {x : Setting}

/-- What is given hides all that a file says of the setting, if the file is named. -/
def isHidden (x : Setting) (given : List (Value × Value)) : Bool := x.section?.any (hides given)

lemma valueAt_merged (h : IsMerged path given ves file es) (x : Setting) :
    x.valueAt es =
      sourced path (x.isHidden given) (x.valueAt given) (x.valueAt ves) (x.valueAt file) := by
  cases x with
  | patterns | excludes | workers => exact h.alone _ (by decide) (by decide)
  | env key => exact h.inSection "env" (by decide) key
  | level | json | file | moduleLevels => exact h.inSection "logging" (by decide) _

/-- What the first source says that says anything; of mappings that are given or in variables the
entries are laid over each other. -/
def ranked (x : Setting) (given ves file : List (Value × Value)) : Option Value :=
  (over? (x.valueAt given) (x.valueAt ves)).or (x.valueAt file)

/-- Where a file that is named has not its rank: it says what is not given, and variables say
something that it does not hide, or say nothing while it is hidden itself. -/
def IsMisplaced (x : Setting) (path : Option Path) (given ves file : List (Value × Value)) : Prop :=
  path ≠ none ∧ x.valueAt given = none ∧ x.valueAt file ≠ none ∧
    (x.valueAt ves = none ↔ x.isHidden given = true)

/-- What a misplaced setting is read from instead. -/
def displaced (x : Setting) (given ves file : List (Value × Value)) : Option Value :=
  if x.isHidden given then none else over? (x.valueAt file) (x.valueAt ves)

lemma sourced_eq_ranked (h : ¬ x.IsMisplaced path given ves file) :
    sourced path (x.isHidden given) (x.valueAt given) (x.valueAt ves) (x.valueAt file) =
      x.ranked given ves file := by
  unfold ranked
  rcases path with _ | p
  · rfl
  rw [sourced_some]
  rcases hgiven : x.valueAt given with _ | v
  · rw [Option.none_or]
    rcases hfile : x.valueAt file with _ | w
    · simp [over?]
    · -- The file says something, so it is hidden where variables say something, and only there.
      have hhidden : ¬ (x.valueAt ves = none ↔ x.isHidden given = true) := fun hiff =>
        h ⟨Option.some_ne_none p, hgiven, by simp [hfile], hiff⟩
      rcases hvars : x.valueAt ves with _ | u <;> rw [hvars] at hhidden
      · have hshown : x.isHidden given = false := by simpa using hhidden
        rw [hshown]
        exact over?_none_right
      · have hhides : x.isHidden given = true := by simpa using hhidden
        rw [hhides]
        rfl
  · rfl

lemma sourced_eq_displaced (h : x.IsMisplaced path given ves file) :
    sourced path (x.isHidden given) (x.valueAt given) (x.valueAt ves) (x.valueAt file) =
      x.displaced given ves file := by
  obtain ⟨hpath, hgiven, -, hvars⟩ := h
  obtain ⟨p, rfl⟩ := Option.ne_none_iff_exists'.mp hpath
  rw [sourced_some, displaced, hgiven, Option.none_or]
  split_ifs with hhidden
  · exact hvars.mpr hhidden
  · rfl

end Setting

namespace Settings

/-- What a source says is valid: sections are mappings, and each setting can be read. -/
structure IsValid (es : List (Value × Value)) : Prop where
  maps : ∀ part ∈ parts, ∀ v, lookup es part = some v → ∃ inner, v = .map inner
  accepted : ∀ (x : Setting) v, x.valueAt es = some v → x.Accepts v

/-- What is merged of valid sources is valid. -/
lemma accepts_merged (hmerged : IsMerged path given ves file es) (hgiven : IsValid given)
    (hves : IsValid ves) (hfile : IsValid file) {x : Setting} {v : Value}
    (hv : x.valueAt es = some v) : x.Accepts v := by
  rw [Setting.valueAt_merged hmerged] at hv
  have hbelow : ∀ w, x.valueAt file = some w → x.Accepts w := hfile.accepted x
  rcases path with _ | p
  · rcases Option.or_eq_some_iff.mp hv with hv | ⟨-, hv⟩
    · exact Setting.accepts_of_over? (hgiven.accepted x) (hves.accepted x) hv
    · exact hbelow v hv
  · refine Setting.accepts_of_over? (fun w hw => ?_) (hves.accepted x) hv
    rcases Option.or_eq_some_iff.mp hw with hw | ⟨-, hw⟩
    · exact hgiven.accepted x w hw
    · split_ifs at hw
      exact hbelow w hw

/-- **Each setting is what the source of the highest rank says**, unless a file is named and the
setting is misplaced. Then it is what the file says, over variables, or the default where what is
given hides the file. -/
theorem held_by_rank (hbeneath : IsBeneath s path file) (hvars : variableEntries s = .ok ves)
    (hgiven : IsSource given) (hfile : IsSource file)
    (hskip : lookup ves Variables.skipKey = none)
    (htaken : AreTaken (passed path file given)) (hvalid : ∀ es ∈ [given, ves, file], IsValid es) :
    ∃ settings, (load s path given).value = .ok settings ∧ ∀ x : Setting,
      (¬ x.IsMisplaced path given ves file → x.Holds (x.ranked given ves file) settings) ∧
      (x.IsMisplaced path given ves file → x.Holds (x.displaced given ves file) settings) := by
  obtain ⟨hvalidGiven, hvalidVes, hvalidFile⟩ :
      IsValid given ∧ IsValid ves ∧ IsValid file := by simpa using hvalid
  have hves : IsSource ves := isSource_variables hvars hskip hvalidVes.maps
  obtain ⟨es, hmerged, hload⟩ := exists_merged hbeneath hvars hgiven hves hfile htaken
  obtain ⟨settings, hsettings⟩ := Setting.exists_ofEntries hmerged.sections fun x v =>
    accepts_merged hmerged hvalidGiven hvalidVes hvalidFile
  refine ⟨settings, (hload settings).mpr hsettings, fun x => ?_⟩
  have hholds := Setting.holds_of_ofEntries hmerged.sections hsettings x
  rw [Setting.valueAt_merged hmerged] at hholds
  constructor
  · intro h
    rwa [Setting.sourced_eq_ranked h] at hholds
  · intro h
    rwa [Setting.sourced_eq_displaced h] at hholds

/-! ### A variable and a file -/

/-- The number of workers, where entries say nothing else. -/
def workersAlone? : List (Value × Value) → Option Value
  | [(.str "parallel_workers", v)] => some v
  | _ => none

/-- A file of settings in the topmost directory, where the run is, and variables. -/
def withFile (text : String) (environment : List (String × String)) : Surroundings :=
  ⟨.dir [("specgrep.config.yaml", .file (Text.Utf8.encode text))], ⟨.root, []⟩, environment⟩

def filePath : Path := ⟨.root, ["specgrep.config.yaml"]⟩

/-- A file says four workers, a variable says two. -/
def twoOrFour : Surroundings :=
  withFile "parallel_workers: 4\n" [("SPECGREP_PARALLEL_WORKERS", "2")]

lemma exists_workers {ε : Type} {r : Except ε (List (Value × Value))} {n : Int}
    (h : ((r.toOption.bind workersAlone?).any
      fun v => (Schema.Read.integerWithin 1 64 v).toOption = some n) = true) :
    ∃ v, r = .ok [(.str "parallel_workers", v)] ∧ Schema.Read.integerWithin 1 64 v = .ok n := by
  obtain ⟨v, hv, hn⟩ := (Option.any_eq_true _ _).mp h
  obtain ⟨es, hes, halone⟩ := Option.bind_eq_some_iff.mp hv
  refine ⟨v, ?_, eq_ok_of_toOption (by simpa using hn)⟩
  unfold workersAlone? at halone
  split at halone
  · rw [eq_ok_of_toOption hes, Option.some.inj halone]
  · cases halone

lemma isSource_nil : IsSource [] where
  distinct := hasDistinctKeys_nil
  sections _ _ := .of_none rfl
  names _ h := absurd h List.not_mem_nil
  noSkip := rfl

lemma isValid_nil : IsValid [] where
  maps _ _ _ h := by cases h
  accepted x _ h := by cases x <;> cases h

section Workers

variable {v : Value}

lemma isSource_workers : IsSource [(.str "parallel_workers", v)] where
  distinct := List.nodup_singleton _
  sections part hpart := by
    rcases mem_parts_iff.mp hpart with rfl | rfl <;> exact .of_none (by simp [lookup])
  names name hname _ := by
    obtain rfl : name = "parallel_workers" := by simpa [textKeys, string?] using hname
    rw [show Text.lower "parallel_workers" = "parallel_workers" by decide]
    simp [lookup]
  noSkip := by simp [lookup, Variables.skipKey]

lemma isValid_workers {n : Int} (h : Schema.Read.integerWithin 1 64 v = .ok n) :
    IsValid [(.str "parallel_workers", v)] where
  maps part hpart w hw := by
    rcases mem_parts_iff.mp hpart with rfl | rfl <;> simp [lookup] at hw
  accepted x w hw := by
    cases x with
    | workers =>
      obtain rfl : v = w := by simpa [Setting.valueAt, Setting.section?, Setting.key, lookup] using hw
      exact ⟨⟨[], [], n, [], LogSettings.default⟩, h⟩
    | _ => simp [Setting.valueAt, Setting.section?, Setting.key, lookup, partOf] at hw

end Workers

/-- The variable counts over the file that is found. -/
theorem a_variable_over_the_file_found :
    ∃ settings, (load twoOrFour none []).value = .ok settings ∧ settings.workers = 2 := by
  obtain ⟨v, hvars, hv⟩ := @exists_workers _ (variableEntries twoOrFour) 2 (by decide +kernel)
  obtain ⟨w, hfile, hw⟩ := @exists_workers _
    (ConfigFile.load twoOrFour.tree twoOrFour.cwd filePath).value 4 (by decide +kernel)
  obtain ⟨settings, hload, hholds⟩ := held_by_rank (.found (by decide) hfile) hvars isSource_nil
    isSource_workers (by simp [lookup, Variables.skipKey]) areTaken_nil (by
      simp only [List.mem_cons, List.not_mem_nil, or_false]
      rintro es (rfl | rfl | rfl)
      · exact isValid_nil
      · exact isValid_workers hv
      · exact isValid_workers hw)
  have hworkers := (hholds .workers).1 (by simp [Setting.IsMisplaced])
  exact ⟨settings, hload, Except.ok.inj (hworkers.symm.trans hv)⟩

/-- The variable is lost to the same file that is named, and so is a level in a file that is named
to another setting of the log that is given. -/
theorem lost_where_the_file_is_named :
    (load twoOrFour (some filePath) []).value.toOption.map (·.workers) = some 4 ∧
    (load (withFile "logging: \x7blevel: DEBUG\x7d\n" []) none
      [(.str "logging", .map [(.str "json_output", .bool true)])]).value.toOption.map
        (·.logging.level) = some "DEBUG" ∧
    (load (withFile "logging: \x7blevel: DEBUG\x7d\n" []) (some filePath)
      [(.str "logging", .map [(.str "json_output", .bool true)])]).value.toOption.map
        (·.logging.level) = some "INFO" :=
  ⟨by decide +kernel, by decide +kernel, by decide +kernel⟩

end Settings

end Sieve
