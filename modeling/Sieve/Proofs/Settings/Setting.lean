import Sieve.Proofs.Settings.Sources

/-!
The settings one by one.

Each of them stands under a key of its own, in a section or by itself, and is read from what stands
there. So settings are read from entries if each one can be read, and hold what the entries say.
-/

namespace Sieve

open Value Schema

/-- The settings that sources decide. -/
inductive Setting where
  | patterns
  | excludes
  | workers
  | env (key : String)
  | level
  | json
  | file
  | moduleLevels
deriving DecidableEq

namespace Setting

variable {x : Setting} {es : List (Value × Value)} {v : Value} {settings : Settings}

/-- The section that the setting stands in. -/
def section? : Setting → Option String
  | patterns | excludes | workers => none
  | env _ => some "env"
  | level | json | file | moduleLevels => some "logging"

def key : Setting → String
  | patterns => "spec_pattern"
  | excludes => "exclude_spec_pattern"
  | workers => "parallel_workers"
  | env key => key
  | level => "level"
  | json => "json_output"
  | file => "file"
  | moduleLevels => "module_levels"

/-- What entries say of the setting. -/
def valueAt (x : Setting) (es : List (Value × Value)) : Option Value :=
  match x.section? with
  | none => lookup es x.key
  | some part => lookup (Settings.partOf es part) x.key

/-- A value that is read, or a default. -/
def readOr {α : Type} (f : Value → Read α) (default : α) : Option Value → Read α
  | some v => f v
  | none => .ok default

/-- The setting is read from a value, or is the default if there is none. -/
def Holds (x : Setting) (v : Option Value) (s : Settings) : Prop :=
  match x with
  | patterns => readOr Settings.readPatterns [] v = .ok s.patterns
  | excludes => readOr Settings.readPatterns [] v = .ok s.excludes
  | workers => readOr (Read.integerWithin 1 64) 8 v = .ok s.workers
  | env key => s.env.lookup key = v
  | level => readOr LogSettings.readLevel LogSettings.default.level v = .ok s.logging.level
  | json => readOr (Read.optional Read.boolean) none v = .ok s.logging.json
  | file => readOr (Read.optional Read.text) none v = .ok s.logging.file
  | moduleLevels => readOr (Read.dictionary Read.text) [] v = .ok s.logging.moduleLevels

/-- The setting can be read from the value. -/
def Accepts (x : Setting) (v : Value) : Prop := ∃ s, x.Holds (some v) s

end Setting

/-! ### Reading -/

namespace Schema

variable {α : Type} {es : List (Value × Value)} {k : String} {f : Value → Read α} {default a : α}

lemma field_eq_ok_iff : Read.field es k f default = .ok a ↔
    Setting.readOr f default (lookup es k) = .ok a := by
  unfold Read.field
  rcases lookup es k with _ | v
  · rfl
  · exact at_eq_ok_iff

/-- A dictionary is read if each key and each value is. -/
lemma exists_dictionary_iff : (∃ l, Read.dictionary f (.map es) = .ok l) ↔
    ∀ e ∈ es, (∃ name, Read.text e.1 = .ok name) ∧ ∃ a, f e.2 = .ok a := by
  change (∃ l, Read.dictionary.entries f es = .ok l) ↔ _
  induction es with
  | nil => simp [Read.dictionary.entries]
  | cons e es ih =>
    obtain ⟨key, v⟩ := e
    rw [List.forall_mem_cons, ← ih, Read.dictionary.entries]
    simp only [map_eq_ok_iff, both_eq_ok_iff, at_eq_ok_iff]
    constructor
    · rintro ⟨l, ⟨⟨⟨name, a⟩, rest⟩, ⟨⟨hname, ha⟩, hrest⟩, -⟩⟩
      exact ⟨⟨⟨name, hname⟩, a, ha⟩, rest, hrest⟩
    · rintro ⟨⟨⟨name, hname⟩, a, ha⟩, rest, hrest⟩
      exact ⟨_, ((name, a), rest), ⟨⟨hname, ha⟩, hrest⟩, rfl⟩

end Schema

lemma LogSettings.read_map_eq_ok_iff {es : List (Value × Value)} {l : LogSettings} :
    LogSettings.read (.map es) = .ok l ↔
      Setting.readOr LogSettings.readLevel LogSettings.default.level (lookup es "level") =
        .ok l.level ∧
      Setting.readOr (Read.optional Read.boolean) none (lookup es "json_output") = .ok l.json ∧
      Setting.readOr (Read.optional Read.text) none (lookup es "file") = .ok l.file ∧
      Setting.readOr (Read.dictionary Read.text) [] (lookup es "module_levels") =
        .ok l.moduleLevels := by
  unfold LogSettings.read
  simp only [map_eq_ok_iff, both_eq_ok_iff, Prod.exists, field_eq_ok_iff]
  constructor
  · rintro ⟨level, json, file, moduleLevels, ⟨⟨hlevel, hjson⟩, hfile, hmodules⟩, rfl⟩
    exact ⟨hlevel, hjson, hfile, hmodules⟩
  · rintro ⟨hlevel, hjson, hfile, hmodules⟩
    exact ⟨_, _, _, _, ⟨⟨hlevel, hjson⟩, hfile, hmodules⟩, rfl⟩

namespace Setting

variable {x : Setting} {es : List (Value × Value)} {v : Value} {settings : Settings}

open Settings

/-- **All settings hold what the entries say of them.** -/
theorem holds_of_ofEntries (hsections : ∀ part ∈ parts, HasSection es part)
    (h : ofEntries es = .ok settings) (x : Setting) : x.Holds (x.valueAt es) settings := by
  obtain ⟨hpatterns, hexcludes, hworkers, henv, hlogging⟩ := ofEntries_eq_ok_iff.mp h
  rw [field_eq_ok_iff] at hpatterns hexcludes hworkers henv hlogging
  have hlog : ∀ l, readOr LogSettings.read LogSettings.default (lookup es "logging") = .ok l →
      LogSettings.read (.map (partOf es "logging")) = .ok l := by
    intro l hl
    rcases (hsections "logging" (by decide)).none_or_map with hnone | hmap
    · rw [hnone] at hl
      rw [partOf_eq_nil hnone, ← hl]
      rfl
    · rw [hmap] at hl
      exact hl
  obtain ⟨hlevel, hjson, hfile, hmodules⟩ :=
    LogSettings.read_map_eq_ok_iff.mp (hlog _ hlogging)
  cases x with
  | patterns => exact hpatterns
  | excludes => exact hexcludes
  | workers => exact hworkers
  | level => exact hlevel
  | json => exact hjson
  | file => exact hfile
  | moduleLevels => exact hmodules
  | env key =>
    change settings.env.lookup key = lookup (partOf es "env") key
    rcases (hsections "env" (by decide)).none_or_map with hnone | hmap
    · rw [hnone] at henv
      rw [partOf_eq_nil hnone, ← Except.ok.inj henv]
      rfl
    · have htext : IsTextMapping (partOf es "env") :=
        ⟨(hsections "env" (by decide)).text rfl, (hsections "env" (by decide)).distinct⟩
      rw [← lookup_map_str]
      exact congrArg (lookup · key) (envEntries_eq h hmap htext)

/-! ### What can be read -/

lemma holds_none (x : Setting) : x.Holds none ⟨[], [], 8, [], LogSettings.default⟩ := by
  cases x <;> rfl

/-- A setting is read from what it accepts, or is the default. -/
lemma exists_holds {o : Option Value} (h : ∀ v, o = some v → x.Accepts v) :
    ∃ settings, x.Holds o settings := by
  rcases o with _ | v
  · exact ⟨_, holds_none x⟩
  · exact h v rfl

/-- **Settings are read** from entries in which each value is accepted. -/
theorem exists_ofEntries (hsections : ∀ part ∈ parts, HasSection es part)
    (h : ∀ (x : Setting) v, x.valueAt es = some v → x.Accepts v) :
    ∃ settings, ofEntries es = .ok settings := by
  -- For each setting there are settings that hold it; their parts are put together.
  choose held hheld using fun x : Setting => exists_holds (h x)
  obtain ⟨logging, hlogging⟩ : ∃ logging,
      readOr LogSettings.read LogSettings.default (lookup es "logging") = .ok logging := by
    rcases (hsections "logging" (by decide)).none_or_map with hnone | hmap
    · exact ⟨_, by rw [hnone]; rfl⟩
    · refine ⟨⟨(held level).logging.level, (held json).logging.json, (held file).logging.file,
        (held moduleLevels).logging.moduleLevels⟩, ?_⟩
      rw [hmap]
      exact LogSettings.read_map_eq_ok_iff.mpr
        ⟨hheld level, hheld json, hheld file, hheld moduleLevels⟩
  obtain ⟨env, henv⟩ : ∃ env,
      readOr (Read.dictionary fun v => .ok v) [] (lookup es "env") = .ok env := by
    have hsection := hsections "env" (by decide)
    rcases hsection.none_or_map with hnone | hmap
    · exact ⟨_, by rw [hnone]; rfl⟩
    · obtain ⟨env, henv, -⟩ := exists_dictionary ⟨hsection.text rfl, hsection.distinct⟩
      exact ⟨env, by rw [hmap]; exact henv⟩
  refine ⟨⟨(held patterns).patterns, (held excludes).excludes, (held workers).workers, env,
    logging⟩, ofEntries_eq_ok_iff.mpr ?_⟩
  simp only [field_eq_ok_iff]
  exact ⟨hheld patterns, hheld excludes, hheld workers, henv, hlogging⟩

/-! ### Values over others -/

lemma accepts_env {key : String} : (env key).Accepts v :=
  ⟨⟨[], [], 8, [(key, v)], LogSettings.default⟩, by simp [Holds]⟩

lemma accepts_moduleLevels_iff : moduleLevels.Accepts (.map es) ↔
    ∀ e ∈ es, (∃ name, Read.text e.1 = .ok name) ∧ ∃ level, Read.text e.2 = .ok level := by
  rw [← exists_dictionary_iff]
  constructor
  · rintro ⟨s, h⟩
    exact ⟨_, h⟩
  · rintro ⟨l, h⟩
    exact ⟨⟨[], [], 8, [], { LogSettings.default with moduleLevels := l }⟩, h⟩

/-- Of two mappings from modules to levels the entries are laid over each other, as no level is a
mapping. -/
lemma accepts_deepEntries {top : List (Value × Value)} (htop : moduleLevels.Accepts (.map top))
    (h : moduleLevels.Accepts (.map es)) : moduleLevels.Accepts (.map (deepEntries top es)) := by
  rw [accepts_moduleLevels_iff] at *
  refine forall_deepEntries (P := fun key => ∃ name, Read.text key = .ok name)
    (Q := fun v => ∃ level, Read.text v = .ok level) htop h fun v old hv => ?_
  have hmap : ∀ es, v ≠ .map es := by
    rintro es rfl
    obtain ⟨level, hlevel⟩ := hv
    cases hlevel
  rwa [deepOver_of_ne_map hmap]

/-- What is accepted may be laid over what is. -/
lemma Accepts.deepOver {old : Option Value} (hv : x.Accepts v)
    (hold : ∀ w, old = some w → x.Accepts w) : x.Accepts (deepOver v old) := by
  by_cases hmap : ∃ top, v = .map top
  · obtain ⟨top, rfl⟩ := hmap
    rcases deepOver_map top old with ⟨below, hbelow, hover⟩ | ⟨-, hover⟩
    · rw [hover]
      cases x with
      | env key => exact accepts_env
      | moduleLevels => exact accepts_deepEntries hv (hold _ hbelow)
      | patterns | excludes | workers | level | json | file =>
        -- None of these is read from a mapping.
        obtain ⟨s, h⟩ := hv
        cases h
    · rwa [hover]
  · rwa [deepOver_of_ne_map fun es hes => hmap ⟨es, hes⟩]

lemma accepts_of_over? {top old : Option Value} (htop : ∀ w, top = some w → x.Accepts w)
    (hold : ∀ w, old = some w → x.Accepts w) (h : over? top old = some v) : x.Accepts v := by
  rcases top with _ | w
  · exact hold v h
  · cases h
    exact (htop w rfl).deepOver hold

end Setting

end Sieve
