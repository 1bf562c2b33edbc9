import Sieve.Proofs.Settings.TwoWays

/-!
Files of settings that are malformed.

A file is decoded only as far as it is read, and it is read to its first fault. A file that cannot
be read, is no YAML, or whose document is no mapping, counts as empty. Not so one that is no text as
far as it is read, or that has in it a scalar without a value or too much inside each other: it
fails, and no report is made of that if the file is named. A key that is no text, or a parameter of
the class of settings that is refused, fails there too. Where the file is found, only values other
than bad ones fail without a report.
-/

namespace Sieve.Settings

open Value Files Log

variable {s : Surroundings} {t : Tree} {base p : Path} {given es : List (Value × Value)}

/-- What a file of settings holds: nothing if it cannot be read, is no YAML or no mapping. -/
inductive Holds (t : Tree) (base p : Path) : List (Value × Value) → Prop
  | unreadable {f : ContentFault} : t.bytesAt base p = .error f → Holds t base p []
  | malformed {bytes : List UInt8} {f : Yaml.Fault} : t.bytesAt base p = .ok bytes →
    readDocument bytes = .error f → (∀ e, f ≠ .undecodable e) →
    (∀ kind message, f ≠ .failed kind message) → Holds t base p []
  | other {bytes : List UInt8} {v : Value} : t.bytesAt base p = .ok bytes →
    readDocument bytes = .ok v → (∀ es, v ≠ .map es) → Holds t base p []
  | mapping {bytes : List UInt8} {es : List (Value × Value)} : t.bytesAt base p = .ok bytes →
    readDocument bytes = .ok (.map es) → Holds t base p es

lemma value_entriesOf_eq_ok_iff {bytes : List UInt8} :
    (ConfigFile.entriesOf p bytes).value = .ok es ↔
      (∃ f, readDocument bytes = .error f ∧ (∀ e, f ≠ .undecodable e) ∧
        (∀ kind message, f ≠ .failed kind message) ∧ es = []) ∨
      (∃ v, readDocument bytes = .ok v ∧ (∀ es, v ≠ .map es) ∧ es = []) ∨
      readDocument bytes = .ok (.map es) := by
  unfold ConfigFile.entriesOf
  rcases readDocument bytes with f | v
  · cases f <;> simp [eq_comm]
  · cases v <;> simp [eq_comm]

/-- **A file is loaded** with what it holds. -/
theorem value_load_eq_ok_iff : (ConfigFile.load t base p).value = .ok es ↔ Holds t base p es := by
  have hload : (ConfigFile.load t base p).value = .ok es ↔
      (∃ f, t.bytesAt base p = .error f ∧ es = []) ∨
      ∃ bytes, t.bytesAt base p = .ok bytes ∧ (ConfigFile.entriesOf p bytes).value = .ok es := by
    unfold ConfigFile.load
    rcases t.bytesAt base p with f | bytes <;> simp [eq_comm]
  rw [hload]
  simp only [value_entriesOf_eq_ok_iff]
  constructor
  · rintro (⟨f, hf, rfl⟩ | ⟨bytes, hbytes,
      ⟨f, hdoc, hdecodes, hf, rfl⟩ | ⟨v, hdoc, hv, rfl⟩ | hdoc⟩)
    · exact .unreadable hf
    · exact .malformed hbytes hdoc hdecodes hf
    · exact .other hbytes hdoc hv
    · exact .mapping hbytes hdoc
  · rintro (hf | ⟨hbytes, hdoc, hdecodes, hf⟩ | ⟨hbytes, hdoc, hv⟩ | ⟨hbytes, hdoc⟩)
    · exact Or.inl ⟨_, hf, rfl⟩
    · exact Or.inr ⟨_, hbytes, Or.inl ⟨_, hdoc, hdecodes, hf, rfl⟩⟩
    · exact Or.inr ⟨_, hbytes, Or.inr (Or.inl ⟨_, hdoc, hv, rfl⟩)⟩
    · exact Or.inr ⟨_, hbytes, Or.inr (Or.inr hdoc)⟩

/-- A file that is named says that another one is to be looked for. -/
def LooksOn (es : List (Value × Value)) : Prop :=
  ∃ v, lookup es Variables.skipKey = some v ∧ v.isTruthy = false

/-- The file that is found has something in it without a value, and not just a bad value. -/
def FoundFails (s : Surroundings) : Prop :=
  ∃ p kind message, ConfigFile.find? s.tree s.cwd = some p ∧
    FileFails s.tree s.cwd p (.noValue kind message) ∧ kind ≠ .value

/-- The settings cannot be loaded, and that is not reported. -/
def FailsUnreported (s : Surroundings) (path : Option Path) (given : List (Value × Value)) : Prop :=
  ∃ f, (load s path given).value = .error f ∧ ¬ f.IsReported

lemma HasNoVariables.not_variablesFail {f : LoadFault} (h : HasNoVariables s) :
    ¬ VariablesFail s f := by
  rw [← variableEntries_eq_error_iff, h.variableEntries_eq]
  simp

instance (f : LoadFault) : Decidable f.IsReported :=
  match f with
  | .missing _ | .invalid _ => .isTrue trivial
  | .keyType | .parameter _ | .instruction _ | .source _ | .file _ => .isFalse id

instance (s : Surroundings) (path : Option Path) (given : List (Value × Value)) :
    Decidable (FailsUnreported s path given) :=
  match h : (load s path given).value with
  | .ok _ => .isFalse (by simp [FailsUnreported, h])
  | .error f => decidable_of_iff (¬ f.IsReported) (by simp [FailsUnreported, h])

/-- Without variables, settings fail unreported for a file that is named and fails, for what is read
of it, or for a file that is found. -/
lemma exists_unloadable_iff {path : Option Path} (hvars : HasNoVariables s) :
    (∃ f, Unloadable s path given f) ↔
      (∃ p f, path = some p ∧ s.tree.existsAt s.cwd p = true ∧ FileFails s.tree s.cwd p f) ∨
      ∃ es, Reads s path es ∧
        (¬ HasTextKeys es ∨ Parameter.refusal? es ≠ none ∨ Parameter.lateRefusal? es ≠ none ∨
          LooksForFile (deepEntries (renameGiven (passed path es given)) []) ∧ FoundFails s) := by
  constructor
  · rintro ⟨f, hf⟩
    cases hf with
    | named hpath hexists hfails => exact Or.inl ⟨_, _, hpath, hexists, hfails⟩
    | key h hkeys => exact Or.inr ⟨_, h, Or.inl hkeys⟩
    | parameter h _ hnow => exact Or.inr ⟨_, h, Or.inr (Or.inl (by simp [hnow]))⟩
    | vars _ _ _ hfails => exact absurd hfails hvars.not_variablesFail
    | late h _ _ _ hlate => exact Or.inr ⟨_, h, Or.inr (Or.inr (Or.inl (by simp [hlate])))⟩
    | found h _ _ hves _ hlooks hfind hfails hkind =>
      rw [hvars.variableEntries_eq, Except.ok.injEq] at hves
      subst hves
      exact Or.inr ⟨_, h, Or.inr (Or.inr (Or.inr ⟨hlooks, _, _, _, hfind, hfails, hkind⟩))⟩
  · rintro (⟨p, f, hpath, hexists, hfails⟩ | ⟨es, h, hes⟩)
    · exact ⟨_, .named hpath hexists hfails⟩
    · -- the faults in the order in which they are met
      by_cases hkeys : HasTextKeys es
      · rcases hnow : Parameter.refusal? es with _ | message
        · rcases hlate : Parameter.lateRefusal? es with _ | message
          · obtain ⟨hlooks, q, kind, message, hfind, hfails, hkind⟩ :
                LooksForFile _ ∧ FoundFails s := by simpa [hkeys, hnow, hlate] using hes
            exact ⟨_, .found h hkeys hnow hvars.variableEntries_eq hlate hlooks hfind hfails hkind⟩
          · exact ⟨_, .late h hkeys hnow hvars.variableEntries_eq hlate⟩
        · exact ⟨_, .parameter h hkeys hnow⟩
      · exact ⟨_, .key h hkeys⟩

section Loaded

variable (hdistinct : HasDistinctKeys given) (hskip : lookup given Variables.skipKey = none)
include hdistinct hskip

/-- No file but the one that is named is looked for, unless that asks for it. -/
lemma looksForFile_named_iff (hload : (ConfigFile.load s.tree s.cwd p).value = .ok es) :
    LooksForFile (deepEntries (renameGiven (passed (some p) es given)) []) ↔ LooksOn es := by
  have hlookup : lookup (deepEntries (renameGiven (passed (some p) es given)) [])
      Variables.skipKey = (lookup es Variables.skipKey).or (some (.bool true)) := by
    rw [lookup_deepEntries hasDistinctKeys_renameGiven,
      lookup_renameGiven_skipKey hasDistinctKeys_passed_named,
      lookup_passed_skipKey (isFilled_of_load hload).1 hdistinct hskip]
    exact over?_none_right
  unfold LooksForFile LooksOn
  rw [hlookup]
  rcases lookup es Variables.skipKey with _ | v <;> simp [isTruthy]

/-- The nearest file is looked for if none is named. -/
lemma looksForFile_unnamed : LooksForFile (deepEntries (renameGiven given) []) := by
  unfold LooksForFile
  rw [lookup_deepEntries hasDistinctKeys_renameGiven, lookup_renameGiven_skipKey hdistinct, hskip]
  rfl

variable (hvars : HasNoVariables s) (htext : HasTextKeys given) (hnone : HasNoParameters given)
include hvars htext hnone

/-- A file that is named fails with any fault, or for a key that is no text, or for a parameter that
is refused. -/
lemma failsUnreported_named_iff (hexists : s.tree.existsAt s.cwd p = true)
    (hfollowed : FollowsNothing s (some p)) :
    FailsUnreported s (some p) given ↔ (∃ f, FileFails s.tree s.cwd p f) ∨
      ∃ es, Holds s.tree s.cwd p es ∧
        (¬ HasTextKeys es ∨ Parameter.refusal? es ≠ none ∨ Parameter.lateRefusal? es ≠ none ∨
          LooksOn es ∧ FoundFails s) := by
  simp only [FailsUnreported, unreported_iff_unloadable hdistinct htext hnone hfollowed,
    exists_unloadable_iff hvars, ← value_load_eq_ok_iff]
  constructor
  · rintro (⟨q, f, hq, -, hfails⟩ | ⟨es, h, hes⟩)
    · exact Or.inl ⟨f, Option.some.inj hq ▸ hfails⟩
    · cases h with
      | named _ hload =>
        rw [looksForFile_named_iff hdistinct hskip hload] at hes
        exact Or.inr ⟨es, hload, hes⟩
  · rintro (⟨f, hfails⟩ | ⟨es, hload, hes⟩)
    · exact Or.inl ⟨p, f, rfl, hexists, hfails⟩
    · rw [← looksForFile_named_iff hdistinct hskip hload] at hes
      exact Or.inr ⟨es, .named hexists hload, hes⟩

/-- A file that is found fails for a scalar without a value that is more than a bad one. -/
lemma failsUnreported_found_iff : FailsUnreported s none given ↔ FoundFails s := by
  simp only [FailsUnreported, unreported_iff_unloadable hdistinct htext hnone followsNothing_none,
    exists_unloadable_iff hvars]
  constructor
  · rintro (⟨p, f, hp, -⟩ | ⟨es, h, hes⟩)
    · cases hp
    · cases h
      rcases hes with hkeys | hnow | hlate | ⟨-, hfails⟩
      · exact absurd (List.forall_mem_nil _) hkeys
      · exact absurd rfl hnow
      · exact absurd rfl hlate
      · exact hfails
  · exact fun h => Or.inr ⟨[], .unnamed,
      Or.inr (Or.inr (Or.inr ⟨looksForFile_unnamed hdistinct hskip, h⟩))⟩

end Loaded

lemma eq_ok_nil {ε α : Type} {r : Except ε (List α)} (h : (r.toOption.any List.isEmpty) = true) :
    r = .ok [] := by
  obtain ⟨l, hl, hnil⟩ := (Option.any_eq_true _ _).mp h
  rw [eq_ok_of_toOption hl, List.isEmpty_iff.mp hnil]

/-- A file of bytes in the topmost directory, where the run is. -/
def withBytes (bytes : List UInt8) : Surroundings :=
  ⟨.dir [("specgrep.config.yaml", .file bytes)], ⟨.root, []⟩, []⟩

end Sieve.Settings
