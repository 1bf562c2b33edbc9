import Sieve.Proofs.Files.Path
import Sieve.Settings.ConfigFile

/-!
The search for a file of settings.

The search looks into a directory and those above it, one after another, and stops at the first one
in which a file of settings lies, at the topmost one, or when its depth is used up. So it finds the
nearest file if and only if that lies less than the depth above the start, and nothing otherwise.
-/

namespace Sieve

open Files

/-! ### Directories above -/

namespace Files.Path

variable {p : Path} {d : Nat}

/-- The directory so many levels up: the path without its last names, or the anchor if there are no
more of them. -/
def above (p : Path) (d : Nat) : Path := { p with parts := p.parts.rdrop d }

lemma above_zero : p.above 0 = p := by
  rw [above, List.rdrop_zero]

lemma above_succ : p.above (d + 1) = p.parent.above d := by
  unfold above parent
  rcases List.eq_nil_or_concat p.parts with hnil | ⟨names, name, hparts⟩
  · simp [hnil]
  · rw [hparts, List.concat_eq_append, List.rdrop_concat_succ, List.dropLast_concat]

lemma above_of_parent_eq (h : p.parent = p) : p.above d = p := by
  induction d with
  | zero => exact above_zero
  | succ d ih =>
    rw [above_succ, h]
    exact ih

end Files.Path

namespace Settings

variable {t : Tree} {start dir p : Path} {k d : Nat} {α : Type} {f : Path → Option α} {a : α}

/-- A file of settings lies in a directory under the first of its names, or under the second where
nothing lies under the first. -/
inductive LiesIn (t : Tree) (dir : Path) : Path → Prop
  | yaml : (t.find? (dir.join ⟨.here, ["specgrep.config.yaml"]⟩)).isSome = true →
    LiesIn t dir (dir.join ⟨.here, ["specgrep.config.yaml"]⟩)
  | yml : (t.find? (dir.join ⟨.here, ["specgrep.config.yaml"]⟩)).isSome = false →
    (t.find? (dir.join ⟨.here, ["specgrep.config.yml"]⟩)).isSome = true →
    LiesIn t dir (dir.join ⟨.here, ["specgrep.config.yml"]⟩)

/-- The nearest file of settings lies so many levels up. -/
structure IsNearest (t : Tree) (start : Path) (d : Nat) (p : Path) : Prop where
  lies : LiesIn t (start.above d) p
  nearer : ∀ e < d, ∀ q, ¬ LiesIn t (start.above e) q

namespace ConfigFile

/-- The file of settings of one directory. -/
def fileIn? (t : Tree) (dir : Path) : Option Path :=
  (names.map fun n => dir.join ⟨.here, [n]⟩).find? fun p => (t.find? p).isSome

lemma fileIn?_eq_some_iff : fileIn? t dir = some p ↔ LiesIn t dir p := by
  unfold fileIn? names
  simp only [List.map_cons, List.map_nil, List.find?_cons, List.find?_nil]
  constructor
  · intro h
    split at h
    · rename_i hyaml
      cases h
      exact .yaml hyaml
    · rename_i hyaml
      split at h
      · rename_i hyml
        cases h
        exact .yml hyaml hyml
      · cases h
  · intro h
    cases h with
    | yaml hyaml => rw [hyaml]
    | yml hyaml hyml => rw [hyaml, hyml]

lemma fileIn?_eq_none_iff : fileIn? t dir = none ↔ ∀ p, ¬ LiesIn t dir p := by
  simp only [← fileIn?_eq_some_iff, Option.eq_none_iff_forall_ne_some, ne_eq]

lemma isNearest_iff : IsNearest t start d p ↔
    fileIn? t (start.above d) = some p ∧ ∀ e < d, fileIn? t (start.above e) = none := by
  simp only [fileIn?_eq_some_iff, fileIn?_eq_none_iff]
  exact ⟨fun ⟨hlies, hnearer⟩ => ⟨hlies, hnearer⟩, fun ⟨hlies, hnearer⟩ => ⟨hlies, hnearer⟩⟩

instance : Decidable (IsNearest t start d p) := decidable_of_iff _ isNearest_iff.symm

/-! ### The way up -/

lemma mem_upwards_iff : dir ∈ upwards k start ↔ ∃ d < k, start.above d = dir := by
  induction k generalizing start with
  | zero => simp [upwards]
  | succ k ih =>
    rw [upwards, List.mem_cons, Nat.exists_lt_succ_left, @eq_comm _ dir]
    simp only [Path.above_zero, Path.above_succ]
    split_ifs with htop
    · -- Above the topmost directory there is no other one.
      simp [htop, Path.above_of_parent_eq htop]
    · rw [ih]

/-- On the way up, what is first found is found at the least level. -/
lemma findSome?_upwards_eq_some_iff : (upwards k start).findSome? f = some a ↔
    ∃ d < k, f (start.above d) = some a ∧ ∀ e < d, f (start.above e) = none := by
  induction k generalizing start with
  | zero => simp [upwards]
  | succ k ih =>
    rw [upwards, List.findSome?_cons, Nat.exists_lt_succ_left]
    simp only [Nat.forall_lt_succ_left, Path.above_zero, Path.above_succ]
    rcases hstart : f start with _ | b
    · -- Nothing is here, so all levels are those from the directory above.
      simp only [reduceCtorEq, false_and, true_and, false_or]
      split_ifs with htop
      · refine iff_of_false (by simp) ?_
        rintro ⟨d, -, ha, -⟩
        rw [htop, Path.above_of_parent_eq htop, hstart] at ha
        cases ha
      · exact ih
    · simp

lemma find?_eq_findSome? : find? t start = (upwards searchDepth start).findSome? (fileIn? t) :=
  List.find?_flatMap

/-- **The nearest file is found** if it lies less than the depth of the search above the start. -/
theorem find?_eq_some_iff : find? t start = some p ↔ ∃ d < searchDepth, IsNearest t start d p := by
  rw [find?_eq_findSome?, findSome?_upwards_eq_some_iff]
  simp only [isNearest_iff]

/-- Nothing is found if no file lies as near. -/
theorem find?_eq_none_iff :
    find? t start = none ↔ ∀ d < searchDepth, ∀ q, ¬ LiesIn t (start.above d) q := by
  rw [find?_eq_findSome?, List.findSome?_eq_none_iff]
  simp only [mem_upwards_iff, fileIn?_eq_none_iff]
  constructor
  · intro h d hd
    exact h _ ⟨d, hd, rfl⟩
  · rintro h dir ⟨d, hd, rfl⟩
    exact h d hd

/-- A file that is found from an absolute directory has an absolute path. -/
lemma isAbsolute_of_find? (habsolute : start.isAbsolute = true) (h : find? t start = some p) :
    p.isAbsolute = true := by
  obtain ⟨d, -, hnearest⟩ := find?_eq_some_iff.mp h
  have hanchor : p.anchor = start.anchor := by
    cases hnearest.lies <;> rfl
  rw [Path.isAbsolute, hanchor]
  exact habsolute

end ConfigFile

end Settings

end Sieve
