import Sieve.Proofs.Spec.Steps

/-!
The names of a document.

They are those of its root and its items, in the same order. Without a broken rule the walk over
them fails only for an integer that cannot be written, or for a document that is one of its own
suites: that is then the first place that the walk does not pass.
-/

namespace Sieve.Spec

open Document

/-! ### The root -/

/-- The items of a document with that root. -/
def Mapping.items (root : Mapping) : List Item := itemsBelow root roundLimit root.entries [] []

/-- The name of the root can be read, if it has one. -/
def Mapping.IsNamed (root : Mapping) : Prop :=
  hasKey root.entries "suite" = true → ∃ name, NameIs root.entries "suite" name

variable {root : Mapping} {d : Document}

/-- An item stops a walk that gets past the items before it. -/
def FirstStop (passes : List Item → Prop) (stops : Item → Prop) (l : List Item) : Prop :=
  ∃ before x after, l = before ++ x :: after ∧ passes before ∧ stops x

lemma firstStop_or_iff {passes : List Item → Prop} {stops stops' : Item → Prop} {l : List Item} :
    FirstStop passes (fun x => stops x ∨ stops' x) l ↔
      FirstStop passes stops l ∨ FirstStop passes stops' l := by
  simp only [FirstStop, ← exists_or, ← and_or_left]

/-! ### Names -/

/-- The name of the root, if it has one. -/
def Mapping.ownNames (root : Mapping) : List Name :=
  if hasKey root.entries "suite" then [.suite (nameIn root.entries "suite")] else []

section NameOfSuite

lemma failure_nameOfSuite_eq_none_iff :
    (nameOfSuite root.entries root.line []).failure = none ↔ root.IsNamed := by
  unfold nameOfSuite Mapping.IsNamed
  by_cases h : hasKey root.entries "suite" = true
  · simp [h, Walk.failure_after_eq_none_iff, readName_eq_ok_iff, Walk.one]
  · simp [h, Walk.nothing]

lemma failure_nameOfSuite_eq_noText_iff :
    (nameOfSuite root.entries root.line []).failure = some .noText ↔
      NameUnwritable root.entries "suite" := by
  unfold nameOfSuite
  by_cases h : hasKey root.entries "suite" = true
  · simp [h, Walk.failure_after_eq_some_iff, readName_eq_noText_iff, Walk.one]
  · simp only [h, Walk.nothing, Bool.false_eq_true, if_false, reduceCtorEq, false_iff]
    exact not_nameUnwritable_of_not_hasKey (Bool.eq_false_iff.mpr h)

lemma failure_nameOfSuite_ne_endless :
    (nameOfSuite root.entries root.line []).failure ≠ some .endless := by
  unfold nameOfSuite
  by_cases h : hasKey root.entries "suite" = true
  · simp [h, Walk.failure_after_eq_some_iff, readName_ne_endless, Walk.one]
  · simp [h, Walk.nothing]

lemma items_nameOfSuite (h : root.IsNamed) :
    (nameOfSuite root.entries root.line []).items = root.ownNames := by
  unfold nameOfSuite Mapping.ownNames
  split_ifs with hsuite
  · obtain ⟨name, hn⟩ := h hsuite
    rw [readName_eq_ok_iff.mpr hn, nameIn_eq hn]
    rfl
  · rfl

end NameOfSuite

/-- The walk over the names of a document. -/
def Mapping.nameWalk (root : Mapping) : Walk Name :=
  (nameOfSuite root.entries root.line []).append
    ((checkTests root []).append (.along (nameStep root) root.items))

lemma names_eq : names (.map root.line root.entries) = root.nameWalk.toExcept.map .ofList := by
  unfold names Mapping.nameWalk
  simp only [rootOf, bind, Except.bind]
  rw [namesBelow_eq root roundLimit root.entries root.line [] []]
  rfl

/-- The walk over names gets past the items. -/
def Mapping.NamesPass (root : Mapping) (l : List Item) : Prop := ∀ x ∈ l, x.IsNamedIn root

/-- All names of the document can be read. -/
structure Mapping.HasNames (root : Mapping) : Prop where
  own : root.IsNamed
  listed : testsOf root.entries ≠ .malformed
  items : root.NamesPass root.items

lemma failure_nameWalk_eq_none_iff : root.nameWalk.failure = none ↔ root.HasNames := by
  simp only [Mapping.nameWalk, Walk.failure_append_eq_none_iff, failure_nameOfSuite_eq_none_iff,
    failure_checkTests_eq_none_iff, Walk.failure_along_eq_none_iff, failure_nameStep_eq_none_iff]
  exact ⟨fun ⟨h, h', h''⟩ => ⟨h, h', h''⟩, fun h => ⟨h.own, h.listed, h.items⟩⟩

lemma items_nameWalk (h : root.nameWalk.failure = none) :
    root.nameWalk.items = root.ownNames ++ root.items.filterMap (Item.name? root) := by
  obtain ⟨hroot, hlisted, hitems⟩ := failure_nameWalk_eq_none_iff.mp h
  have hsteps : (Walk.along (nameStep root) root.items).failure = none := by
    rw [Walk.failure_along_eq_none_iff]
    intro x hx
    exact failure_nameStep_eq_none_iff.mpr (hitems x hx)
  have hmet : root.items.flatMap (fun x => (nameStep root x).items) =
      root.items.flatMap fun x => (x.name? root).toList := by
    refine List.flatMap_congr fun x hx => ?_
    exact items_nameStep (hitems x hx)
  rw [Mapping.nameWalk, Walk.items_append_of_none (failure_nameOfSuite_eq_none_iff.mpr hroot),
    items_nameOfSuite hroot, Walk.items_append_of_none (failure_checkTests_eq_none_iff.mpr hlisted),
    items_checkTests, Walk.items_along hsteps, hmet, List.nil_append,
    List.filterMap_eq_flatMap_toList]

/-- Where no rule is broken, the walk fails at its first name or at an item. -/
lemma failure_nameWalk_eq_some_iff {e : Failure} (hrule : ∀ v, .violation v ≠ e) :
    root.nameWalk.failure = some e ↔
      (nameOfSuite root.entries root.line []).failure = some e ∨
      (root.IsNamed ∧ testsOf root.entries ≠ .malformed ∧
        FirstStop root.NamesPass (fun x => (nameStep root x).failure = some e)
          root.items) := by
  simp only [Mapping.nameWalk, Walk.failure_append_eq_some_iff, failure_nameOfSuite_eq_none_iff,
    failure_checkTests_eq_none_iff, failure_checkTests_ne hrule, false_or, FirstStop,
    Walk.failure_along_eq_some_iff, failure_nameStep_eq_none_iff, Mapping.NamesPass]

/-- **The names of a document** are those of its root and its items. -/
theorem names_eq_ok_iff {ns : Names} :
    names (.map root.line root.entries) = .ok ns ↔
      root.HasNames ∧ ns = .ofList (root.ownNames ++ root.items.filterMap (Item.name? root)) := by
  rw [names_eq, map_eq_ok_iff]
  simp only [Walk.toExcept_eq_ok_iff]
  constructor
  · rintro ⟨l, ⟨h, rfl⟩, rfl⟩
    exact ⟨failure_nameWalk_eq_none_iff.mp h, by rw [items_nameWalk h]⟩
  · rintro ⟨h, rfl⟩
    have hnone := failure_nameWalk_eq_none_iff.mpr h
    exact ⟨_, ⟨hnone, items_nameWalk hnone⟩, rfl⟩

/-- The first name that cannot be read may be an integer that cannot be written. -/
theorem names_eq_noText_iff :
    names (.map root.line root.entries) = .error .noText ↔
      NameUnwritable root.entries "suite" ∨
      (root.IsNamed ∧ testsOf root.entries ≠ .malformed ∧
        FirstStop root.NamesPass (Item.NameUnwritableIn root) root.items) := by
  rw [names_eq, map_eq_error_iff, Walk.toExcept_eq_error_iff,
    failure_nameWalk_eq_some_iff (by simp)]
  simp only [failure_nameOfSuite_eq_noText_iff, failure_nameStep_eq_noText_iff]

/-- The first item without a name to read may be the document once too often. -/
theorem names_eq_endless_iff :
    names (.map root.line root.entries) = .error .endless ↔
      root.IsNamed ∧ testsOf root.entries ≠ .malformed ∧
        FirstStop root.NamesPass (Item.NameEndlessIn root) root.items := by
  rw [names_eq, map_eq_error_iff, Walk.toExcept_eq_error_iff,
    failure_nameWalk_eq_some_iff (by simp)]
  simp only [failure_nameOfSuite_ne_endless, failure_nameStep_eq_endless_iff, false_or]

/-- Below a suite that is its only test the walk over names does not end. -/
lemma failure_namesBelow_of_self {name : String} {line : Option Nat}
    (hname : NameIs root.entries "suite" name)
    (htests : testsOf root.entries = .listed line [.whole]) (rounds : Nat) (location : Location) :
    (namesBelow root rounds root.entries root.line location).failure = some .endless := by
  have hwalk : ∀ rounds location, namesBelow root rounds root.entries root.line location =
      namesOfItem root rounds .whole line (location ++ [0]) := by
    intro rounds location
    rw [namesBelow, htests]
    simp [namesOfItems, Walk.append_nothing]
  have hstep : ∀ location below, namesOfEntry root.entries root.line location below =
      (Walk.one (.suite name)).append (below ()) := by
    intro location below
    simp [namesOfEntry, nameOfSuite, hname.hasKey, readName_eq_ok_iff.mpr hname, Walk.after_ok]
  -- Each round meets the name once more and goes to the same place below.
  induction rounds generalizing location with
  | zero =>
    rw [hwalk, namesOfItem, hstep]
    rfl
  | succ rounds ih =>
    rw [hwalk, namesOfItem, hstep, Walk.failure_append_of_none rfl]
    exact ih _

/-- A document that is its only test has no names. -/
theorem names_eq_endless_of_self {name : String} {line : Option Nat}
    (hname : NameIs root.entries "suite" name)
    (htests : testsOf root.entries = .listed line [.whole]) :
    names (.map root.line root.entries) = .error .endless := by
  have hroot : (nameOfSuite root.entries root.line []).failure = none :=
    failure_nameOfSuite_eq_none_iff.mpr fun _ => ⟨name, hname⟩
  rw [names_eq, map_eq_error_iff, Walk.toExcept_eq_error_iff, Mapping.nameWalk, Mapping.items,
    ← namesBelow_eq root roundLimit root.entries root.line [] [],
    Walk.failure_append_of_none hroot]
  exact failure_namesBelow_of_self hname htests roundLimit []

/-- The walk over names is stopped by what names no rule: a name that cannot be written, or the
document once too often. -/
def Mapping.NamesStuck (root : Mapping) : Prop :=
  NameUnwritable root.entries "suite" ∨
  (root.IsNamed ∧ testsOf root.entries ≠ .malformed ∧
    FirstStop root.NamesPass (fun x => x.NameUnwritableIn root ∨ x.NameEndlessIn root) root.items)

theorem namesStuck_iff :
    root.NamesStuck ↔
      names (.map root.line root.entries) = .error .noText ∨
        names (.map root.line root.entries) = .error .endless := by
  rw [names_eq_noText_iff, names_eq_endless_iff, Mapping.NamesStuck, firstStop_or_iff, or_assoc]
  tauto

end Sieve.Spec
