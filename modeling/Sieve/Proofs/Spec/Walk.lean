import Sieve.Spec.Outline
import Mathlib.Tactic.Common

/-!
Walks, one after another.

A walk along a list makes a step at each element and stops where a step does. So it fails if some
step fails, for the reason of the first one that does, and else meets all that the steps meet.
-/

namespace Sieve.Spec.Walk

variable {α ε : Type}

lemma nothing_append (w : Walk α) : nothing.append w = w := rfl

lemma append_nothing (w : Walk α) : w.append nothing = w := by
  obtain ⟨items, failure⟩ := w
  cases failure <;> simp [append, nothing]

lemma append_assoc (a b c : Walk α) : (a.append b).append c = a.append (b.append c) := by
  obtain ⟨items, failure⟩ := a
  obtain ⟨items', failure'⟩ := b
  cases failure <;> cases failure' <;> simp [append]

lemma append_of_failure {a : Walk α} {f : Failure} (h : a.failure = some f) (b : Walk α) :
    a.append b = a := by
  simp [append, h]

lemma failure_append_of_none {a : Walk α} (h : a.failure = none) (b : Walk α) :
    (a.append b).failure = b.failure := by
  simp [append, h]

lemma items_append_of_none {a : Walk α} (h : a.failure = none) (b : Walk α) :
    (a.append b).items = a.items ++ b.items := by
  simp [append, h]

lemma failure_append_eq_none_iff {a b : Walk α} :
    (a.append b).failure = none ↔ a.failure = none ∧ b.failure = none := by
  rcases h : a.failure with _ | f
  · simp [failure_append_of_none h]
  · simp [append_of_failure h, h]

lemma failure_append_eq_some_iff {a b : Walk α} {e : Failure} :
    (a.append b).failure = some e ↔
      a.failure = some e ∨ (a.failure = none ∧ b.failure = some e) := by
  rcases h : a.failure with _ | f
  · simp [failure_append_of_none h]
  · simp [append_of_failure h, h]

lemma after_ok {β : Type} (b : β) (f : β → Walk α) : after (.ok b) f = f b := rfl

lemma failure_after_eq_none_iff {β : Type} {r : Except Failure β} {f : β → Walk α} :
    (after r f).failure = none ↔ ∃ b, r = .ok b ∧ (f b).failure = none := by
  rcases r with e | b <;> simp [after, stop]

lemma failure_after_eq_some_iff {β : Type} {r : Except Failure β} {f : β → Walk α}
    {e : Failure} :
    (after r f).failure = some e ↔ r = .error e ∨ ∃ b, r = .ok b ∧ (f b).failure = some e := by
  rcases r with e' | b <;> simp [after, stop]

lemma items_after_of_failure {β : Type} {r : Except Failure β} {f : β → Walk α} {e : Failure}
    (hf : ∀ b, (f b).failure = some e → (f b).items = []) (h : (after r f).failure = some e) :
    (after r f).items = [] := by
  rcases r with e' | b
  · rfl
  · exact hf b h

lemma toExcept_eq_ok_iff {w : Walk α} {l : List α} :
    w.toExcept = .ok l ↔ w.failure = none ∧ w.items = l := by
  rcases h : w.failure with _ | f <;> simp [toExcept, h]

lemma toExcept_eq_error_iff {w : Walk α} {f : Failure} :
    w.toExcept = .error f ↔ w.failure = some f := by
  rcases h : w.failure with _ | f <;> simp [toExcept, h]

/-- A step at each element. -/
def along (f : ε → Walk α) : List ε → Walk α
  | [] => nothing
  | x :: l => (f x).append (along f l)

variable {f : ε → Walk α} {l : List ε}

lemma along_append (f : ε → Walk α) (l r : List ε) :
    along f (l ++ r) = (along f l).append (along f r) := by
  induction l with
  | nil => rfl
  | cons x l ih => rw [List.cons_append, along, along, ih, append_assoc]

theorem failure_along_eq_none_iff :
    (along f l).failure = none ↔ ∀ x ∈ l, (f x).failure = none := by
  induction l with
  | nil => simp [along, nothing]
  | cons x l ih => simp [along, failure_append_eq_none_iff, ih]

theorem items_along (h : (along f l).failure = none) :
    (along f l).items = l.flatMap fun x => (f x).items := by
  induction l with
  | nil => rfl
  | cons x l ih =>
    obtain ⟨hx, hl⟩ := failure_append_eq_none_iff.mp h
    rw [along, items_append_of_none hx, ih hl, List.flatMap_cons]

/-- **The first step that fails** decides. -/
theorem failure_along_eq_some_iff {e : Failure} :
    (along f l).failure = some e ↔
      ∃ before x after, l = before ++ x :: after ∧ (∀ y ∈ before, (f y).failure = none) ∧
        (f x).failure = some e := by
  constructor
  · intro h
    induction l with
    | nil => simp [along, nothing] at h
    | cons x l ih =>
      rcases hx : (f x).failure with _ | e'
      · rw [along, failure_append_of_none hx] at h
        obtain ⟨before, y, after, rfl, hbefore, hy⟩ := ih h
        refine ⟨x :: before, y, after, rfl, ?_, hy⟩
        rintro z (_ | ⟨_, hz⟩)
        · exact hx
        · exact hbefore z hz
      · rw [along, append_of_failure hx, hx] at h
        exact ⟨[], x, l, rfl, by simp, by rw [hx, h]⟩
  · rintro ⟨before, x, after, rfl, hbefore, hx⟩
    rw [along_append, failure_append_of_none (failure_along_eq_none_iff.mpr hbefore), along,
      append_of_failure hx, hx]

/-- What was met until the first step that fails. -/
lemma items_along_of_split {before after : List ε} {x : ε} {e : Failure}
    (h : ∀ y ∈ before, (f y).failure = none) (hx : (f x).failure = some e) :
    (along f (before ++ x :: after)).items =
      (before.flatMap fun y => (f y).items) ++ (f x).items := by
  have hb := failure_along_eq_none_iff.mpr h
  rw [along_append, items_append_of_none hb, items_along hb, along, append_of_failure hx]

end Sieve.Spec.Walk
