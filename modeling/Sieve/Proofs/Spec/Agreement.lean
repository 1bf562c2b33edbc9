import Sieve.Proofs.Except
import Sieve.Spec.Load
import Mathlib.Tactic.Common

/-!
Documents compared.

Floating point numbers have no equality to decide, so documents that hold one do not agree. Two that
agree are the same, and what a text loads as is found by running the loader.
-/

namespace Sieve.Spec

open Document

mutual

/-- Two documents without floating point numbers are the same. -/
def Document.agrees : Document → Document → Bool
  | .null, .null => true
  | .bool a, .bool b => a == b
  | .int a, .int b => a == b
  | .str a, .str b => a == b
  | .special a, .special b => a == b
  | .seq l xs, .seq k ys => l == k && agreeItems xs ys
  | .map l xs, .map k ys => l == k && agreeEntries xs ys
  | .whole, .whole => true
  | _, _ => false

def agreeItems : List Document → List Document → Bool
  | [], [] => true
  | x :: xs, y :: ys => x.agrees y && agreeItems xs ys
  | _, _ => false

def agreeEntries : List (Document × Document) → List (Document × Document) → Bool
  | [], [] => true
  | (k, v) :: xs, (k', v') :: ys => k.agrees k' && v.agrees v' && agreeEntries xs ys
  | _, _ => false

end

mutual

theorem Document.eq_of_agrees {a b : Document} (h : a.agrees b = true) : a = b := by
  cases a <;> cases b <;> simp only [agrees, Bool.false_eq_true, Bool.and_eq_true,
    beq_iff_eq] at h
  case null.null => rfl
  case whole.whole => rfl
  case bool.bool | int.int | str.str | special.special => rw [h]
  case seq.seq => rw [h.1, eq_of_agreeItems h.2]
  case map.map => rw [h.1, eq_of_agreeEntries h.2]

theorem eq_of_agreeItems {xs ys : List Document} (h : agreeItems xs ys = true) : xs = ys := by
  rcases xs with _ | ⟨x, xs⟩ <;> rcases ys with _ | ⟨y, ys⟩ <;>
    simp only [agreeItems, Bool.false_eq_true, Bool.and_eq_true] at h
  · rfl
  · rw [Document.eq_of_agrees h.1, eq_of_agreeItems h.2]

theorem eq_of_agreeEntries {xs ys : List (Document × Document)}
    (h : agreeEntries xs ys = true) : xs = ys := by
  rcases xs with _ | ⟨⟨k, v⟩, xs⟩ <;> rcases ys with _ | ⟨⟨k', v'⟩, ys⟩ <;>
    simp only [agreeEntries, Bool.false_eq_true, Bool.and_eq_true] at h
  · rfl
  · rw [Document.eq_of_agrees h.1.1, Document.eq_of_agrees h.1.2, eq_of_agreeEntries h.2]

end

/-- A text loads as the document that agrees with what the loader makes of it. -/
lemma load_of_agrees {text : String} {d : Document}
    (h : (load text).toOption.any d.agrees = true) : load text = .ok d := by
  obtain ⟨d', hload, hagrees⟩ := (Option.any_eq_true _ _).mp h
  rw [eq_ok_of_toOption hload, Document.eq_of_agrees hagrees]

end Sieve.Spec
