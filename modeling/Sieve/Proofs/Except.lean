import Mathlib.Data.List.Forall2

/-!
Results that may be errors: when a chain of them succeeds, and which error it has.
-/

namespace Sieve

lemma eq_ok_of_toOption {ε α : Type} {r : Except ε α} {a : α} (h : r.toOption = some a) :
    r = .ok a := by
  rcases r with e | b
  · cases h
  · exact congrArg Except.ok (Option.some.inj h)

section MapM

variable {ε α β : Type} {f : α → Except ε β} {l : List α}

lemma mapM_eq_ok_iff {r : List β} :
    l.mapM f = .ok r ↔ List.Forall₂ (fun a b => f a = .ok b) l r := by
  induction l generalizing r with
  | nil => cases r <;> simp [pure, Except.pure]
  | cons a l ih =>
    rw [List.mapM_cons]
    rcases ha : f a with e | b
    · cases r <;> simp [bind, Except.bind, ha]
    · rcases hl : l.mapM f with e | r'
      · cases r <;> simp [bind, Except.bind, ← ih, hl]
      · cases r <;> simp [bind, Except.bind, pure, Except.pure, ← ih, hl, ha]

/-- The results are those of the elements. -/
lemma mem_iff_of_mapM {r : List β} (h : l.mapM f = .ok r) {b : β} :
    b ∈ r ↔ ∃ a ∈ l, f a = .ok b := by
  rw [mapM_eq_ok_iff] at h
  induction h with
  | nil => simp
  | cons hab _ ih => simp [ih, hab, eq_comm]

/-- The first element that fails decides. -/
lemma mapM_eq_error_iff {e : ε} :
    l.mapM f = .error e ↔
      ∃ before a after, l = before ++ a :: after ∧ (∀ b ∈ before, ∃ c, f b = .ok c) ∧
        f a = .error e := by
  induction l with
  | nil => simp [pure, Except.pure]
  | cons x l ih =>
    simp only [List.mapM_cons, List.cons_eq_append_iff]
    rcases hx : f x with e' | c
    · simp only [bind, Except.bind, Except.error.injEq]
      constructor
      · rintro rfl
        exact ⟨[], x, l, Or.inl ⟨rfl, rfl⟩, by simp, hx⟩
      · rintro ⟨before, a, after, ⟨rfl, h⟩ | ⟨rest, rfl, -⟩, hb, ha⟩
        · cases h
          rw [hx] at ha
          exact Except.error.inj ha
        · obtain ⟨c, hc⟩ := hb x List.mem_cons_self
          rw [hx] at hc
          cases hc
    · have hstep : (do let c ← Except.ok c; let r ← l.mapM f; pure (c :: r)) = .error e ↔
          l.mapM f = .error e := by
        rcases l.mapM f with e' | r <;> simp [bind, Except.bind, pure, Except.pure]
      rw [hstep, ih]
      constructor
      · rintro ⟨before, a, after, rfl, hb, ha⟩
        refine ⟨x :: before, a, after, Or.inr ⟨before, rfl, rfl⟩, ?_, ha⟩
        rintro b (_ | ⟨_, hb'⟩)
        · exact ⟨c, hx⟩
        · exact hb b hb'
      · rintro ⟨before, a, after, ⟨rfl, h⟩ | ⟨rest, rfl, rfl⟩, hb, ha⟩
        · cases h
          rw [hx] at ha
          cases ha
        · exact ⟨rest, a, after, rfl, fun b hb' => hb b (List.mem_cons_of_mem x hb'), ha⟩

/-- It fails if any element does. -/
lemma exists_mapM_eq_error_iff :
    (∃ e, l.mapM f = .error e) ↔ ∃ a ∈ l, ∃ e, f a = .error e := by
  induction l with
  | nil => simp [pure, Except.pure]
  | cons x l ih =>
    rw [List.mapM_cons, List.exists_mem_cons_iff, ← ih]
    rcases f x with e | c
    · simp [bind, Except.bind]
    · rcases l.mapM f with e | r <;> simp [bind, Except.bind, pure, Except.pure]

end MapM

/-- Of the elements of a list that fail, the first one fails so. -/
inductive FirstFails {α ε : Type} (fails : α → ε → Prop) : List α → ε → Prop
  | here {a : α} {l : List α} {e : ε} : fails a e → FirstFails fails (a :: l) e
  | there {a : α} {l : List α} {e : ε} : (∀ e, ¬ fails a e) → FirstFails fails l e →
    FirstFails fails (a :: l) e

lemma firstFails_cons_iff {α ε : Type} {fails : α → ε → Prop} {a : α} {l : List α} {e : ε} :
    FirstFails fails (a :: l) e ↔
      fails a e ∨ (∀ e, ¬ fails a e) ∧ FirstFails fails l e := by
  constructor
  · rintro (h | ⟨h, hl⟩)
    · exact Or.inl h
    · exact Or.inr ⟨h, hl⟩
  · rintro (h | ⟨h, hl⟩)
    · exact .here h
    · exact .there h hl

/-- A fold fails as the first element does whose step fails. -/
lemma foldlM_eq_error_iff {ε α β : Type} {step : β → α → Except ε β} {fails : α → ε → Prop}
    (hstep : ∀ b a e, step b a = .error e ↔ fails a e) {l : List α} {b : β} {e : ε} :
    l.foldlM step b = .error e ↔ FirstFails fails l e := by
  induction l generalizing b with
  | nil => exact iff_of_false (by simp [pure, Except.pure]) nofun
  | cons a l ih =>
    rw [List.foldlM_cons, firstFails_cons_iff]
    simp only [← hstep b a]
    rcases step b a with e' | b'
    · simp [bind, Except.bind]
    · simpa [bind, Except.bind] using ih

lemma map_eq_ok_iff {ε α β : Type} {r : Except ε α} {f : α → β} {b : β} :
    r.map f = .ok b ↔ ∃ a, r = .ok a ∧ b = f a := by
  rcases r with e | a
  · simp [Except.map]
  · simpa [Except.map] using eq_comm

lemma map_eq_error_iff {ε α β : Type} {r : Except ε α} {f : α → β} {e : ε} :
    r.map f = .error e ↔ r = .error e := by
  rcases r with e' | a <;> simp [Except.map]

lemma bind_eq_ok_iff {ε α β : Type} {r : Except ε α} {f : α → Except ε β} {b : β} :
    r.bind f = .ok b ↔ ∃ a, r = .ok a ∧ f a = .ok b := by
  rcases r with e | a <;> simp [Except.bind]

lemma bind_eq_error_iff {ε α β : Type} {r : Except ε α} {f : α → Except ε β}
    {e : ε} :
    r.bind f = .error e ↔ r = .error e ∨ ∃ a, r = .ok a ∧ f a = .error e := by
  rcases r with e' | a <;> simp [Except.bind]

lemma mapError_eq_ok_iff {ε δ α : Type} {r : Except ε α} {f : ε → δ} {a : α} :
    r.mapError f = .ok a ↔ r = .ok a := by
  rcases r with e | b <;> simp [Except.mapError]

lemma mapError_eq_error_iff {ε δ α : Type} {r : Except ε α} {f : ε → δ} {d : δ} :
    r.mapError f = .error d ↔ ∃ e, r = .error e ∧ d = f e := by
  rcases r with e | b
  · simpa [Except.mapError] using eq_comm
  · simp [Except.mapError]

end Sieve
