import Sieve.Proofs.Except
import Sieve.Proofs.Value.Entries
import Sieve.Schema.Scalar
import Mathlib.Tactic.Common

/-!
When values are read, and from which entries.

A field is read from the value under its key alone. Of several names the first one that entries
have decides, whatever stands under the others.
-/

namespace Sieve.Schema

open Value

variable {α β : Type} {es es' : List (Value × Value)} {f : Value → Read α} {default : α}
  {k : String} {names : List String} {v : Value}

lemma both_eq_ok_iff {a : Read α} {b : Read β} {p : α × β} :
    Read.both a b = .ok p ↔ a = .ok p.1 ∧ b = .ok p.2 := by
  rcases a with e | x <;> rcases b with e' | y <;> simp [Read.both, Prod.ext_iff]

lemma at_eq_ok_iff {r : Read α} {a : α} : Read.at k r = .ok a ↔ r = .ok a := mapError_eq_ok_iff

lemma field_congr (h : lookup es k = lookup es' k) :
    Read.field es k f default = Read.field es' k f default := by
  unfold Read.field
  rw [h]

lemma field_eq_ok {a : α} (hv : lookup es k = some v) (h : f v = .ok a) :
    Read.field es k f default = .ok a := by
  unfold Read.field
  rw [hv]
  exact at_eq_ok_iff.mpr h

/-- Items are read as what they stand for. -/
lemma items_map {g : β → α} {f : α → Read β} (h : ∀ b, f (g b) = .ok b) (l : List β) (n : Nat) :
    Read.items f n (l.map g) = .ok l := by
  induction l generalizing n with
  | nil => rfl
  | cons b l ih =>
    rw [List.map_cons, Read.items, h, ih]
    rfl

/-! ### Several names -/

lemma firstField_cons : Read.firstField es (k :: names) f default =
    match lookup es k with
    | some v => Read.at k (f v)
    | none => Read.firstField es names f default := by
  unfold Read.firstField Read.field
  rw [List.find?_cons]
  rcases h : lookup es k with _ | v
  · rfl
  · simp [h]

/-- The names before one of them. -/
def before (names : List String) (n : String) : List String := names.takeWhile (· ≠ n)

lemma before_cons_self : before (k :: names) k = [] := by simp [before]

lemma before_cons_of_ne {n : String} (h : k ≠ n) : before (k :: names) n = k :: before names n := by
  simp [before, h]

/-- The first name that entries have decides. -/
theorem firstField_eq_at {n : String} (hn : n ∈ names) (hv : lookup es n = some v)
    (hbefore : ∀ m ∈ before names n, lookup es m = none) :
    Read.firstField es names f default = Read.at n (f v) := by
  induction names with
  | nil => cases hn
  | cons m names ih =>
    rw [firstField_cons]
    by_cases hm : m = n
    · rw [hm, hv]
    · rw [before_cons_of_ne hm, List.forall_mem_cons] at hbefore
      rw [hbefore.1]
      exact ih (List.mem_of_ne_of_mem (Ne.symm hm) hn) hbefore.2

/-- Entries that come to have more names are read as before, if a name stands before the new
ones. -/
theorem firstField_eq_of_before {n : String} (hn : ∃ m ∈ before names n, lookup es m ≠ none)
    (hbefore : ∀ m ∈ before names n, lookup es' m = lookup es m) :
    Read.firstField es' names f default = Read.firstField es names f default := by
  induction names with
  | nil =>
    obtain ⟨m, hm, -⟩ := hn
    cases hm
  | cons m names ih =>
    rw [firstField_cons, firstField_cons]
    by_cases hm : m = n
    · rw [hm, before_cons_self] at hn
      obtain ⟨m, hm, -⟩ := hn
      cases hm
    · rw [before_cons_of_ne hm] at hn hbefore
      obtain ⟨hfirst, hothers⟩ := List.forall_mem_cons.mp hbefore
      rw [hfirst]
      rcases hlookup : lookup es m with _ | v
      · refine ih ?_ hothers
        obtain ⟨m', hmem, hne⟩ := hn
        rcases List.mem_cons.mp hmem with rfl | hmem
        · exact absurd hlookup hne
        · exact ⟨m', hmem, hne⟩
      · rfl

/-- Of entries with others laid over them, a field is read as before or from one of the others. -/
lemma firstField_over {top : List (Value × Value)}
    (h : ∀ n ∈ names, lookup es' n = (lookup top n).or (lookup es n)) :
    Read.firstField es' names f default = Read.firstField es names f default ∨
      ∃ n ∈ names, ∃ v, lookup top n = some v ∧
        Read.firstField es' names f default = Read.at n (f v) := by
  induction names with
  | nil => exact Or.inl rfl
  | cons m names ih =>
    obtain ⟨hfirst, hothers⟩ := List.forall_mem_cons.mp h
    rw [firstField_cons, firstField_cons, hfirst]
    rcases htop : lookup top m with _ | v
    · rcases lookup es m with _ | w
      · rcases ih hothers with ih | ⟨n, hn, v, hv, ih⟩
        · exact Or.inl ih
        · exact Or.inr ⟨n, List.mem_cons_of_mem m hn, v, hv, ih⟩
      · exact Or.inl rfl
    · exact Or.inr ⟨m, List.mem_cons_self, v, htop, rfl⟩

/-! ### Dictionaries -/

lemma lookup_map_str {l : List (String × Value)} :
    Value.lookup (l.map fun e => (.str e.1, e.2)) k = l.lookup k := by
  induction l with
  | nil => rfl
  | cons e l ih =>
    rw [List.map_cons, lookup_cons, List.lookup_cons, ih]
    by_cases hk : e.1 = k
    · simp [string?, hk]
    · have hkey : (k == e.1) = false := by simp [Ne.symm hk]
      simp [string?, hk, hkey]

/-- A dictionary holds the entries of a mapping from texts as they are. -/
lemma exists_dictionary (h : IsTextMapping es) :
    ∃ l, Read.dictionary (fun v => .ok v) (.map es) = .ok l ∧
      l.map (fun e => (.str e.1, e.2)) = es := by
  obtain ⟨htext, hdistinct⟩ := h
  change ∃ l, Read.dictionary.entries (fun v => .ok v) es = .ok l ∧ _
  induction es with
  | nil => exact ⟨[], rfl, rfl⟩
  | cons e es ih =>
    obtain ⟨⟨s, hs⟩, hes⟩ := List.forall_mem_cons.mp htext
    obtain ⟨key, v⟩ := e
    obtain rfl : key = .str s := hs
    obtain ⟨l, hl, hmap⟩ := ih hes hdistinct.tail
    refine ⟨(s, v) :: l, ?_, by rw [List.map_cons, hmap]⟩
    -- No other entry has this key.
    have hlookup : l.lookup s = none := by
      rw [← lookup_map_str, hmap]
      exact lookup_tail_of_distinct hdistinct rfl
    have hfilter : l.filter (·.1 ≠ s) = l := by
      refine List.filter_eq_self.mpr fun e he => ?_
      have hne : s ≠ e.1 := by simpa using List.lookup_eq_none_iff.mp hlookup e he
      simp [Ne.symm hne]
    calc Read.dictionary.entries (fun v => .ok v) ((.str s, v) :: es)
        = .ok ((s, (l.lookup s).getD v) :: l.filter (·.1 ≠ s)) := by
          rw [Read.dictionary.entries, hl]
          rfl
      _ = .ok ((s, v) :: l) := by
          rw [hlookup, hfilter]
          rfl

end Sieve.Schema
