import Sieve.Proofs.Spec.Places

/-!
Documents that are entered again.

A suite that stands among its own tests is entered again and again until the rounds are spent. So
the names of such a document are never found, nor are its tests.
-/

namespace Sieve.Spec

open Document

variable {root : Mapping} {es : Entries} {l : Location} {p : Place}

/-- What is below a place is below the mapping from which the place is reached. -/
lemma mem_itemsBelow_of_placeAt? (hp : placeAt? es l = some p) {rounds : Nat}
    {suites : List Entries} {location : Location} {x : Item}
    (hx : x ∈ itemsFrom root rounds p.content p.listLine (suites ++ p.suites) (location ++ l)) :
    x ∈ itemsBelow root rounds es suites location := by
  induction l generalizing es p suites location with
  | nil => cases hp
  | cons i rest ih =>
    obtain ⟨line, d, hd, ⟨rfl, rfl⟩ | ⟨s, q, hs, hq, rfl⟩⟩ := placeAt?_cons_iff.mp hp
    · rw [List.append_nil] at hx
      exact (mem_itemsBelow_iff_listed root).mpr ⟨i, line, d, hd, hx⟩
    · have hbelow : x ∈ itemsBelow root rounds s (suites ++ [s]) (location ++ [i]) :=
        ih hq (by simpa using hx)
      obtain ⟨sline, rfl, hsuite⟩ := suiteOf?_eq_some_iff.mp hs
      refine (mem_itemsBelow_iff_listed root).mpr ⟨i, line, _, hd, ?_⟩
      rw [itemsFrom.eq_def]
      dsimp only
      rw [if_pos hsuite]
      exact List.mem_cons_of_mem _ hbelow

/-- A document that is entered again is so once too often. -/
lemma exists_spent (h : root.Reenters root.entries) (rounds : Nat) (suites : List Entries)
    (location : Location) :
    ∃ x ∈ itemsBelow root rounds root.entries suites location, x.IsSpent := by
  obtain ⟨hsuite, l, p, hp, hwhole⟩ := h
  -- In each round the place is met again, with one round less below it.
  induction rounds generalizing suites location with
  | zero =>
    refine ⟨⟨.whole, location ++ l, p.listLine, suites ++ p.suites, 0⟩, ?_, rfl, rfl⟩
    refine mem_itemsBelow_of_placeAt? hp ?_
    rw [hwhole, itemsFrom.eq_def]
    exact List.mem_cons_self
  | succ rounds ih =>
    obtain ⟨x, hx, hspent⟩ := ih (suites ++ p.suites ++ [root.entries]) (location ++ l)
    refine ⟨x, mem_itemsBelow_of_placeAt? hp ?_, hspent⟩
    rw [hwhole, itemsFrom.eq_def]
    dsimp only
    rw [if_pos hsuite]
    exact List.mem_cons_of_mem _ hx

/-- The names of a document that is entered again cannot all be read. -/
theorem not_hasNames_of_reenters (h : root.Reenters root.entries) : ¬ root.HasNames := by
  intro hnames
  obtain ⟨x, hx, hspent⟩ := exists_spent h roundLimit [] []
  obtain ⟨m, hm, -, henter⟩ := hnames.items x hx
  rw [hspent.1] at hm
  obtain rfl : root = m := Option.some.inj hm
  exact (henter h.1).1 hspent

end Sieve.Spec
