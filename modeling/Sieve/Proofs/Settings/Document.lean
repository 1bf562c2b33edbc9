import Sieve.Proofs.Except
import Sieve.Proofs.Value.Entries
import Sieve.Settings.ConfigFile
import Mathlib.Tactic.Common

/-!
The mappings of settings documents.

A mapping is filled one entry after another, so it has each text key once, and so have the mappings
under its keys. This holds of whatever has been built, also where a collection is met again inside
itself.
-/

namespace Sieve.Settings

open Value Yaml Log

variable {es : List (Value × Value)} {v : Value} {k : String} {contents : List (Nat × Content)}
  {fuel depth : Nat} {path : List Nat} {item : Item}

/-! ### Mappings -/

lemma Scalar.value_ne_map {s : Scalar} : s.value ≠ .map es := by
  cases s <;> exact Value.noConfusion

lemma hasDistinctKeys_fill {l : List (Scalar × Value)} : HasDistinctKeys (fill l) :=
  HasDistinctKeys.foldl (fun _ _ => HasDistinctKeys.putKey) hasDistinctKeys_nil

/-- What stands in a mapping has been filled in. -/
lemma exists_mem_of_lookup_fill {l : List (Scalar × Value)} (h : lookup (fill l) k = some v) :
    ∃ x ∈ l, x.2 = v := by
  have hfold : ∀ (l : List (Scalar × Value)) (acc : List (Value × Value)),
      lookup (l.foldl (fun acc x => putKey acc x.1.value x.2) acc) k = some v →
        (∃ x ∈ l, x.2 = v) ∨ lookup acc k = some v := by
    intro l
    induction l with
    | nil => exact fun _ h => Or.inr h
    | cons x l ih =>
      intro acc h
      rcases ih _ h with ⟨y, hy, hv⟩ | hacc
      · exact Or.inl ⟨y, List.mem_cons_of_mem _ hy, hv⟩
      · rw [lookup_putKey] at hacc
        split_ifs at hacc
        · exact Or.inl ⟨x, List.mem_cons_self, Option.some.inj hacc⟩
        · exact Or.inr hacc
  exact (hfold l [] h).resolve_right (by simp [lookup])

/-- A value that is a mapping is filled with values of what is in it. -/
lemma exists_fill_of_unroll (h : unroll contents fuel depth path item = .map es) :
    ∃ (l : List (Scalar × Item)) (inner : Item → Value),
      es = fill (l.map fun x => (x.1, inner x.2)) ∧
        ∃ fuel depth path, inner = unroll contents fuel depth path := by
  unfold unroll at h
  split at h
  · cases h
  · exact absurd h Scalar.value_ne_map
  · cases h
  · dsimp only at h
    split at h
    · cases h
    · split at h
      · cases h
      · split at h
        · cases h
        · cases h
        · exact ⟨_, _, (Value.map.inj h).symm, _, _, _, rfl⟩
        · cases h

lemma hasDistinctKeys_of_unroll (h : unroll contents fuel depth path item = .map es) :
    HasDistinctKeys es := by
  obtain ⟨l, inner, rfl, -⟩ := exists_fill_of_unroll h
  exact hasDistinctKeys_fill

/-- Each text key stands once in a mapping, and in the mappings under its text keys. -/
def IsFilled (es : List (Value × Value)) : Prop :=
  HasDistinctKeys es ∧ ∀ k inner, lookup es k = some (.map inner) → HasDistinctKeys inner

lemma isFilled_nil : IsFilled [] := ⟨hasDistinctKeys_nil, by simp [lookup]⟩

theorem isFilled_of_unroll (h : unroll contents fuel depth path item = .map es) : IsFilled es := by
  refine ⟨hasDistinctKeys_of_unroll h, fun k es' hinner => ?_⟩
  obtain ⟨l, inner, rfl, _, _, _, rfl⟩ := exists_fill_of_unroll h
  obtain ⟨x, hx, hv⟩ := exists_mem_of_lookup_fill hinner
  obtain ⟨y, -, rfl⟩ := List.mem_map.mp hx
  exact hasDistinctKeys_of_unroll hv

/-! ### Files -/

lemma isFilled_of_readDocument {bytes : List UInt8} (h : readDocument bytes = .ok (.map es)) :
    IsFilled es := by
  obtain ⟨c, -, h⟩ := bind_eq_ok_iff.mp h
  split at h
  · cases h
  · obtain ⟨built, -, h⟩ := bind_eq_ok_iff.mp h
    obtain ⟨done, -, h⟩ := bind_eq_ok_iff.mp h
    exact isFilled_of_unroll (Except.ok.inj h)

/-- **The entries of a file of settings** are those of a mapping. -/
theorem isFilled_of_load {t : Files.Tree} {base p : Files.Path}
    (h : (ConfigFile.load t base p).value = .ok es) : IsFilled es := by
  unfold ConfigFile.load at h
  split at h
  · cases h
    exact isFilled_nil
  · unfold ConfigFile.entriesOf at h
    split at h
    · cases h
      exact isFilled_of_readDocument ‹_›
    · cases h
      exact isFilled_nil
    · cases h
    · cases h
    · cases h
      exact isFilled_nil

end Sieve.Settings
