import Sieve.Filter.Candidate
import Mathlib.Data.List.Nodup

/-!
Sets of tags. A list without its repetitions holds the same tags, each once.
-/

namespace Sieve

/-- Tags are added to a set one after another. -/
lemma foldl_add_tag {l acc : List String} (hacc : acc.Nodup) :
    (l.foldl (fun acc x => if acc.contains x then acc else acc ++ [x]) acc).Nodup ∧
      ∀ t, t ∈ l.foldl (fun acc x => if acc.contains x then acc else acc ++ [x]) acc ↔
        t ∈ acc ∨ t ∈ l := by
  induction l generalizing acc with
  | nil => exact ⟨hacc, fun t => by simp⟩
  | cons x l ih =>
    rw [List.foldl_cons]
    split_ifs with h
    · obtain ⟨hnodup, hmem⟩ := ih hacc
      refine ⟨hnodup, fun t => ?_⟩
      have hx : x ∈ acc := List.contains_iff_mem.mp h
      rw [hmem, List.mem_cons]
      constructor
      · exact Or.imp_right Or.inr
      · rintro (ht | rfl | ht)
        · exact Or.inl ht
        · exact Or.inl hx
        · exact Or.inr ht
    · have hx : x ∉ acc := fun hx => h (List.contains_iff_mem.mpr hx)
      have hnew : (acc ++ [x]).Nodup := by simpa using hacc.concat hx
      obtain ⟨hnodup, hmem⟩ := ih hnew
      refine ⟨hnodup, fun t => ?_⟩
      rw [hmem, List.mem_append, List.mem_singleton, List.mem_cons, or_assoc]

@[simp] lemma mem_distinct {l : List String} {t : String} : t ∈ distinct l ↔ t ∈ l := by
  rw [distinct, (foldl_add_tag List.nodup_nil).2]
  simp

lemma nodup_distinct (l : List String) : (distinct l).Nodup := (foldl_add_tag List.nodup_nil).1

@[simp] lemma mem_unionTags {a b : List String} {t : String} :
    t ∈ unionTags a b ↔ t ∈ a ∨ t ∈ b := by
  rw [unionTags, mem_distinct, List.mem_append]

lemma nodup_unionTags (a b : List String) : (unionTags a b).Nodup := nodup_distinct _

end Sieve
