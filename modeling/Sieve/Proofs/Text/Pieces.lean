import Sieve.Text.Blank
import Mathlib.Data.List.DropRight
import Mathlib.Data.List.Infix
import Mathlib.Tactic.Common

/-!
Pieces of a text, texts without the blanks around them, and texts inside texts.

Each operation on characters is tied to what it is for: a split yields the runs that separators
bound, a trim the text between the blanks, a search finds what stands inside.
-/

namespace Sieve.Text

/-- A run without a separator that is bounded by separators or by the ends. -/
def IsPiece (sep : Char) (l piece : List Char) : Prop :=
  sep ∉ piece ∧ ∃ before after, l = before ++ piece ++ after ∧
    (before = [] ∨ ∃ b, before = b ++ [sep]) ∧ (after = [] ∨ ∃ a, after = sep :: a)

variable {sep : Char} {l p w : List Char}

/-! ### Splitting -/

lemma splitOn_eq (sep : Char) (l : List Char) : splitOn sep l = l.splitOn sep := by
  induction l with
  | nil => rfl
  | cons c r ih =>
    rw [List.splitOn_cons_eq_if_modifyHead, splitOn, ih]
    by_cases h : c = sep
    · simp [h]
    · rcases hr : r.splitOn sep with _ | ⟨q, qs⟩
      · exact absurd hr (List.splitOn_ne_nil _ _)
      · simp [h]

lemma splitOn_ne_nil (sep : Char) (l : List Char) : splitOn sep l ≠ [] := by
  rw [splitOn_eq]
  exact List.splitOn_ne_nil _ _

lemma pieces_ne_nil (sep : Char) (s : String) : pieces sep s ≠ [] := by
  rw [pieces, ne_eq, List.map_eq_nil_iff]
  exact splitOn_ne_nil _ _

lemma splitOn_append_sep (a b : List Char) :
    splitOn sep (a ++ sep :: b) = splitOn sep a ++ splitOn sep b := by
  simp only [splitOn_eq]
  exact List.splitOn_append_cons_self a b

lemma splitOn_of_not_mem (h : sep ∉ l) : splitOn sep l = [l] := by
  rw [splitOn_eq]
  exact List.splitOn_eq_singleton h

/-- A list is cut at its last separator. -/
lemma exists_eq_append_sep (h : sep ∈ l) : ∃ a z, l = a ++ sep :: z ∧ sep ∉ z := by
  obtain ⟨z, a, hl, hz⟩ := List.eq_append_cons_of_mem (List.mem_reverse.mpr h)
  refine ⟨a.reverse, z.reverse, ?_, by simpa using hz⟩
  rw [← List.reverse_reverse l, hl]
  simp

/-- What is put behind a list stands behind its last piece. -/
lemma splitOn_append_of_not_mem {b : List Char} (hb : sep ∉ b) :
    ∃ init last, splitOn sep l = init ++ [last] ∧ splitOn sep (l ++ b) = init ++ [last ++ b] := by
  by_cases h : sep ∈ l
  · obtain ⟨a, z, rfl, hz⟩ := exists_eq_append_sep h
    have hzb : sep ∉ z ++ b := by simp [hz, hb]
    refine ⟨splitOn sep a, z, ?_, ?_⟩
    · rw [splitOn_append_sep, splitOn_of_not_mem hz]
    · rw [List.append_assoc, List.cons_append, splitOn_append_sep, splitOn_of_not_mem hzb]
  · exact ⟨[], l, splitOn_of_not_mem h, splitOn_of_not_mem (by simp [h, hb])⟩

lemma mem_splitOn_of_isPiece (h : IsPiece sep l p) : p ∈ splitOn sep l := by
  obtain ⟨hp, before, after, rfl, hb, ha⟩ := h
  have hself : p ∈ splitOn sep p := by simp [splitOn_of_not_mem hp]
  have hleft : ∀ r, p ∈ splitOn sep r → p ∈ splitOn sep (before ++ r) := by
    intro r hr
    rcases hb with rfl | ⟨b, rfl⟩
    · exact hr
    · rw [List.append_assoc, List.singleton_append, splitOn_append_sep]
      exact List.mem_append_right _ hr
  rw [List.append_assoc]
  refine hleft _ ?_
  rcases ha with rfl | ⟨a, rfl⟩
  · simpa using hself
  · rw [splitOn_append_sep]
    exact List.mem_append_left _ hself

lemma isPiece_of_mem_splitOn {l p : List Char} (h : p ∈ splitOn sep l) : IsPiece sep l p := by
  by_cases hs : sep ∈ l
  · obtain ⟨a, b, rfl, ha⟩ := List.eq_append_cons_of_mem hs
    rw [splitOn_append_sep, splitOn_of_not_mem ha] at h
    -- Either the piece before the first separator, or a piece of what follows it.
    rcases List.mem_append.mp h with h | h
    · rw [List.mem_singleton] at h
      subst h
      exact ⟨ha, [], sep :: b, by simp, Or.inl rfl, Or.inr ⟨b, rfl⟩⟩
    · obtain ⟨hp, before, after, rfl, hb, hafter⟩ := isPiece_of_mem_splitOn h
      refine ⟨hp, a ++ sep :: before, after, by simp, Or.inr ?_, hafter⟩
      rcases hb with rfl | ⟨b, rfl⟩
      · exact ⟨a, rfl⟩
      · exact ⟨a ++ sep :: b, by simp⟩
  · rw [splitOn_of_not_mem hs, List.mem_singleton] at h
    subst h
    exact ⟨hs, [], [], by simp, Or.inl rfl, Or.inl rfl⟩
termination_by l.length
decreasing_by simp_all; omega

/-- **Splitting** yields the pieces. -/
theorem mem_splitOn_iff : p ∈ splitOn sep l ↔ IsPiece sep l p :=
  ⟨isPiece_of_mem_splitOn, mem_splitOn_of_isPiece⟩

/-- Pieces joined by the separator are split one after the other. -/
lemma splitOn_join {ps : List (List Char)} (hne : ps ≠ []) :
    splitOn sep ([sep].intercalate ps) = ps.flatMap (splitOn sep) := by
  induction ps with
  | nil => exact absurd rfl hne
  | cons p ps ih =>
    cases ps with
    | nil => simp
    | cons q ps =>
      have hrest := ih (by simp)
      rw [List.intercalate_cons_cons, List.append_assoc, List.singleton_append, splitOn_append_sep,
        hrest, List.flatMap_cons (x := p)]

/-! ### Trimming -/

/-- `w` is what stands between the blanks at the ends of `l`. -/
def Trims (l w : List Char) : Prop :=
  (∃ a b, l = a ++ w ++ b ∧ (∀ c ∈ a, isBlank c) ∧ (∀ c ∈ b, isBlank c)) ∧
    (∀ c ∈ w.head?, isBlank c = false) ∧ (∀ c ∈ w.getLast?, isBlank c = false)

lemma dropEndWhile_eq (p : Char → Bool) (l : List Char) : dropEndWhile p l = l.rdropWhile p := rfl

lemma head_dropWhile {p : Char → Bool} {c : Char} (h : c ∈ (l.dropWhile p).head?) :
    p c = false := by
  have hp := List.head?_dropWhile_not p l
  rwa [Option.mem_def.mp h] at hp

lemma last_rdropWhile {p : Char → Bool} {c : Char} (h : c ∈ (l.rdropWhile p).getLast?) :
    p c = false := by
  rw [List.rdropWhile, List.getLast?_reverse] at h
  exact head_dropWhile h

lemma exists_rdropWhile_append (p : Char → Bool) (l : List Char) :
    ∃ b, l = l.rdropWhile p ++ b ∧ ∀ c ∈ b, p c :=
  ⟨l.rtakeWhile p, List.rdropWhile_append_rtakeWhile.symm,
    fun _ hc => List.mem_rtakeWhile_imp hc⟩

lemma rdropWhile_append_of_pos {p : Char → Bool} {b : List Char} (h : ∀ c ∈ b, p c) :
    (l ++ b).rdropWhile p = l.rdropWhile p := by
  rw [List.rdropWhile, List.reverse_append, List.dropWhile_append_of_pos (by simpa using h)]
  rfl

lemma trims_trim (l : List Char) : Trims l (trim l) := by
  unfold trim
  rw [dropEndWhile_eq]
  obtain ⟨b, hl, hb⟩ := exists_rdropWhile_append isBlank (l.dropWhile isBlank)
  refine ⟨⟨l.takeWhile isBlank, b, ?_, fun _ hc => List.mem_takeWhile_imp hc, hb⟩, ?_,
    fun _ hc => last_rdropWhile hc⟩
  · rw [List.append_assoc, ← hl, List.takeWhile_append_dropWhile]
  · intro c hc
    refine head_dropWhile (l := l) (p := isBlank) ?_
    rw [hl, List.head?_append, Option.mem_def.mp hc]
    rfl

lemma trim_eq_of_trims (h : Trims l w) : trim l = w := by
  obtain ⟨⟨a, b, rfl, ha, hb⟩, hhead, hlast⟩ := h
  unfold trim
  rw [dropEndWhile_eq, List.append_assoc, List.dropWhile_append_of_pos ha]
  rcases w with _ | ⟨c, r⟩
  · rw [List.nil_append, List.dropWhile_eq_nil_iff.mpr hb, List.rdropWhile_nil]
  · have hc : isBlank c = false := hhead c (by simp)
    rw [List.cons_append, List.dropWhile_cons_of_neg (by simp [hc]), ← List.cons_append,
      rdropWhile_append_of_pos hb, List.rdropWhile_eq_self_iff]
    intro hne
    simp [hlast _ (List.getLast?_eq_some_getLast hne)]

/-- **Trimming** leaves what stands between the blanks. -/
theorem trim_eq_iff : trim l = w ↔ Trims l w :=
  ⟨fun h => h ▸ trims_trim l, trim_eq_of_trims⟩

/-! ### Searching -/

lemma occursIn_iff : ∀ l : List Char, occursIn p l = true ↔ p <:+: l
  | [] => by simp [occursIn]
  | c :: r => by simp [occursIn, occursIn_iff r, List.infix_cons_iff]

theorem contains_iff {whole part : String} :
    contains whole part = true ↔ part.toList <:+: whole.toList :=
  occursIn_iff _

end Sieve.Text
