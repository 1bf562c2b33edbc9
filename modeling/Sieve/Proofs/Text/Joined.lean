import Sieve.Text.Lower
import Mathlib.Data.List.Infix

/-!
Texts joined by spaces.

A space has no case and is not passed over when the neighbouring letter is looked for. So small
letters may be taken before the texts are joined or after. A word without a space stands in the
joined text if and only if it stands in one of the texts.
-/

namespace Sieve.Text

/-! ### Small letters -/

lemma meetsCased_append_space (l r : List Char) :
    meetsCased (l ++ ' ' :: r) = meetsCased l := by
  induction l with
  | nil =>
    have hignorable : isCaseIgnorable ' ' = false := by decide
    have hcased : isCased ' ' = false := by decide
    simp [meetsCased, hignorable, hcased]
  | cons c l ih => rw [List.cons_append, meetsCased, meetsCased, ih]

/-- Of what precedes a text only the next letters with case matter. -/
lemma lowerFrom_congr {before before' : List Char}
    (h : ∀ l, meetsCased (l ++ before) = meetsCased (l ++ before')) (l : List Char) :
    lowerFrom before l = lowerFrom before' l := by
  induction l generalizing before before' with
  | nil => rfl
  | cons c l ih =>
    have hnext : ∀ k, meetsCased (k ++ c :: before) = meetsCased (k ++ c :: before') := by
      intro k
      simpa using h (k ++ [c])
    have hhere : meetsCased before = meetsCased before' := h []
    rw [lowerFrom, lowerFrom, ih hnext, hhere]

lemma lowerFrom_append_space (before l r : List Char) :
    lowerFrom before (l ++ ' ' :: r) = lowerFrom before l ++ ' ' :: lowerFrom [] r := by
  induction l generalizing before with
  | nil =>
    have hspace : lowerChar ' ' = ' ' := by decide
    have hr : lowerFrom (' ' :: before) r = lowerFrom [] r := by
      refine lowerFrom_congr (fun k => ?_) r
      rw [meetsCased_append_space, List.append_nil]
    calc lowerFrom before ([] ++ ' ' :: r) = lowerChar ' ' :: lowerFrom (' ' :: before) r := rfl
      _ = lowerFrom before [] ++ ' ' :: lowerFrom [] r := by rw [hspace, hr]; rfl
  | cons c l ih =>
    rw [List.cons_append, lowerFrom, lowerFrom, meetsCased_append_space, ih, List.append_assoc]

theorem toList_lower_join (l : List String) :
    (lower (" ".intercalate l)).toList = [' '].intercalate (l.map fun s => (lower s).toList) := by
  simp only [lower, String.toList_ofList, String.toList_intercalate]
  induction l with
  | nil => rfl
  | cons s l ih =>
    cases l with
    | nil => simp
    | cons s' l =>
      simp only [List.map_cons, List.intercalate_cons_cons] at ih ⊢
      rw [List.append_assoc, List.append_assoc, ← ih]
      exact lowerFrom_append_space _ _ _

lemma toNat_ofNat (n : Nat) : (Char.ofNat n).toNat = n ∨ (Char.ofNat n).toNat = 0 := by
  by_cases h : n.isValidChar
  · left
    rw [Char.ofNat, dif_pos h]
    rfl
  · right
    rw [Char.ofNat, dif_neg h]
    rfl

/-- No letter of the runs has a small letter before the exclamation mark. -/
lemma eq_space_of_lowerByRuns {c : Char} {runs : List CaseRun}
    (hruns : ∀ r ∈ runs, 32 < (r.first : Int) + r.delta) (h : lowerByRuns c runs = ' ') :
    c = ' ' := by
  induction runs with
  | nil => exact h
  | cons r runs ih =>
    rw [lowerByRuns] at h
    split_ifs at h with hfirst hrun
    · exact h
    · exfalso
      have hr := hruns r List.mem_cons_self
      have hn := toNat_ofNat ((c.toNat : Int) + r.delta).toNat
      rw [h] at hn
      have hspace : ' '.toNat = 32 := rfl
      omega
    · exact ih (fun r' hr' => hruns r' (List.mem_cons_of_mem r hr')) h

lemma eq_space_of_lowerChar {c : Char} (h : lowerChar c = ' ') : c = ' ' := by
  unfold lowerChar at h
  split_ifs at h with hascii
  · have hall : ∀ n < 0x80, (Char.ofNat n).toLower = ' ' → Char.ofNat n = ' ' := by decide
    simpa [Char.ofNat_toNat] using hall c.toNat hascii (by simpa [Char.ofNat_toNat] using h)
  · exact eq_space_of_lowerByRuns (by decide +kernel) h

lemma space_mem_of_mem_lowerFrom {before l : List Char} (h : ' ' ∈ lowerFrom before l) :
    ' ' ∈ l := by
  induction l generalizing before with
  | nil => exact h
  | cons c l ih =>
    rw [lowerFrom, List.mem_append] at h
    rcases h with h | h
    · rw [List.mem_cons]
      left
      split_ifs at h
      · simp at h
      · simp at h
      · simp at h
      · exact (eq_space_of_lowerChar (List.mem_singleton.mp h).symm).symm
    · exact List.mem_cons_of_mem c (ih h)

/-! ### Words -/

variable {w a b : List Char}

lemma infix_append_space_iff (h : ' ' ∉ w) : w <:+: a ++ ' ' :: b ↔ w <:+: a ∨ w <:+: b := by
  constructor
  · rintro ⟨s, t, e⟩
    -- The space lies before the word or behind it.
    rcases List.append_eq_append_iff.mp e with ⟨a', rfl, -⟩ | ⟨c, hc, ht⟩
    · exact Or.inl ⟨s, a', rfl⟩
    rcases c with _ | ⟨d, c⟩
    · rw [List.append_nil] at hc
      exact Or.inl ⟨s, [], by rw [List.append_nil, hc]⟩
    obtain ⟨rfl, rfl⟩ := List.cons.inj ht
    rcases List.append_eq_append_iff.mp hc with ⟨x, -, hx⟩ | ⟨y, -, hy⟩
    · exact absurd (by simp [hx]) h
    · rcases y with _ | ⟨d, y⟩
      · rw [List.nil_append] at hy
        exact absurd (hy ▸ List.mem_cons_self) h
      · obtain ⟨-, rfl⟩ := List.cons.inj hy
        exact Or.inr ⟨y, t, rfl⟩
  · rintro (h | h)
    · exact h.trans (List.prefix_append _ _).isInfix
    · exact h.trans ((List.suffix_cons _ _).trans (List.suffix_append _ _)).isInfix

lemma infix_join_of_mem {l : List Char} {ls : List (List Char)} (h : l ∈ ls) :
    l <:+: [' '].intercalate ls := by
  induction ls with
  | nil => exact absurd h List.not_mem_nil
  | cons l' ls ih =>
    cases ls with
    | nil => simp [List.mem_singleton.mp h]
    | cons l'' ls =>
      rw [List.intercalate_cons_cons]
      rcases List.mem_cons.mp h with rfl | h
      · exact ((List.prefix_append _ _).trans (List.prefix_append _ _)).isInfix
      · exact (ih h).trans (List.suffix_append _ _).isInfix

theorem infix_join_iff (h : ' ' ∉ w) {ls : List (List Char)} (hne : ls ≠ []) :
    w <:+: [' '].intercalate ls ↔ ∃ l ∈ ls, w <:+: l := by
  induction ls with
  | nil => exact absurd rfl hne
  | cons l ls ih =>
    cases ls with
    | nil => simp
    | cons l' ls =>
      rw [List.intercalate_cons_cons, List.append_assoc, List.singleton_append,
        infix_append_space_iff h, ih (by simp)]
      simp

end Sieve.Text
