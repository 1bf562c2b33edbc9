import Sieve.Text.Lower
import Mathlib.Data.List.Forall2
import Mathlib.Data.List.Infix

/-!
Small letters of a part.

The small form of a character is its own, but for the capital sigma, which is written as at the end
of a word or not by what stands around it. So a text has the same small letters in another text as
alone if and only if each of its sigmas keeps its form there. A text is found in small letters
wherever it stands if and only if it is steady: no sigma of it depends on what stands around.
-/

namespace Sieve.Text

variable {before before' after after' a b l r w X Y : List Char} {c z : Char}

/-- A capital sigma between these characters, of which the first are told nearest first, ends a
word. -/
def isFinal (before after : List Char) : Bool := meetsCased before && !meetsCased after

/-- The small form of a capital sigma. -/
def sigmaBetween (before after : List Char) : Char := if isFinal before after then 'ς' else 'σ'

/-- The small letters of a text between others. -/
def lowerBetween (before after : List Char) : List Char → List Char
  | [] => []
  | c :: r =>
    let small :=
      if c = 'Σ' then [sigmaBetween before (r ++ after)]
      else if c = 'İ' then ['i', '\u0307']
      else [lowerChar c]
    small ++ lowerBetween (c :: before) after r

lemma lowerFrom_append :
    lowerFrom before (l ++ r) = lowerBetween before r l ++ lowerFrom (l.reverse ++ before) r := by
  induction l generalizing before with
  | nil => rfl
  | cons c l ih =>
    rw [List.cons_append, lowerFrom, ih, lowerBetween, List.reverse_cons, List.append_assoc,
      List.append_assoc]
    rfl

lemma lowerFrom_eq : lowerFrom before l = lowerBetween before [] l := by
  have happend : lowerFrom before (l ++ []) = lowerBetween before [] l ++ lowerFrom _ [] :=
    lowerFrom_append
  rwa [List.append_nil, lowerFrom, List.append_nil] at happend

lemma lowerBetween_append :
    lowerBetween before after (l ++ r) =
      lowerBetween before (r ++ after) l ++ lowerBetween (l.reverse ++ before) after r := by
  induction l generalizing before with
  | nil => rfl
  | cons c l ih =>
    rw [List.cons_append, lowerBetween, ih, lowerBetween, List.reverse_cons, List.append_assoc,
      List.append_assoc, List.append_assoc]
    rfl

/-- In two places the small letters of a text differ only as its sigmas do. -/
lemma forall₂_lowerBetween {R : Char → Char → Prop} (hrefl : ∀ c, R c c)
    (h : ∀ a b, l = a ++ 'Σ' :: b → R (sigmaBetween (a.reverse ++ before) (b ++ after))
      (sigmaBetween (a.reverse ++ before') (b ++ after'))) :
    List.Forall₂ R (lowerBetween before after l) (lowerBetween before' after' l) := by
  induction l generalizing before before' with
  | nil => exact .nil
  | cons c l ih =>
    have hrest : List.Forall₂ R (lowerBetween (c :: before) after l)
        (lowerBetween (c :: before') after' l) := by
      refine ih fun a b hl => ?_
      have hc := h (c :: a) b (by rw [hl, List.cons_append])
      rwa [List.reverse_cons, List.append_assoc, List.append_assoc] at hc
    rw [lowerBetween, lowerBetween]
    by_cases hsigma : c = 'Σ'
    · have hhere := h [] l (by rw [hsigma, List.nil_append])
      simpa [hsigma] using ⟨hhere, hsigma ▸ hrest⟩
    · by_cases hdotted : c = 'İ'
      · simpa [hdotted, hrefl] using hdotted ▸ hrest
      · simpa [hsigma, hdotted, hrefl] using hrest

lemma length_lowerBetween :
    (lowerBetween before after l).length = (lowerBetween before' after' l).length :=
  (forall₂_lowerBetween (R := fun _ _ => True) (fun _ => trivial) fun _ _ _ => trivial).length_eq

/-- The small letters of a text are the same in two places if and only if its sigmas have the same
forms. -/
lemma lowerBetween_eq_iff :
    lowerBetween before after l = lowerBetween before' after' l ↔
      ∀ a b, l = a ++ 'Σ' :: b → sigmaBetween (a.reverse ++ before) (b ++ after) =
        sigmaBetween (a.reverse ++ before') (b ++ after') := by
  constructor
  · rintro h a b rfl
    rw [lowerBetween_append, lowerBetween_append] at h
    have hrest := (List.append_inj h length_lowerBetween).2
    simpa [lowerBetween] using (List.append_inj hrest (by simp)).1
  · intro h
    exact List.forall₂_eq_eq_eq ▸ forall₂_lowerBetween (fun _ => rfl) h

/-- Each capital sigma of the text keeps its form between others. -/
def KeepsSigmas (before after w : List Char) : Prop :=
  ∀ a b, w = a ++ 'Σ' :: b →
    sigmaBetween (a.reverse ++ before) (b ++ after) = sigmaBetween a.reverse b

/-- **A part** whose sigmas keep their forms has its own small letters in the whole. -/
theorem infix_lowerFrom_of_keepsSigmas (h : KeepsSigmas before.reverse after w) :
    lowerFrom [] w <:+: lowerFrom [] (before ++ w ++ after) := by
  have hpart : lowerBetween before.reverse after w = lowerFrom [] w := by
    rw [lowerFrom_eq, lowerBetween_eq_iff]
    simpa using fun a b hw => h a b hw
  rw [List.append_assoc, lowerFrom_append, lowerFrom_append, List.append_nil, hpart]
  exact (List.prefix_append _ _).isInfix.trans (List.suffix_append _ _).isInfix

/-! ### Sigmas that depend on what stands around -/

/-- The form of a sigma between these parts of a text depends on what stands around the text: a
letter before it and nothing that counts behind it, or nothing that counts before it and no letter
behind it. -/
def IsLoose (a b : List Char) : Prop :=
  (meetsCased a.reverse = true ∧ b.all isCaseIgnorable = true) ∨
    (a.all isCaseIgnorable = true ∧ meetsCased b = false)

/-- No capital sigma of the text depends on what stands around the text. -/
def IsSteady (w : List Char) : Prop := ∀ a b, w = a ++ 'Σ' :: b → ¬ IsLoose a b

lemma meetsCased_append :
    meetsCased (l ++ r) = if l.all isCaseIgnorable then meetsCased r else meetsCased l := by
  induction l with
  | nil => rfl
  | cons c l ih =>
    rw [List.cons_append, meetsCased, meetsCased, ih, List.all_cons]
    by_cases hc : isCaseIgnorable c = true <;> simp [hc]

lemma meetsCased_of_all (h : l.all isCaseIgnorable = true) : meetsCased l = false := by
  have happend := meetsCased_append (l := l) (r := [])
  rwa [List.append_nil, if_pos h] at happend

lemma IsSteady.keepsSigmas (h : IsSteady w) : KeepsSigmas before after w := by
  rintro a b hw
  have hloose := h a b hw
  rw [IsLoose, not_or, not_and, not_and] at hloose
  obtain ⟨hbehind, hbefore⟩ := hloose
  unfold sigmaBetween isFinal
  rw [meetsCased_append, meetsCased_append, List.all_reverse]
  -- By which of the two parts holds nothing that counts.
  by_cases ha : a.all isCaseIgnorable = true <;> by_cases hb : b.all isCaseIgnorable = true
  · exact absurd (meetsCased_of_all hb) (hbefore ha)
  · have hcased : meetsCased b = true := by simpa using hbefore ha
    simp [hb, hcased]
  · have hnone : meetsCased a.reverse = false := Bool.eq_false_iff.mpr fun hm => hbehind hm hb
    simp [ha, hnone]
  · simp [ha, hb]

lemma isFinal_of_letter_behind (h : isFinal a (b ++ ['a']) = true) : isFinal a b = true := by
  have hletter : meetsCased ['a'] = true := by decide
  unfold isFinal at h ⊢
  rw [meetsCased_append, hletter] at h
  by_cases hb : b.all isCaseIgnorable = true
  · simp [hb] at h
  · simpa [hb] using h

lemma isFinal_of_letter_before (h : isFinal a.reverse b = true) :
    isFinal (a.reverse ++ ['a']) b = true := by
  have hletter : meetsCased ['a'] = true := by decide
  unfold isFinal at h ⊢
  rw [meetsCased_append, hletter, List.all_reverse]
  by_cases ha : a.all isCaseIgnorable = true
  · simp [meetsCased_of_all (l := a.reverse) (by simpa using ha)] at h
  · simpa [ha] using h

/-- Texts that differ only where the second has the character `c` are told apart by how often it
occurs. -/
lemma eq_of_count_le (h : List.Forall₂ (fun x y => x = y ∨ (x ≠ c ∧ y = c)) X Y)
    (hcount : Y.count c ≤ X.count c) : X = Y := by
  have hle : ∀ {X Y : List Char}, List.Forall₂ (fun x y => x = y ∨ (x ≠ c ∧ y = c)) X Y →
      X.count c ≤ Y.count c := by
    intro X Y h
    induction h with
    | nil => exact le_rfl
    | cons hxy _ ih =>
      rcases hxy with rfl | ⟨hx, rfl⟩
      · simpa [List.count_cons] using ih
      · rw [List.count_cons_of_ne hx, List.count_cons_self]
        omega
  induction h with
  | nil => rfl
  | cons hxy hrest ih =>
    rcases hxy with rfl | ⟨hx, rfl⟩
    · rw [ih (by simpa [List.count_cons] using hcount)]
    · have hrest := hle hrest
      rw [List.count_cons_of_ne hx, List.count_cons_self] at hcount
      omega

lemma lowerFrom_cons_letter :
    lowerFrom before ('a' :: l) = 'a' :: lowerFrom ('a' :: before) l := by
  have hletter : lowerChar 'a' = 'a' := by decide
  simp [lowerFrom, hletter]

/-- A sigma at the end of a word ends none before a letter. -/
lemma not_infix_before_letter (hw : w = a ++ 'Σ' :: b) (ha : meetsCased a.reverse = true)
    (hb : b.all isCaseIgnorable = true) :
    ¬ lowerFrom [] w <:+: lowerFrom [] (w ++ ['a']) := by
  intro hinfix
  have hcount := hinfix.sublist.count_le 'ς'
  rw [lowerFrom_append, lowerFrom_cons_letter, lowerFrom, List.count_append,
    List.count_eq_zero.mpr (by decide : 'ς' ∉ ['a']), Nat.add_zero, lowerFrom_eq] at hcount
  have hsame : lowerBetween [] ['a'] w = lowerBetween [] [] w := by
    refine eq_of_count_le (forall₂_lowerBetween (fun _ => Or.inl rfl) fun a b _ => ?_) hcount
    rw [List.append_nil, List.append_nil, sigmaBetween, sigmaBetween]
    by_cases hfinal : isFinal a.reverse (b ++ ['a']) = true
    · exact Or.inl (by rw [if_pos hfinal, if_pos (isFinal_of_letter_behind hfinal)])
    · rw [if_neg hfinal]
      split_ifs
      · exact Or.inr ⟨by decide, rfl⟩
      · exact Or.inl rfl
  have hforms := lowerBetween_eq_iff.mp hsame a b hw
  have hletter : meetsCased (b ++ ['a']) = true := by
    rw [meetsCased_append, if_pos hb]
    decide
  simp [sigmaBetween, isFinal, ha, hletter, meetsCased_of_all hb] at hforms

/-- A sigma that ends no word because nothing is before it ends one behind a letter. -/
lemma not_infix_behind_letter (hw : w = a ++ 'Σ' :: b) (ha : a.all isCaseIgnorable = true)
    (hb : meetsCased b = false) : ¬ lowerFrom [] w <:+: lowerFrom [] ('a' :: w) := by
  intro hinfix
  have hcount := hinfix.sublist.count_le 'σ'
  rw [lowerFrom_cons_letter, List.count_cons_of_ne (by decide), lowerFrom_eq, lowerFrom_eq]
    at hcount
  have hsame : lowerBetween ['a'] [] w = lowerBetween [] [] w := by
    refine eq_of_count_le (forall₂_lowerBetween (fun _ => Or.inl rfl) fun a b _ => ?_) hcount
    rw [List.append_nil, List.append_nil, sigmaBetween, sigmaBetween]
    by_cases hfinal : isFinal a.reverse b = true
    · exact Or.inl (by rw [if_pos hfinal, if_pos (isFinal_of_letter_before hfinal)])
    · rw [if_neg hfinal]
      split_ifs
      · exact Or.inr ⟨by decide, rfl⟩
      · exact Or.inl rfl
  have hforms := lowerBetween_eq_iff.mp hsame a b hw
  have hnone : meetsCased a.reverse = false := meetsCased_of_all (by simpa using ha)
  have hletter : meetsCased (a.reverse ++ ['a']) = true := by
    rw [meetsCased_append, if_pos (by simpa using ha)]
    decide
  simp [sigmaBetween, isFinal, hnone, hletter, hb] at hforms

/-- **A text is found in small letters** wherever it stands if and only if it is steady. -/
theorem infix_lowerFrom_iff_isSteady :
    (∀ l, w <:+: l → lowerFrom [] w <:+: lowerFrom [] l) ↔ IsSteady w := by
  constructor
  · rintro h a b hw (⟨ha, hb⟩ | ⟨ha, hb⟩)
    · exact not_infix_before_letter hw ha hb (h _ (List.prefix_append _ _).isInfix)
    · exact not_infix_behind_letter hw ha hb (h _ (List.suffix_cons _ _).isInfix)
  · rintro h l ⟨before, after, rfl⟩
    exact infix_lowerFrom_of_keepsSigmas h.keepsSigmas

end Sieve.Text
