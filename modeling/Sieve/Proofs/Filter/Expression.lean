import Sieve.Filter.Expression
import Sieve.Proofs.Text.Pieces

/-!
What an expression says, word by word.

A word stands in an expression as a positive or as a negative token of some piece; the filters
that are read from expressions hold just these words.
-/

namespace Sieve

open Text

/-- Some piece of the list is the word, with blanks around it and no minus sign in front. -/
def PositiveIn (sep : Char) (l : List Char) (w : String) : Prop :=
  ∃ piece, IsPiece sep l piece ∧ Trims piece w.toList ∧ w ≠ "" ∧ w.toList.head? ≠ some '-'

/-- Some piece of the list is the word behind a minus sign, with blanks around both. -/
def NegativeIn (sep : Char) (l : List Char) (w : String) : Prop :=
  ∃ piece rest, IsPiece sep l piece ∧ Trims piece ('-' :: rest) ∧ Trims rest w.toList ∧ w ≠ ""

/-- A word that a title expression asks for. -/
def TitleWord (e : Option String) (w : String) : Prop := ∃ s ∈ e, PositiveIn ';' s.toList w

/-- A word that a title expression excludes. -/
def NegatedWord (e : Option String) (w : String) : Prop := ∃ s ∈ e, NegativeIn ';' s.toList w

/-- A part of a tag expression between plus signs. -/
def TagGroup (e : Option String) (group : List Char) : Prop := ∃ s ∈ e, IsPiece '+' s.toList group

/-! ### Tokens -/

namespace Token

variable {sep : Char} {piece l : List Char} {w : String}

lemma ofPiece?_eq_positive_iff :
    ofPiece? piece = some (.positive w) ↔
      Trims piece w.toList ∧ w ≠ "" ∧ w.toList.head? ≠ some '-' := by
  rw [← trim_eq_iff, ne_eq, ← String.toList_eq_nil_iff]
  unfold ofPiece?
  rcases trim piece with _ | ⟨c, r⟩
  · simp only [reduceCtorEq, false_iff, not_and]
    intro h h'
    exact absurd h.symm h'
  · by_cases hc : c = '-'
    · subst hc
      constructor
      · intro h
        simp only at h
        split at h <;> simp at h
      · rintro ⟨h, -, hd⟩
        simp [← h] at hd
    · split
      · simp_all
      · simp_all
      · rename_i hne
        simp only [Option.some.injEq, positive.injEq]
        constructor
        · rintro rfl
          simpa using hc
        · rintro ⟨h, -⟩
          rw [h, String.ofList_toList]

lemma ofPiece?_eq_negative_iff :
    ofPiece? piece = some (.negative w) ↔
      ∃ rest, Trims piece ('-' :: rest) ∧ Trims rest w.toList ∧ w ≠ "" := by
  simp only [← trim_eq_iff, ne_eq, ← String.toList_eq_nil_iff]
  unfold ofPiece?
  rcases trim piece with _ | ⟨c, r⟩
  · simp
  · by_cases hc : c = '-'
    · subst hc
      simp only [List.cons.injEq, true_and, exists_eq_left']
      rcases trim r with _ | ⟨d, q⟩
      · simp only [reduceCtorEq, false_iff, not_and]
        intro h h'
        exact absurd h.symm h'
      · simp only [Option.some.injEq, negative.injEq]
        constructor
        · rintro rfl
          simp
        · rintro ⟨h, -⟩
          rw [h, String.ofList_toList]
    · split <;> simp_all

lemma mem_positives_iff : w ∈ (between sep l).filterMap positive? ↔ PositiveIn sep l w := by
  simp only [between, List.mem_filterMap, mem_splitOn_iff, PositiveIn, ← ofPiece?_eq_positive_iff]
  constructor
  · rintro ⟨t, ⟨piece, hpiece, ht⟩, hw⟩
    cases t with
    | positive v =>
      simp only [positive?, Option.some.injEq] at hw
      exact ⟨piece, hpiece, hw ▸ ht⟩
    | negative v => simp [positive?] at hw
  · rintro ⟨piece, hpiece, ht⟩
    exact ⟨.positive w, ⟨piece, hpiece, ht⟩, rfl⟩

lemma mem_negatives_iff : w ∈ (between sep l).filterMap negative? ↔ NegativeIn sep l w := by
  simp only [between, List.mem_filterMap, mem_splitOn_iff, NegativeIn]
  constructor
  · rintro ⟨t, ⟨piece, hpiece, ht⟩, hw⟩
    cases t with
    | positive v => simp [negative?] at hw
    | negative v =>
      simp only [negative?, Option.some.injEq] at hw
      obtain ⟨rest, h⟩ := ofPiece?_eq_negative_iff.mp (hw ▸ ht)
      exact ⟨piece, rest, hpiece, h⟩
  · rintro ⟨piece, rest, hpiece, h⟩
    exact ⟨.negative w, ⟨piece, hpiece, ofPiece?_eq_negative_iff.mpr ⟨rest, h⟩⟩, rfl⟩

end Token

lemma between_nil (sep : Char) : Token.between sep [] = [] := rfl

lemma not_positiveIn_nil {sep : Char} {w : String} : ¬ PositiveIn sep [] w := by
  simp [← Token.mem_positives_iff, between_nil]

lemma not_negativeIn_nil {sep : Char} {w : String} : ¬ NegativeIn sep [] w := by
  simp [← Token.mem_negatives_iff, between_nil]

/-! ### Title expressions -/

variable {w : String} {g x : Option String}

lemma titleWord_getD : TitleWord g w ↔ PositiveIn ';' (g.getD "").toList w := by
  cases g <;> simp [TitleWord, not_positiveIn_nil]

lemma negatedWord_getD : NegatedWord g w ↔ NegativeIn ';' (g.getD "").toList w := by
  cases g <;> simp [NegatedWord, not_negativeIn_nil]

theorem mem_words_iff : w ∈ (Filter.ofExpressions g x).title.words ↔ TitleWord g w :=
  Token.mem_positives_iff.trans titleWord_getD.symm

theorem mem_negated_iff : w ∈ (Filter.ofExpressions g x).title.negated ↔ NegatedWord g w :=
  Token.mem_negatives_iff.trans negatedWord_getD.symm

/-! ### Tag expressions -/

lemma ne_nil_iff_exists_mem {α : Type} {l : List α} : l ≠ [] ↔ ∃ a, a ∈ l :=
  ⟨List.exists_mem_of_ne_nil l, fun ⟨_, ha⟩ => List.ne_nil_of_mem ha⟩

/-- The words of a group that are not negated, in their order. -/
def alternatives (group : List Char) : List String :=
  (Token.between ',' group).filterMap Token.positive?

lemma mem_alternatives_iff {group : List Char} :
    w ∈ alternatives group ↔ PositiveIn ',' group w :=
  Token.mem_positives_iff

lemma alternatives_ne_nil_iff {group : List Char} :
    alternatives group ≠ [] ↔ ∃ w, PositiveIn ',' group w := by
  simp [← mem_alternatives_iff, ne_nil_iff_exists_mem]

/-- A missing expression is one group without a word. -/
lemma isPiece_getD {group : List Char} (h : IsPiece '+' (x.getD "").toList group) :
    TagGroup x group ∨ group = [] := by
  rcases x with _ | s
  · right
    rw [← mem_splitOn_iff] at h
    simpa [splitOn] using h
  · exact Or.inl ⟨s, rfl, h⟩

lemma TagGroup.isPiece {group : List Char} (h : TagGroup x group) :
    IsPiece '+' (x.getD "").toList group := by
  obtain ⟨s, rfl, h⟩ := h
  exact h

theorem mem_inverted_iff :
    w ∈ (Filter.ofExpressions g x).tags.inverted ↔
      ∃ group, TagGroup x group ∧ NegativeIn ',' group w := by
  simp only [Filter.ofExpressions, TagFilter.ofExpression, TagFilter.tokenGroups,
    List.mem_flatMap, List.mem_map, mem_splitOn_iff]
  constructor
  · rintro ⟨_, ⟨group, hgroup, rfl⟩, hw⟩
    rw [Token.mem_negatives_iff] at hw
    rcases isPiece_getD hgroup with h | rfl
    · exact ⟨group, h, hw⟩
    · exact absurd hw not_negativeIn_nil
  · rintro ⟨group, hgroup, hw⟩
    exact ⟨_, ⟨group, hgroup.isPiece, rfl⟩, Token.mem_negatives_iff.mpr hw⟩

theorem mem_groups_iff {l : List String} :
    l ∈ (Filter.ofExpressions g x).tags.groups ↔
      l ≠ [] ∧ ∃ group, TagGroup x group ∧ alternatives group = l := by
  simp only [Filter.ofExpressions, TagFilter.ofExpression, TagFilter.tokenGroups, List.map_map,
    List.mem_filter, List.mem_map, mem_splitOn_iff, Function.comp_apply, Bool.not_eq_true',
    List.isEmpty_eq_false_iff]
  constructor
  · rintro ⟨⟨group, hgroup, rfl⟩, hne⟩
    refine ⟨hne, group, ?_, rfl⟩
    rcases isPiece_getD hgroup with h | rfl
    · exact h
    · exact absurd rfl hne
  · rintro ⟨hne, group, hgroup, rfl⟩
    exact ⟨⟨group, hgroup.isPiece, rfl⟩, hne⟩

/-- What holds of every group of the filter holds of every group with an alternative. -/
lemma forall_groups_iff {P : List String → Prop} :
    (∀ l ∈ (Filter.ofExpressions g x).tags.groups, P l) ↔
      ∀ group, TagGroup x group → (∃ w, PositiveIn ',' group w) → P (alternatives group) := by
  simp only [mem_groups_iff]
  constructor
  · intro h group hgroup hw
    exact h _ ⟨alternatives_ne_nil_iff.mpr hw, group, hgroup, rfl⟩
  · rintro h _ ⟨hne, group, hgroup, rfl⟩
    exact h group hgroup (alternatives_ne_nil_iff.mp hne)

lemma groups_ne_nil_iff :
    (Filter.ofExpressions g x).tags.groups ≠ [] ↔
      ∃ group w, TagGroup x group ∧ PositiveIn ',' group w := by
  rw [ne_nil_iff_exists_mem]
  simp only [mem_groups_iff]
  constructor
  · rintro ⟨_, hne, group, hgroup, rfl⟩
    obtain ⟨w, hw⟩ := alternatives_ne_nil_iff.mp hne
    exact ⟨group, w, hgroup, hw⟩
  · rintro ⟨group, w, hgroup, hw⟩
    exact ⟨_, alternatives_ne_nil_iff.mpr ⟨w, hw⟩, group, hgroup, rfl⟩

lemma inverted_ne_nil_iff :
    (Filter.ofExpressions g x).tags.inverted ≠ [] ↔
      ∃ group w, TagGroup x group ∧ NegativeIn ',' group w := by
  rw [ne_nil_iff_exists_mem]
  simp only [mem_inverted_iff]
  exact exists_comm

end Sieve
