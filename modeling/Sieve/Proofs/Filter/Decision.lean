import Sieve.Filter.Decision
import Sieve.Proofs.Filter.Expression
import Sieve.Proofs.Text.Joined

/-!
What a decision comes to.

The decision of a filter on a test is spelled out by what the filter asks for and excludes, and
then, for a filter read from expressions, by the words of these.
-/

namespace Sieve

open Text

/-- The word stands in the title once both are in small letters. -/
def Mentions (word title : String) : Prop := (lower word).toList <:+: (lower title).toList

/-- A word in one of several names is in their title. -/
lemma mentions_join_of_mem {word name : String} {names : List String} (hmem : name ∈ names)
    (h : Mentions word name) : Mentions word (" ".intercalate names) := by
  rw [Mentions, toList_lower_join]
  exact h.trans (infix_join_of_mem (List.mem_map_of_mem hmem))

/-- A word without a space is in a title only if it is in one of the names. -/
theorem mentions_join_iff {word : String} {names : List String} (hspace : ' ' ∉ word.toList)
    (hne : names ≠ []) :
    Mentions word (" ".intercalate names) ↔ ∃ name ∈ names, Mentions word name := by
  have hlower : ' ' ∉ (lower word).toList := by
    rw [lower, String.toList_ofList]
    exact fun h => hspace (space_mem_of_mem_lowerFrom h)
  rw [Mentions, toList_lower_join, infix_join_iff hlower (by simpa using hne)]
  simp [Mentions]

lemma mentionsAny_iff {words : List String} {title : String} :
    mentionsAny words (lower title) = true ↔ ∃ w ∈ words, Mentions w title := by
  simp [mentionsAny, contains_iff, Mentions]

lemma TitleFilter.admits_iff {f : TitleFilter} {title : String} :
    f.admits (lower title) = true ↔ f.words = [] ∨ ∃ w ∈ f.words, Mentions w title := by
  simp [TitleFilter.admits, mentionsAny_iff]

/-! ### The tag part -/

namespace TagFilter

/-- The tag part lets a test with these tags run. -/
def Admits (f : TagFilter) (tags : List String) (untaggedPass : Bool) : Prop :=
  (f.groups = [] ∧ f.inverted = []) ∨
  (tags ≠ [] ∧ ∀ group ∈ f.groups, ∃ w ∈ group, w ≠ untagged ∧ w ∈ tags) ∨
  (tags = [] ∧ (untaggedPass = true ∨ (f.groups ≠ [] ∧ ∀ group ∈ f.groups, untagged ∈ group)))

lemma isEmpty_iff {f : TagFilter} : f.isEmpty = true ↔ f.groups = [] ∧ f.inverted = [] := by
  simp [isEmpty]

lemma groupAdmits_iff {tags group : List String} (h : tags ≠ []) :
    groupAdmits tags group = true ↔ ∃ w ∈ group, w ≠ untagged ∧ w ∈ tags := by
  simp only [groupAdmits, List.any_eq_true]
  refine exists_congr fun w => and_congr_right fun _ => ?_
  by_cases hw : w = untagged <;> simp [hw, h]

lemma asksForUntagged_iff {f : TagFilter} :
    f.asksForUntagged = true ↔ f.groups ≠ [] ∧ ∀ group ∈ f.groups, untagged ∈ group := by
  simp [asksForUntagged]

lemma runs_verdict_iff {f : TagFilter} {tags : List String} {untaggedPass : Bool} :
    (f.verdict tags).runs untaggedPass = true ↔ f.Admits tags untaggedPass := by
  unfold verdict Admits
  by_cases he : f.isEmpty = true
  · have hnone : f.groups = [] ∧ f.inverted = [] := by simpa [isEmpty] using he
    simp [he, hnone, Verdict.runs]
  · have hsome : ¬ (f.groups = [] ∧ f.inverted = []) := by simpa [isEmpty] using he
    rcases tags with _ | ⟨t, ts⟩
    · simp [he, hsome, Verdict.runs, asksForUntagged_iff]
    · have hne : t :: ts ≠ [] := List.cons_ne_nil _ _
      simp only [he, hsome, hne, Verdict.runs, List.isEmpty_cons, List.all_eq_true,
        groupAdmits_iff hne, Bool.false_eq_true, if_false, ne_eq, not_false_eq_true, true_and,
        false_and, or_false, false_or]

end TagFilter

/-! ### The whole decision -/

namespace Filter

/-- **The decision** of a filter, by its parts. -/
theorem admits_iff {f : Filter} {s : Subject} {untaggedPass : Bool} :
    f.admits s untaggedPass = true ↔
      s.isRequired = true ∨
      ((∀ w ∈ f.title.negated, ¬ Mentions w s.title) ∧ (∀ t ∈ f.tags.inverted, t ∉ s.tags) ∧
        (f.title.words = [] ∨ ∃ w ∈ f.title.words, Mentions w s.title) ∧
        f.tags.Admits s.tags untaggedPass) := by
  simp only [← TagFilter.runs_verdict_iff, ← TitleFilter.admits_iff]
  unfold admits verdict
  dsimp only
  -- The checks come in this order; the first that decides leaves the others unread.
  by_cases hr : s.isRequired = true
  · simp [hr, Verdict.runs]
  rw [if_neg hr, or_iff_right hr]
  by_cases hn : mentionsAny f.title.negated (lower s.title) = true
  · obtain ⟨w, hw, hm⟩ := mentionsAny_iff.mp hn
    rw [if_pos hn]
    exact iff_of_false Bool.false_ne_true fun h => h.1 w hw hm
  rw [if_neg hn]
  have hneg : ∀ w ∈ f.title.negated, ¬ Mentions w s.title := by
    intro w hw hm
    exact hn (mentionsAny_iff.mpr ⟨w, hw, hm⟩)
  by_cases hi : f.tags.inverted.any (s.tags.contains ·) = true
  · obtain ⟨t, ht, hm⟩ := List.any_eq_true.mp hi
    rw [if_pos hi]
    exact iff_of_false Bool.false_ne_true fun h => h.2.1 t ht (List.contains_iff_mem.mp hm)
  rw [if_neg hi]
  have hinv : ∀ t ∈ f.tags.inverted, t ∉ s.tags := by
    intro t ht hm
    exact hi (List.any_eq_true.mpr ⟨t, ht, List.contains_iff_mem.mpr hm⟩)
  by_cases ht : f.title.admits (lower s.title) = true
  · rw [if_pos ht]
    exact ⟨fun h => ⟨hneg, hinv, ht, h⟩, fun h => h.2.2.2⟩
  · rw [if_neg ht]
    exact iff_of_false Bool.false_ne_true fun h => ht h.2.2.1

end Filter

/-! ### Expressions -/

section Expressions

variable {g x : Option String} {title : String}

lemma forall_negated_iff :
    (∀ w ∈ (Filter.ofExpressions g x).title.negated, ¬ Mentions w title) ↔
      ∀ w, NegatedWord g w → ¬ Mentions w title := by
  simp only [mem_negated_iff]

lemma exists_word_iff :
    ((Filter.ofExpressions g x).title.words = [] ∨
        ∃ w ∈ (Filter.ofExpressions g x).title.words, Mentions w title) ↔
      ((∀ w, ¬ TitleWord g w) ∨ ∃ w, TitleWord g w ∧ Mentions w title) := by
  simp only [List.eq_nil_iff_forall_not_mem, mem_words_iff]

lemma no_token_iff :
    ((Filter.ofExpressions g x).tags.groups = [] ∧
        (Filter.ofExpressions g x).tags.inverted = []) ↔
      ∀ group w, TagGroup x group → ¬ PositiveIn ',' group w ∧ ¬ NegativeIn ',' group w := by
  rw [← not_iff_not, not_and_or, ← ne_eq, ← ne_eq, groups_ne_nil_iff, inverted_ne_nil_iff]
  simp only [not_forall, not_and_or, not_not]
  simp only [← exists_or, ← and_or_left, exists_prop]

lemma tags_admits_iff {tags : List String} {untaggedPass : Bool} :
    (Filter.ofExpressions g x).tags.Admits tags untaggedPass ↔
      ((∀ group w, TagGroup x group → ¬ PositiveIn ',' group w ∧ ¬ NegativeIn ',' group w) ∨
        (tags ≠ [] ∧ ∀ group, TagGroup x group → (∃ w, PositiveIn ',' group w) →
          ∃ w, PositiveIn ',' group w ∧ w ≠ untagged ∧ w ∈ tags) ∨
        (tags = [] ∧ (untaggedPass = true ∨
          ((∃ group w, TagGroup x group ∧ PositiveIn ',' group w) ∧
            ∀ group, TagGroup x group → (∃ w, PositiveIn ',' group w) →
              PositiveIn ',' group untagged)))) := by
  rw [TagFilter.Admits, no_token_iff, groups_ne_nil_iff,
    forall_groups_iff (P := fun l => ∃ w ∈ l, w ≠ untagged ∧ w ∈ tags),
    forall_groups_iff (P := fun l => untagged ∈ l)]
  simp only [mem_alternatives_iff]

end Expressions

/-- **The meaning of two expressions**: a required tag lets a test run, and without one no
negated word or tag may occur, some word of the title has to, and the tags have to answer every
group, where an untagged test passes if that is asked for. -/
theorem admits_ofExpressions_iff (g x : Option String) (title : String)
    (tags required : List String) (untaggedPass : Bool) :
    (Filter.ofExpressions g x).admits ⟨title, tags, !required.isEmpty⟩ untaggedPass = true ↔
      required ≠ [] ∨
      ((∀ w, NegatedWord g w → ¬ Mentions w title) ∧
        (∀ group w, TagGroup x group → NegativeIn ',' group w → w ∉ tags) ∧
        ((∀ w, ¬ TitleWord g w) ∨ ∃ w, TitleWord g w ∧ Mentions w title) ∧
        ((∀ group w, TagGroup x group → ¬ PositiveIn ',' group w ∧ ¬ NegativeIn ',' group w) ∨
          (tags ≠ [] ∧ ∀ group, TagGroup x group → (∃ w, PositiveIn ',' group w) →
            ∃ w, PositiveIn ',' group w ∧ w ≠ untagged ∧ w ∈ tags) ∨
          (tags = [] ∧ (untaggedPass = true ∨
            ((∃ group w, TagGroup x group ∧ PositiveIn ',' group w) ∧
              ∀ group, TagGroup x group → (∃ w, PositiveIn ',' group w) →
                PositiveIn ',' group untagged))))) := by
  have hreq : (!required.isEmpty) = true ↔ required ≠ [] := by simp
  have hinverted : (∀ t ∈ (Filter.ofExpressions g x).tags.inverted, t ∉ tags) ↔
      ∀ group w, TagGroup x group → NegativeIn ',' group w → w ∉ tags := by
    simp only [mem_inverted_iff, forall_exists_index, and_imp]
    exact forall_comm
  rw [Filter.admits_iff]
  exact or_congr hreq
    (and_congr forall_negated_iff
      (and_congr hinverted (and_congr exists_word_iff tags_admits_iff)))

end Sieve
