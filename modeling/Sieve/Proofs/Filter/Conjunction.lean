import Sieve.Proofs.Filter.Decision

/-!
Tag expressions joined by plus signs.

What is joined asks for what each part asks for, and excludes what any part excludes. So it lets a
test run if each part does. There is one exception: a part that only excludes tags lets no untagged
test run, but beside a part that asks for tags it does not count for such a test.
-/

namespace Sieve

open Text

/-! ### Two tag filters -/

namespace TagFilter

variable {f g : TagFilter} {tags : List String} {untaggedPass : Bool}

/-- What one of two filters asks for or excludes. -/
def and (f g : TagFilter) : TagFilter := ⟨f.groups ++ g.groups, f.inverted ++ g.inverted⟩

/-- The filter excludes tags and asks for none. -/
def OnlyExcludes (f : TagFilter) : Prop := f.groups = [] ∧ f.inverted ≠ []

instance (f : TagFilter) : Decidable f.OnlyExcludes :=
  inferInstanceAs (Decidable (f.groups = [] ∧ f.inverted ≠ []))

lemma admits_tagged_iff (h : tags ≠ []) :
    f.Admits tags untaggedPass ↔ ∀ group ∈ f.groups, ∃ w ∈ group, w ≠ untagged ∧ w ∈ tags := by
  unfold Admits
  constructor
  · rintro (⟨hnone, -⟩ | ⟨-, hall⟩ | ⟨hnil, -⟩)
    · simp [hnone]
    · exact hall
    · exact absurd hnil h
  · exact fun hall => Or.inr (Or.inl ⟨h, hall⟩)

/-- An untagged test may be let through; else each group has to offer it, and a filter that only
excludes does not. -/
lemma admits_untagged_iff :
    f.Admits [] untaggedPass ↔
      untaggedPass = true ∨ ¬ f.OnlyExcludes ∧ ∀ group ∈ f.groups, untagged ∈ group := by
  unfold Admits OnlyExcludes
  by_cases hgroups : f.groups = []
  · by_cases hinverted : f.inverted = [] <;> simp [hgroups, hinverted]
  · simp [hgroups]

/-- **Both filters together** let a test run if each of them does, unless the test is untagged and
one of them only excludes while the other one asks for tags. -/
theorem admits_and_iff (h : tags = [] → untaggedPass = false →
      (f.OnlyExcludes → g.groups = []) ∧ (g.OnlyExcludes → f.groups = [])) :
    (f.and g).Admits tags untaggedPass ↔
      f.Admits tags untaggedPass ∧ g.Admits tags untaggedPass := by
  by_cases htags : tags = []
  · subst htags
    rw [admits_untagged_iff, admits_untagged_iff, admits_untagged_iff]
    rcases untaggedPass with _ | _
    · obtain ⟨hf, hg⟩ := h rfl rfl
      have honly : (f.and g).OnlyExcludes ↔ f.OnlyExcludes ∨ g.OnlyExcludes := by
        unfold OnlyExcludes and at *
        simp only [List.append_eq_nil_iff, not_and_or, ne_eq] at *
        tauto
      simp only [honly, Bool.false_eq_true, false_or]
      simp only [and, List.forall_mem_append]
      tauto
    · simp
  · rw [admits_tagged_iff htags, admits_tagged_iff htags, admits_tagged_iff htags, and,
      List.forall_mem_append]

/-- An untagged test is let through by the filter that asks for tags, whatever the one beside it
excludes. -/
lemma admits_and_of_onlyExcludes (hf : f.OnlyExcludes) (hg : g.groups ≠ []) :
    (f.and g).Admits [] untaggedPass ↔ g.Admits [] untaggedPass := by
  have hand : ¬ (f.and g).OnlyExcludes := by
    simp [OnlyExcludes, and, hf.1, hg]
  have hg' : ¬ g.OnlyExcludes := fun h => hg h.1
  rw [admits_untagged_iff, admits_untagged_iff, iff_true_intro hand, iff_true_intro hg', and, hf.1,
    List.nil_append]

end TagFilter

/-! ### Decisions -/

namespace Filter

variable {f g : Filter} {s : Subject} {untaggedPass : Bool}

/-- The tags that a filter names count, not their order or how often they are named. -/
lemma admits_congr (htitle : f.title = g.title)
    (hgroups : ∀ group, group ∈ f.tags.groups ↔ group ∈ g.tags.groups)
    (hinverted : ∀ t, t ∈ f.tags.inverted ↔ t ∈ g.tags.inverted) :
    f.admits s untaggedPass = g.admits s untaggedPass := by
  rw [Bool.eq_iff_iff, admits_iff, admits_iff, htitle]
  simp only [TagFilter.Admits, List.eq_nil_iff_forall_not_mem, hgroups, hinverted, ne_eq]

end Filter

/-! ### Expressions -/

/-- Two tag expressions joined by a plus sign. -/
def plus (a b : String) : String := a ++ "+" ++ b

namespace TagFilter

lemma tokenGroups_plus (a b : String) :
    tokenGroups (plus a b) = tokenGroups a ++ tokenGroups b := by
  have hplus : (plus a b).toList = a.toList ++ '+' :: b.toList := by simp [plus]
  rw [tokenGroups, hplus, splitOn_append_sep, List.map_append]
  rfl

/-- A joined expression spells both filters. -/
theorem ofExpression_plus (a b : String) :
    ofExpression (plus a b) = (ofExpression a).and (ofExpression b) := by
  simp only [ofExpression, and, tokenGroups_plus, List.map_append, List.filter_append,
    List.flatMap_append]

lemma tokenGroups_join {parts : List String} (hne : parts ≠ []) :
    tokenGroups ("+".intercalate parts) = parts.flatMap tokenGroups := by
  have hsplit : splitOn '+' ("+".intercalate parts).toList =
      parts.flatMap fun p => splitOn '+' p.toList := by
    rw [String.toList_intercalate, show "+".toList = ['+'] from rfl,
      splitOn_join (by simpa using hne), List.flatMap_map]
  rw [tokenGroups, hsplit, List.map_flatMap]
  rfl

/-- Parts joined by plus signs spell what one of them spells. -/
lemma mem_groups_join_iff {parts : List String} {group : List String} :
    group ∈ (ofExpression ("+".intercalate parts)).groups ↔
      ∃ p ∈ parts, group ∈ (ofExpression p).groups := by
  rcases parts with _ | ⟨p, parts⟩
  · simp [ofExpression, tokenGroups, splitOn, between_nil]
  · simp only [ofExpression, tokenGroups_join (List.cons_ne_nil p parts), List.map_flatMap,
      List.filter_flatMap, List.mem_flatMap]

lemma mem_inverted_join_iff {parts : List String} {t : String} :
    t ∈ (ofExpression ("+".intercalate parts)).inverted ↔
      ∃ p ∈ parts, t ∈ (ofExpression p).inverted := by
  rcases parts with _ | ⟨p, parts⟩
  · simp [ofExpression, tokenGroups, splitOn, between_nil]
  · simp only [ofExpression, tokenGroups_join (List.cons_ne_nil p parts), List.flatMap_assoc,
      List.mem_flatMap]

end TagFilter

/-- Whether a test runs under a title expression and a tag expression. -/
def runsUnder (g : Option String) (s : Subject) (untaggedPass : Bool) (x : String) : Bool :=
  (Filter.ofExpressions g (some x)).admits s untaggedPass

/-- An untagged test that nothing lets through meets an expression that only excludes tags beside
one that asks for some. -/
structure IsPassedOver (s : Subject) (untaggedPass : Bool) (a b : String) : Prop where
  notRequired : s.isRequired = false
  noTags : s.tags = []
  notPassed : untaggedPass = false
  excludes : (TagFilter.ofExpression a).OnlyExcludes
  asks : (TagFilter.ofExpression b).groups ≠ []

section Decisions

variable {g : Option String} {s : Subject} {untaggedPass : Bool} {a b : String}

/-- What the title has to fulfil, whatever the tags are. -/
def TitlePasses (g : Option String) (title : String) : Prop :=
  (∀ w, NegatedWord g w → ¬ Mentions w title) ∧
    ((∀ w, ¬ TitleWord g w) ∨ ∃ w, TitleWord g w ∧ Mentions w title)

lemma runsUnder_iff {x : String} :
    runsUnder g s untaggedPass x = true ↔
      s.isRequired = true ∨
        TitlePasses g s.title ∧ (∀ t ∈ (TagFilter.ofExpression x).inverted, t ∉ s.tags) ∧
          (TagFilter.ofExpression x).Admits s.tags untaggedPass := by
  rw [runsUnder, Filter.admits_iff, forall_negated_iff, exists_word_iff, TitlePasses, and_assoc]
  exact or_congr_right (and_congr_right' and_left_comm)

/-- Neither the order of parts nor their repetition matters. -/
lemma runsUnder_join_congr {parts parts' : List String} (h : ∀ p, p ∈ parts ↔ p ∈ parts') :
    runsUnder g s untaggedPass ("+".intercalate parts) =
      runsUnder g s untaggedPass ("+".intercalate parts') := by
  refine Filter.admits_congr rfl (fun group => ?_) (fun t => ?_)
  · exact TagFilter.mem_groups_join_iff.trans
      ((exists_congr fun p => and_congr_left' (h p)).trans TagFilter.mem_groups_join_iff.symm)
  · exact TagFilter.mem_inverted_join_iff.trans
      ((exists_congr fun p => and_congr_left' (h p)).trans TagFilter.mem_inverted_join_iff.symm)

lemma runsUnder_plus_comm :
    runsUnder g s untaggedPass (plus a b) = runsUnder g s untaggedPass (plus b a) := by
  have hjoin : ∀ x y : String, plus x y = "+".intercalate [x, y] := by
    intro x y
    apply String.toList_injective
    simp [plus]
  have hpair : ∀ p, p ∈ [a, b] ↔ p ∈ [b, a] := by
    intro p
    simp [or_comm]
  rw [hjoin, hjoin, runsUnder_join_congr hpair]

/-- Where nothing is passed over, both decisions count. -/
lemma runsUnder_plus_of_not_passedOver (hab : ¬ IsPassedOver s untaggedPass a b)
    (hba : ¬ IsPassedOver s untaggedPass b a) :
    runsUnder g s untaggedPass (plus a b) =
      (runsUnder g s untaggedPass a && runsUnder g s untaggedPass b) := by
  rw [Bool.eq_iff_iff, Bool.and_eq_true, runsUnder_iff, runsUnder_iff, runsUnder_iff]
  rcases hrequired : s.isRequired with _ | _
  swap
  · simp only [true_or, and_self]
  have htags : (TagFilter.ofExpression (plus a b)).Admits s.tags untaggedPass ↔
      (TagFilter.ofExpression a).Admits s.tags untaggedPass ∧
        (TagFilter.ofExpression b).Admits s.tags untaggedPass := by
    rw [TagFilter.ofExpression_plus]
    refine TagFilter.admits_and_iff fun hnoTags hnotPassed =>
      ⟨fun hexcludes => ?_, fun hexcludes => ?_⟩
    · by_contra hasks
      exact hab ⟨hrequired, hnoTags, hnotPassed, hexcludes, hasks⟩
    · by_contra hasks
      exact hba ⟨hrequired, hnoTags, hnotPassed, hexcludes, hasks⟩
  have hinverted : (∀ t ∈ (TagFilter.ofExpression (plus a b)).inverted, t ∉ s.tags) ↔
      (∀ t ∈ (TagFilter.ofExpression a).inverted, t ∉ s.tags) ∧
        ∀ t ∈ (TagFilter.ofExpression b).inverted, t ∉ s.tags := by
    rw [TagFilter.ofExpression_plus, TagFilter.and, List.forall_mem_append]
  rw [htags, hinverted, ← or_and_left, ← and_and_left, and_and_and_comm]

/-- A test that is passed over is decided by the expression that asks for tags. -/
lemma runsUnder_plus_of_passedOver (h : IsPassedOver s untaggedPass a b) :
    runsUnder g s untaggedPass (plus a b) = runsUnder g s untaggedPass b := by
  have hadmits : (TagFilter.ofExpression (plus a b)).Admits s.tags untaggedPass ↔
      (TagFilter.ofExpression b).Admits s.tags untaggedPass := by
    rw [TagFilter.ofExpression_plus, h.noTags]
    exact TagFilter.admits_and_of_onlyExcludes h.excludes h.asks
  rw [Bool.eq_iff_iff, runsUnder_iff, runsUnder_iff, hadmits, h.noTags]
  simp only [List.not_mem_nil, not_false_eq_true, implies_true]

end Decisions

/-- **A plus sign is conjunction**: a joined expression lets a test run if both expressions do. Only
a test that is passed over is decided by the one that asks for tags. The order of parts and their
repetition do not matter. -/
theorem plus_is_conjunction (g : Option String) (s : Subject) (untaggedPass : Bool) :
    (∀ a b, ¬ IsPassedOver s untaggedPass a b → ¬ IsPassedOver s untaggedPass b a →
      runsUnder g s untaggedPass (plus a b) =
        (runsUnder g s untaggedPass a && runsUnder g s untaggedPass b)) ∧
    (∀ a b, IsPassedOver s untaggedPass a b →
      runsUnder g s untaggedPass (plus a b) = runsUnder g s untaggedPass b ∧
        runsUnder g s untaggedPass (plus b a) = runsUnder g s untaggedPass b) ∧
    ∀ parts parts' : List String, (∀ p, p ∈ parts ↔ p ∈ parts') →
      runsUnder g s untaggedPass ("+".intercalate parts) =
        runsUnder g s untaggedPass ("+".intercalate parts') := by
  refine ⟨fun a b => runsUnder_plus_of_not_passedOver, fun a b h => ⟨?_, ?_⟩, fun parts parts' =>
    runsUnder_join_congr⟩
  · exact runsUnder_plus_of_passedOver h
  · rw [runsUnder_plus_comm]
    exact runsUnder_plus_of_passedOver h

/-- A test without tags, and one that is slow. -/
def bareTest : Subject := ⟨"A b", [], false⟩

def slowTest : Subject := ⟨"A c", ["slow"], false⟩

/-- Beside `untagged`, an expression that excludes a tag passes a test without tags over. It counts
for a test that has the tag. -/
theorem passed_over_without_tags :
    (IsPassedOver bareTest false "-slow" "untagged" ∧
      runsUnder none bareTest false (plus "-slow" "untagged") = true ∧
      runsUnder none bareTest false "-slow" = false) ∧
    (¬ IsPassedOver slowTest false "-slow" "slow" ∧ ¬ IsPassedOver slowTest false "slow" "-slow" ∧
      runsUnder none slowTest false (plus "-slow" "slow") = false) ∧
    (∀ p, p ∈ ["a", "b", "a"] ↔ p ∈ ["b", "a"]) ∧
      runsUnder none slowTest true ("+".intercalate ["a", "b", "a"]) =
        runsUnder none slowTest true ("+".intercalate ["b", "a"]) := by
  have hover : IsPassedOver bareTest false "-slow" "untagged" :=
    ⟨rfl, rfl, rfl, by decide +kernel, by decide +kernel⟩
  have hslow : ∀ a b, ¬ IsPassedOver slowTest false a b := fun a b h => by
    have := h.noTags
    simp [slowTest] at this
  have hparts : ∀ p, p ∈ ["a", "b", "a"] ↔ p ∈ ["b", "a"] := by
    intro p
    simp only [List.mem_cons, List.not_mem_nil, or_false]
    tauto
  refine ⟨⟨hover, ?_, by decide +kernel⟩, ⟨hslow _ _, hslow _ _, ?_⟩, hparts, ?_⟩
  · rw [((plus_is_conjunction none bareTest false).2.1 _ _ hover).1]
    decide +kernel
  · rw [(plus_is_conjunction none slowTest false).1 _ _ (hslow _ _) (hslow _ _)]
    decide +kernel
  · exact (plus_is_conjunction none slowTest true).2.2 _ _ hparts

end Sieve
