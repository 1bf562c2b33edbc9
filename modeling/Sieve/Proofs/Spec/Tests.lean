import Sieve.Proofs.Spec.Names

/-!
The tests of a document.

They are those of its items, in the same order, if their titles differ. Without a broken rule the
walk over them fails only for an integer that cannot be written: where the document is one of its
own suites, it ends.
-/

namespace Sieve.Spec

open Document

/-! ### Titles -/

/-- No title occurs twice. -/
def DistinctTitles (l : List Test) : Prop := (l.map (·.candidate.title)).Nodup

lemma checkTitles_eq_none_iff {seen : List String} {l : List Test} :
    checkTitles seen l = none ↔
      DistinctTitles l ∧ ∀ t ∈ l, t.candidate.title ∉ seen := by
  unfold DistinctTitles
  induction l generalizing seen with
  | nil => simp [checkTitles]
  | cons t l ih =>
    rw [checkTitles]
    split_ifs with h
    · rw [List.contains_iff_mem] at h
      simp [h]
    · rw [List.contains_iff_mem] at h
      -- The title joins those that are taken, so the later ones differ from it.
      rw [ih]
      simp only [List.map_cons, List.nodup_cons, List.mem_map, not_exists, not_and,
        List.mem_cons, not_or, forall_eq_or_imp]
      constructor
      · rintro ⟨hnodup, hl⟩
        exact ⟨⟨fun u hu => (hl u hu).1, hnodup⟩, h, fun u hu => (hl u hu).2⟩
      · rintro ⟨⟨ht, hnodup⟩, -, hl⟩
        exact ⟨hnodup, fun u hu => ⟨ht u hu, hl u hu⟩⟩

lemma checkTitles_nil_eq_none_iff {l : List Test} : checkTitles [] l = none ↔ DistinctTitles l := by
  simp [checkTitles_eq_none_iff]

/-- The first title that is taken breaks a rule. -/
lemma checkTitles_eq_some {seen : List String} {l : List Test} {f : Failure}
    (h : checkTitles seen l = some f) :
    ∃ before t after, l = before ++ t :: after ∧ checkTitles seen before = none ∧
      (t.candidate.title ∈ seen ∨ ∃ u ∈ before, u.candidate.title = t.candidate.title) ∧
      f = violation (.titleTaken t.candidate.title) t.location t.line := by
  induction l generalizing seen with
  | nil => cases h
  | cons t l ih =>
    rw [checkTitles] at h
    split_ifs at h with htaken
    · exact ⟨[], t, l, rfl, rfl, Or.inl (List.contains_iff_mem.mp htaken),
        (Option.some.inj h).symm⟩
    · obtain ⟨before, u, after, rfl, hbefore, hu, rfl⟩ := ih h
      refine ⟨t :: before, u, after, rfl, ?_, ?_, rfl⟩
      · rw [checkTitles, if_neg htaken, hbefore]
      · rcases hu with hu | ⟨u', hu', htitle⟩
        · rcases List.mem_cons.mp hu with hu | hu
          · exact Or.inr ⟨t, List.mem_cons_self, hu.symm⟩
          · exact Or.inl hu
        · exact Or.inr ⟨u', List.mem_cons_of_mem _ hu', htitle⟩

variable {root : Mapping} {d : Document}

/-! ### What the root hands down -/

/-- What the root hands down. -/
def Mapping.base (root : Mapping) : Inherited :=
  { titles := if hasKey root.entries "suite" then [nameIn root.entries "suite"] else []
    tags := tagsIn root.entries "tags"
    required := tagsIn root.entries "required_tags"
    location := [] }

/-- What the root hands down can be read. -/
structure Mapping.HasBase (root : Mapping) : Prop where
  own : root.IsNamed
  tags : IsTagged root.entries "tags"
  required : IsTagged root.entries "required_tags"

/-- The first of these of the root that cannot be read cannot be written either. -/
def Mapping.BaseUnwritable (root : Mapping) : Prop :=
  NameUnwritable root.entries "suite" ∨
  (root.IsNamed ∧ (TagsUnwritable root root.entries "tags" ∨
    (IsTagged root.entries "tags" ∧ TagsUnwritable root root.entries "required_tags")))

/-- The reading of what the root hands down. -/
def Mapping.readBase (root : Mapping) : Except Failure Inherited :=
  (if hasKey root.entries "suite" then (readName root.entries "suite" [] root.line).map ([·])
    else .ok []).bind fun titles =>
  (readTags root root.entries "tags" [] root.line).bind fun tags =>
  (readTags root root.entries "required_tags" [] root.line).bind fun required =>
  .ok ⟨titles, tags, required, []⟩

lemma readBase_of_hasBase (h : root.HasBase) : root.readBase = .ok root.base := by
  obtain ⟨hname, ⟨tags, ht⟩, ⟨required, hr⟩⟩ := h
  unfold Mapping.readBase Mapping.base
  rw [tagsIn_eq ht, tagsIn_eq hr, readTags_eq_ok_iff.mpr ht, readTags_eq_ok_iff.mpr hr]
  split_ifs with hsuite
  · obtain ⟨name, hn⟩ := hname hsuite
    rw [readName_eq_ok_iff.mpr hn, nameIn_eq hn]
    rfl
  · rfl

lemma hasBase_of_readBase {i : Inherited} (h : root.readBase = .ok i) : root.HasBase := by
  unfold Mapping.readBase at h
  simp only [bind_eq_ok_iff, readTags_eq_ok_iff] at h
  obtain ⟨titles, hname, tags, ht, required, hr, -⟩ := h
  refine ⟨fun hsuite => ?_, ⟨tags, ht⟩, ⟨required, hr⟩⟩
  rw [if_pos hsuite, map_eq_ok_iff] at hname
  obtain ⟨name, hn, -⟩ := hname
  exact ⟨name, readName_eq_ok_iff.mp hn⟩

lemma readBase_eq_noText_iff : root.readBase = .error .noText ↔ root.BaseUnwritable := by
  unfold Mapping.readBase Mapping.BaseUnwritable Mapping.IsNamed IsTagged
  by_cases hsuite : hasKey root.entries "suite" = true
  · simp [hsuite, bind_eq_error_iff, map_eq_error_iff, map_eq_ok_iff, readName_eq_noText_iff,
      readName_eq_ok_iff, readTags_eq_noText_iff, readTags_eq_ok_iff]
  · have hno := not_nameUnwritable_of_not_hasKey (Bool.eq_false_iff.mpr hsuite)
    simp [hsuite, hno, bind_eq_error_iff, readTags_eq_noText_iff, readTags_eq_ok_iff]

lemma readBase_ne {e : Failure} (hrule : ∀ v, .violation v ≠ e) (htext : .noText ≠ e) :
    root.readBase ≠ .error e := by
  unfold Mapping.readBase
  by_cases hsuite : hasKey root.entries "suite" = true
  · simp [hsuite, bind_eq_error_iff, map_eq_error_iff, readName_ne hrule htext,
      readTags_ne hrule htext]
  · simp [hsuite, bind_eq_error_iff, readTags_ne hrule htext]

/-! ### Tests -/

/-- The tests of a document, in its order. -/
def Mapping.tests (root : Mapping) : List Test :=
  root.items.filterMap (Item.test? root root.base)

/-- The walk over the tests of a document. -/
def Mapping.testWalk (root : Mapping) : Walk Test :=
  (checkTests root []).append (.along (testStep root root.base) root.items)

/-- The candidates of a walk, if no title is taken. -/
def ofTestWalk (w : Walk Test) : Except Failure (List Candidate) :=
  match checkTitles [] w.items with
  | some f => .error f
  | none => w.toExcept.map fun l => l.map (·.candidate)

lemma ofTestWalk_eq_ok_iff {w : Walk Test} {cs : List Candidate} :
    ofTestWalk w = .ok cs ↔
      w.failure = none ∧ DistinctTitles w.items ∧ cs = w.items.map (·.candidate) := by
  unfold ofTestWalk
  rw [← checkTitles_nil_eq_none_iff]
  rcases checkTitles [] w.items with _ | f
  · rw [map_eq_ok_iff]
    simp only [Walk.toExcept_eq_ok_iff, true_and]
    constructor
    · rintro ⟨l, ⟨h, rfl⟩, rfl⟩
      exact ⟨h, rfl⟩
    · rintro ⟨h, rfl⟩
      exact ⟨_, ⟨h, rfl⟩, rfl⟩
  · simp

lemma ofTestWalk_eq_error_iff {w : Walk Test} {e : Failure} (hrule : ∀ v, .violation v ≠ e) :
    ofTestWalk w = .error e ↔ DistinctTitles w.items ∧ w.failure = some e := by
  unfold ofTestWalk
  rw [← checkTitles_nil_eq_none_iff]
  rcases h : checkTitles [] w.items with _ | f
  · simp [map_eq_error_iff, Walk.toExcept_eq_error_iff]
  · obtain ⟨-, -, -, -, -, -, rfl⟩ := checkTitles_eq_some h
    simp [violation, hrule]

lemma candidates_eq :
    candidates (.map root.line root.entries) = root.readBase.bind fun i =>
      ofTestWalk (testsBelow root roundLimit root.entries root.line i) := by
  unfold candidates Mapping.readBase
  simp only [rootOf, bind, Except.bind, pure, Except.pure]
  split_ifs with hsuite
  · rcases readName root.entries "suite" [] root.line with e | name
    · rfl
    rcases readTags root root.entries "tags" [] root.line with e | tags
    · rfl
    rcases readTags root root.entries "required_tags" [] root.line with e | required
    · rfl
    rfl
  · rcases readTags root root.entries "tags" [] root.line with e | tags
    · rfl
    rcases readTags root root.entries "required_tags" [] root.line with e | required
    · rfl
    rfl

lemma candidates_of_hasBase (h : root.HasBase) :
    candidates (.map root.line root.entries) = ofTestWalk root.testWalk := by
  rw [candidates_eq, readBase_of_hasBase h, Mapping.testWalk, Mapping.items,
    ← testsBelow_eq root root.base roundLimit root.entries root.line [] []]
  rfl

/-- The walk over tests gets past the items, whose titles differ. -/
def Mapping.TestsPass (root : Mapping) (l : List Item) : Prop :=
  (∀ x ∈ l, x.IsTestedIn root) ∧ DistinctTitles (l.filterMap (Item.test? root root.base))

/-- All tests of the document can be read. -/
structure Mapping.HasTests (root : Mapping) : Prop where
  base : root.HasBase
  listed : testsOf root.entries ≠ .malformed
  items : root.TestsPass root.items

/-- Steps that pass meet the tests of their items. -/
lemma items_testSteps {l : List Item} (h : ∀ x ∈ l, x.IsTestedIn root) :
    (l.flatMap fun x => (testStep root root.base x).items) =
      l.filterMap (Item.test? root root.base) := by
  rw [List.filterMap_eq_flatMap_toList]
  exact List.flatMap_congr fun x hx => items_testStep (h x hx)

/-- Up to the item that stops the walk, the tests of those before it are met. -/
lemma items_along_testStep {before after : List Item} {x : Item} {e : Failure}
    (hbefore : ∀ y ∈ before, (testStep root root.base y).failure = none)
    (hx : (testStep root root.base x).failure = some e) :
    (Walk.along (testStep root root.base) (before ++ x :: after)).items =
      before.filterMap (Item.test? root root.base) := by
  rw [Walk.items_along_of_split hbefore hx, items_testStep_of_failure hx, List.append_nil,
    items_testSteps fun y hy => failure_testStep_eq_none_iff.mp (hbefore y hy)]

lemma failure_testWalk_eq_none_iff :
    root.testWalk.failure = none ↔
      testsOf root.entries ≠ .malformed ∧ ∀ x ∈ root.items, x.IsTestedIn root := by
  simp only [Mapping.testWalk, Walk.failure_append_eq_none_iff, failure_checkTests_eq_none_iff,
    Walk.failure_along_eq_none_iff, failure_testStep_eq_none_iff]

lemma items_testWalk (h : root.testWalk.failure = none) : root.testWalk.items = root.tests := by
  obtain ⟨hlisted, hitems⟩ := failure_testWalk_eq_none_iff.mp h
  have hsteps : (Walk.along (testStep root root.base) root.items).failure = none := by
    rw [Walk.failure_along_eq_none_iff]
    exact fun x hx => failure_testStep_eq_none_iff.mpr (hitems x hx)
  rw [Mapping.testWalk, Walk.items_append_of_none (failure_checkTests_eq_none_iff.mpr hlisted),
    items_checkTests, List.nil_append, Walk.items_along hsteps, items_testSteps hitems]
  rfl

/-- Where no rule is broken, the walk fails at an item behind tests whose titles differ. -/
lemma failure_testWalk_eq_some_iff {e : Failure} (hrule : ∀ v, .violation v ≠ e) :
    DistinctTitles root.testWalk.items ∧ root.testWalk.failure = some e ↔
      testsOf root.entries ≠ .malformed ∧
        FirstStop root.TestsPass (fun x => (testStep root root.base x).failure = some e)
          root.items := by
  by_cases hlisted : testsOf root.entries = .malformed
  · have hfail : root.testWalk.failure ≠ some e := by
      rw [Mapping.testWalk, Ne, Walk.failure_append_eq_some_iff, failure_checkTests_eq_none_iff]
      simp [failure_checkTests_ne hrule, hlisted]
    simp [hfail, hlisted]
  have hcheck : (checkTests root [] : Walk Test).failure = none :=
    failure_checkTests_eq_none_iff.mpr hlisted
  rw [Mapping.testWalk, Walk.failure_append_of_none hcheck, Walk.items_append_of_none hcheck,
    items_checkTests, List.nil_append, Walk.failure_along_eq_some_iff]
  simp only [ne_eq, hlisted, not_false_eq_true, true_and]
  constructor
  · rintro ⟨htitles, before, x, after, hsplit, hbefore, hx⟩
    rw [hsplit, items_along_testStep hbefore hx] at htitles
    have htested := fun y hy => failure_testStep_eq_none_iff.mp (hbefore y hy)
    exact ⟨before, x, after, hsplit, ⟨htested, htitles⟩, hx⟩
  · rintro ⟨before, x, after, hsplit, ⟨htested, htitles⟩, hx⟩
    have hbefore : ∀ y ∈ before, (testStep root root.base y).failure = none :=
      fun y hy => failure_testStep_eq_none_iff.mpr (htested y hy)
    refine ⟨?_, before, x, after, hsplit, hbefore, hx⟩
    rw [hsplit, items_along_testStep hbefore hx]
    exact htitles

/-- **The tests of a document** are those of its items. -/
theorem candidates_eq_ok_iff {cs : List Candidate} :
    candidates (.map root.line root.entries) = .ok cs ↔
      root.HasTests ∧ cs = root.tests.map (·.candidate) := by
  constructor
  · intro h
    have hbase : root.HasBase := by
      rw [candidates_eq, bind_eq_ok_iff] at h
      obtain ⟨i, hi, -⟩ := h
      exact hasBase_of_readBase hi
    rw [candidates_of_hasBase hbase, ofTestWalk_eq_ok_iff] at h
    obtain ⟨hnone, htitles, rfl⟩ := h
    obtain ⟨hlisted, hitems⟩ := failure_testWalk_eq_none_iff.mp hnone
    rw [items_testWalk hnone] at htitles ⊢
    exact ⟨⟨hbase, hlisted, hitems, htitles⟩, rfl⟩
  · rintro ⟨⟨hbase, hlisted, hitems, htitles⟩, rfl⟩
    have hnone := failure_testWalk_eq_none_iff.mpr ⟨hlisted, hitems⟩
    rw [candidates_of_hasBase hbase, ofTestWalk_eq_ok_iff, items_testWalk hnone]
    exact ⟨hnone, htitles, rfl⟩

/-- Without a broken rule, the extraction of tests fails at the root or at an item. -/
lemma candidates_eq_error_iff {e : Failure} (hrule : ∀ v, .violation v ≠ e) :
    candidates (.map root.line root.entries) = .error e ↔
      root.readBase = .error e ∨
      (root.HasBase ∧ testsOf root.entries ≠ .malformed ∧
        FirstStop root.TestsPass (fun x => (testStep root root.base x).failure = some e)
          root.items) := by
  rw [← failure_testWalk_eq_some_iff hrule, ← ofTestWalk_eq_error_iff hrule]
  constructor
  · intro h
    rw [candidates_eq, bind_eq_error_iff] at h
    rcases h with h | ⟨i, hi, h⟩
    · exact Or.inl h
    · have hbase := hasBase_of_readBase hi
      rw [← candidates_of_hasBase hbase, candidates_eq, bind_eq_error_iff]
      exact Or.inr ⟨hbase, Or.inr ⟨i, hi, h⟩⟩
  · rintro (h | ⟨hbase, h⟩)
    · rw [candidates_eq, h]
      rfl
    · rw [candidates_of_hasBase hbase, h]

/-- The first item whose test cannot be read may be the document once too often. -/
theorem candidates_eq_endless_iff :
    candidates (.map root.line root.entries) = .error .endless ↔
      root.HasBase ∧ testsOf root.entries ≠ .malformed ∧
        FirstStop root.TestsPass (Item.TestEndlessIn root) root.items := by
  rw [candidates_eq_error_iff (by simp), or_iff_right (readBase_ne (by simp) (by simp))]
  simp only [failure_testStep_eq_endless_iff]

/-- The walk over tests is stopped by what names no rule: what cannot be written, or the document
once too often. -/
def Mapping.TestsStuck (root : Mapping) : Prop :=
  root.BaseUnwritable ∨
  (root.HasBase ∧ testsOf root.entries ≠ .malformed ∧
    FirstStop root.TestsPass (fun x => x.TestUnwritableIn root ∨ x.TestEndlessIn root) root.items)

theorem testsStuck_iff :
    root.TestsStuck ↔
      candidates (.map root.line root.entries) = .error .noText ∨
        candidates (.map root.line root.entries) = .error .endless := by
  rw [candidates_eq_error_iff (by simp), readBase_eq_noText_iff, candidates_eq_endless_iff,
    Mapping.TestsStuck, firstStop_or_iff, or_assoc]
  simp only [failure_testStep_eq_noText_iff]
  tauto

/-- The extraction from a document has nothing to load. -/
lemma candidates_ne_load {d : Document} {l : LoadError} : candidates d ≠ .error (.load l) := by
  cases d with
  | map line es =>
    intro h
    rcases (@candidates_eq_error_iff ⟨line, es⟩ _ (by simp)).mp h with
      h | ⟨-, -, before, x, after, -, -, hx⟩
    · exact readBase_ne (by simp) (by simp) h
    · exact failure_testStep_ne_load hx
  | _ => simp [candidates, rootOf, bind, Except.bind]

end Sieve.Spec
