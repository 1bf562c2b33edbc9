import Sieve.Proofs.Spec.Items

/-!
What the steps of the walks accept, meet and refuse.

The step over names passes an item whose name can be read, the step over tests one whose tags can
be read too; a suite has to list its tests besides. A step that does not pass meets nothing. It
names a broken rule, save where an integer cannot be written or the document is spent.
-/

namespace Sieve.Spec

open Document

variable {root m : Mapping} {es : Entries} {location : Location} {line : Option Nat} {x : Item}

/-- The key under which a mapping has its name. -/
def nameKey (es : Entries) : String := if hasKey es "suite" then "suite" else "name"

/-- The name can be read. -/
def IsNamed (es : Entries) : Prop := ∃ name, NameIs es (nameKey es) name

/-- The tags under a key can be read. -/
def IsTagged (es : Entries) (key : String) : Prop := ∃ tags, TagsAre es key tags

/-- Where no tags are given, none are read. -/
lemma isTagged_of_none {key : String} (h : get? es key = none) : IsTagged es key :=
  ⟨[], Or.inl ⟨Or.inl h, rfl⟩⟩

lemma NameIs.hasKey {key name : String} (h : NameIs es key name) : hasKey es key = true := by
  obtain ⟨text, ht, -⟩ := h
  unfold Document.hasKey
  rcases hg : get? es key with _ | d
  · simp [hg] at ht
  · rfl

lemma IsNamed.hasKey (h : IsNamed es) : Document.hasKey es (nameKey es) = true :=
  h.elim fun _ hn => hn.hasKey

/-! ### Entering a suite -/

section Enter

variable {α : Type}

lemma items_checkTests : (checkTests m location : Walk α).items = [] := by
  unfold checkTests
  split <;> rfl

lemma failure_checkTests_eq_none_iff :
    (checkTests m location : Walk α).failure = none ↔ testsOf m.entries ≠ .malformed := by
  unfold checkTests
  split <;> simp_all [Walk.stop, Walk.nothing]

/-- A list of tests that is none breaks a rule. -/
lemma failure_checkTests_ne {e : Failure} (hrule : ∀ v, .violation v ≠ e) :
    (checkTests m location : Walk α).failure ≠ some e := by
  unfold checkTests
  split <;> simp [Walk.stop, Walk.nothing, violation, hrule]

lemma enter_of_isSpent (h : x.IsSpent) : (x.enter m : Walk α) = .stop .endless := by
  obtain ⟨hc, hr⟩ := h
  simp [Item.enter, hc, hr]

lemma enter_of_not_isSpent (h : ¬ x.IsSpent) :
    (x.enter m : Walk α) = checkTests m x.location := by
  unfold Item.enter
  split
  · rename_i hc hr
    exact absurd ⟨hc, hr⟩ h
  · rfl

lemma items_enter : (x.enter m : Walk α).items = [] := by
  by_cases h : x.IsSpent
  · rw [enter_of_isSpent h]
    rfl
  · rw [enter_of_not_isSpent h, items_checkTests]

lemma failure_enter_eq_none_iff :
    (x.enter m : Walk α).failure = none ↔ ¬ x.IsSpent ∧ testsOf m.entries ≠ .malformed := by
  by_cases h : x.IsSpent
  · simp [enter_of_isSpent h, h, Walk.stop]
  · simp [enter_of_not_isSpent h, failure_checkTests_eq_none_iff, h]

/-- Where no rule is broken, only a spent document stops a walk here. -/
lemma failure_enter_eq_some_iff {e : Failure} (hrule : ∀ v, .violation v ≠ e) :
    (x.enter m : Walk α).failure = some e ↔ x.IsSpent ∧ e = .endless := by
  by_cases h : x.IsSpent
  · simp [enter_of_isSpent h, h, Walk.stop, eq_comm]
  · simp [enter_of_not_isSpent h, failure_checkTests_ne hrule, h]

end Enter

/-! ### The step over names -/

/-- The step over names passes the item as that mapping. -/
def Item.NamePasses (x : Item) (m : Mapping) : Prop :=
  IsNamed m.entries ∧
    (hasKey m.entries "suite" = true → ¬ x.IsSpent ∧ testsOf m.entries ≠ .malformed)

/-- The step over names passes the item. -/
def Item.IsNamedIn (root : Mapping) (x : Item) : Prop :=
  ∃ m, root.of? x.content = some m ∧ x.NamePasses m

/-- The name of the item cannot be written. -/
def Item.NameUnwritableIn (root : Mapping) (x : Item) : Prop :=
  ∃ m, root.of? x.content = some m ∧ NameUnwritable m.entries (nameKey m.entries)

/-- The item is the document, a suite with a name, once too often. -/
def Item.NameEndlessIn (root : Mapping) (x : Item) : Prop :=
  ∃ m, root.of? x.content = some m ∧ IsNamed m.entries ∧ hasKey m.entries "suite" = true ∧
    x.IsSpent

/-- What is met of a mapping whose name can be read. -/
def nameOf (es : Entries) : Name :=
  if hasKey es "suite" then .suite (nameIn es "suite") else .test (nameIn es "name")

/-- The name that is met at an item. -/
def Item.name? (root : Mapping) (x : Item) : Option Name :=
  (root.of? x.content).map fun m => nameOf m.entries

lemma nameStep_of_some (h : root.of? x.content = some m) :
    nameStep root x =
      namesOfEntry m.entries m.line x.location fun _ => x.enter m := by
  simp [nameStep, h]

lemma failure_nameStep_of_none (h : root.of? x.content = none) :
    (nameStep root x).failure = some (violation .entryType x.location x.listLine) := by
  simp [nameStep, h, Walk.stop]

/-- A mapping without either key has no name. -/
lemma not_isNamed_of_nameless (hsuite : hasKey es "suite" = false)
    (hname : hasKey es "name" = false) : ¬ IsNamed es := by
  intro h
  have := h.hasKey
  simp [nameKey, hsuite, hname] at this

lemma not_nameUnwritable_of_not_hasKey {key : String} (h : hasKey es key = false) :
    ¬ NameUnwritable es key := by
  rintro ⟨n, hn, -⟩
  simp [hasKey, hn] at h

theorem failure_nameStep_eq_none_iff :
    (nameStep root x).failure = none ↔ x.IsNamedIn root := by
  unfold Item.IsNamedIn
  rcases h : root.of? x.content with _ | m
  · simp [failure_nameStep_of_none h]
  rw [nameStep_of_some h]
  unfold namesOfEntry nameOfSuite Item.NamePasses
  by_cases hsuite : hasKey m.entries "suite" = true
  · simp [hsuite, Walk.failure_append_eq_none_iff, Walk.failure_after_eq_none_iff,
      readName_eq_ok_iff, IsNamed, nameKey, failure_enter_eq_none_iff, Walk.one]
  · rw [Bool.not_eq_true] at hsuite
    by_cases hname : hasKey m.entries "name" = true
    · simp [hsuite, hname, Walk.failure_after_eq_none_iff, readName_eq_ok_iff, IsNamed, nameKey,
        Walk.one]
    · rw [Bool.not_eq_true] at hname
      simp [hsuite, hname, Walk.stop, not_isNamed_of_nameless]

theorem failure_nameStep_eq_noText_iff :
    (nameStep root x).failure = some .noText ↔ x.NameUnwritableIn root := by
  unfold Item.NameUnwritableIn
  rcases h : root.of? x.content with _ | m
  · simp [failure_nameStep_of_none h, violation]
  rw [nameStep_of_some h]
  unfold namesOfEntry nameOfSuite
  by_cases hsuite : hasKey m.entries "suite" = true
  · simp [hsuite, Walk.failure_append_eq_some_iff, Walk.failure_after_eq_some_iff,
      readName_eq_noText_iff, nameKey, failure_enter_eq_some_iff, Walk.one]
  · rw [Bool.not_eq_true] at hsuite
    by_cases hname : hasKey m.entries "name" = true
    · simp [hsuite, hname, Walk.failure_after_eq_some_iff, readName_eq_noText_iff, nameKey,
        Walk.one]
    · rw [Bool.not_eq_true] at hname
      simp [hsuite, hname, nameKey, Walk.stop, violation, not_nameUnwritable_of_not_hasKey]

theorem failure_nameStep_eq_endless_iff :
    (nameStep root x).failure = some .endless ↔ x.NameEndlessIn root := by
  unfold Item.NameEndlessIn
  rcases h : root.of? x.content with _ | m
  · simp [failure_nameStep_of_none h, violation]
  rw [nameStep_of_some h]
  unfold namesOfEntry nameOfSuite
  by_cases hsuite : hasKey m.entries "suite" = true
  · simp [hsuite, Walk.failure_append_eq_some_iff, Walk.failure_after_eq_some_iff,
      Walk.failure_after_eq_none_iff, readName_eq_ok_iff, readName_ne_endless, IsNamed, nameKey,
      failure_enter_eq_some_iff, Walk.one]
  · rw [Bool.not_eq_true] at hsuite
    by_cases hname : hasKey m.entries "name" = true
    · simp [hsuite, hname, Walk.failure_after_eq_some_iff, readName_ne_endless, Walk.one]
    · rw [Bool.not_eq_true] at hname
      simp [hsuite, hname, Walk.stop, violation]

theorem items_nameStep (h : x.IsNamedIn root) :
    (nameStep root x).items = (x.name? root).toList := by
  obtain ⟨m, hm, ⟨name, hn⟩, -⟩ := h
  rw [nameStep_of_some hm, Item.name?, hm, Option.map_some]
  unfold namesOfEntry nameOfSuite nameOf
  unfold nameKey at hn
  split_ifs at hn ⊢ with hsuite hname
  · rw [readName_eq_ok_iff.mpr hn, nameIn_eq hn, Walk.after_ok, Walk.items_append_of_none rfl,
      items_enter]
    rfl
  · rw [readName_eq_ok_iff.mpr hn, nameIn_eq hn]
    rfl
  · exact absurd hn.hasKey hname

/-! ### The step over tests -/

/-- The step over tests passes the item as that mapping. -/
def Item.TestPasses (x : Item) (m : Mapping) : Prop :=
  IsTagged m.entries "tags" ∧ IsTagged m.entries "required_tags" ∧ IsNamed m.entries ∧
    (hasKey m.entries "suite" = true → ¬ x.IsSpent ∧ testsOf m.entries ≠ .malformed)

/-- The step over tests passes the item. -/
def Item.IsTestedIn (root : Mapping) (x : Item) : Prop :=
  ∃ m, root.of? x.content = some m ∧ x.TestPasses m

/-- The first of tags, required tags and name that cannot be read cannot be written either. -/
def TestUnwritable (root : Mapping) (es : Entries) : Prop :=
  TagsUnwritable root es "tags" ∨
  (IsTagged es "tags" ∧ (TagsUnwritable root es "required_tags" ∨
    (IsTagged es "required_tags" ∧ NameUnwritable es (nameKey es))))

/-- Something of the item cannot be written. -/
def Item.TestUnwritableIn (root : Mapping) (x : Item) : Prop :=
  ∃ m, root.of? x.content = some m ∧ hasKey m.entries (nameKey m.entries) = true ∧
    TestUnwritable root m.entries

/-- The item is the document, a suite with tags and a name, once too often. -/
def Item.TestEndlessIn (root : Mapping) (x : Item) : Prop :=
  ∃ m, root.of? x.content = some m ∧ IsTagged m.entries "tags" ∧
    IsTagged m.entries "required_tags" ∧ IsNamed m.entries ∧ hasKey m.entries "suite" = true ∧
    x.IsSpent

/-- The test that a mapping is at the place of an item. -/
def testAt (base : Inherited) (x : Item) (m : Mapping) : Test :=
  let i := base.within x.suites x.location
  let own := tagsIn m.entries "tags"
  ⟨Candidate.make (fullTitle i.titles (nameIn m.entries "name")) own (unionTags i.tags own)
    (unionTags i.required (tagsIn m.entries "required_tags")), x.location, m.line⟩

/-- The test that is met at an item. -/
def Item.test? (root : Mapping) (base : Inherited) (x : Item) : Option Test :=
  (root.of? x.content).bind fun m =>
    if hasKey m.entries "suite" then none else some (testAt base x m)

variable {base : Inherited}

lemma testStep_of_some (h : root.of? x.content = some m) :
    testStep root base x =
      testsOfEntry root m.entries m.line (base.within x.suites x.location) fun _ =>
        x.enter m := by
  simp [testStep, h]

lemma failure_testStep_of_none (h : root.of? x.content = none) :
    (testStep root base x).failure = some (violation .entryType x.location x.listLine) := by
  simp [testStep, h, Walk.stop]

theorem failure_testStep_eq_none_iff :
    (testStep root base x).failure = none ↔ x.IsTestedIn root := by
  unfold Item.IsTestedIn
  rcases h : root.of? x.content with _ | m
  · simp [failure_testStep_of_none h]
  rw [testStep_of_some h]
  unfold testsOfEntry testOf Item.TestPasses IsTagged
  by_cases hsuite : hasKey m.entries "suite" = true
  · simp [hsuite, Walk.failure_after_eq_none_iff, readTags_eq_ok_iff, readName_eq_ok_iff, IsNamed,
      nameKey, failure_enter_eq_none_iff]
  · rw [Bool.not_eq_true] at hsuite
    by_cases hname : hasKey m.entries "name" = true
    · simp [hsuite, hname, Walk.failure_after_eq_none_iff, readTags_eq_ok_iff, readName_eq_ok_iff,
        IsNamed, nameKey, Walk.one]
    · rw [Bool.not_eq_true] at hname
      simp [hsuite, hname, Walk.stop, not_isNamed_of_nameless]

theorem failure_testStep_eq_noText_iff :
    (testStep root base x).failure = some .noText ↔ x.TestUnwritableIn root := by
  unfold Item.TestUnwritableIn
  rcases h : root.of? x.content with _ | m
  · simp [failure_testStep_of_none h, violation]
  rw [testStep_of_some h]
  unfold testsOfEntry testOf TestUnwritable IsTagged
  by_cases hsuite : hasKey m.entries "suite" = true
  · simp [hsuite, Walk.failure_after_eq_some_iff, readTags_eq_noText_iff, readTags_eq_ok_iff,
      readName_eq_noText_iff, nameKey, failure_enter_eq_some_iff]
  · rw [Bool.not_eq_true] at hsuite
    by_cases hname : hasKey m.entries "name" = true
    · simp [hsuite, hname, Walk.failure_after_eq_some_iff, readTags_eq_noText_iff,
        readTags_eq_ok_iff, readName_eq_noText_iff, nameKey, Walk.one]
    · rw [Bool.not_eq_true] at hname
      simp [hsuite, hname, nameKey, Walk.stop, violation]

theorem failure_testStep_eq_endless_iff :
    (testStep root base x).failure = some .endless ↔ x.TestEndlessIn root := by
  unfold Item.TestEndlessIn
  rcases h : root.of? x.content with _ | m
  · simp [failure_testStep_of_none h, violation]
  rw [testStep_of_some h]
  unfold testsOfEntry testOf IsTagged
  by_cases hsuite : hasKey m.entries "suite" = true
  · simp [hsuite, Walk.failure_after_eq_some_iff, readTags_ne_endless, readTags_eq_ok_iff,
      readName_ne_endless, readName_eq_ok_iff, IsNamed, nameKey, failure_enter_eq_some_iff]
  · rw [Bool.not_eq_true] at hsuite
    by_cases hname : hasKey m.entries "name" = true
    · simp [hsuite, hname, Walk.failure_after_eq_some_iff, readTags_ne_endless,
        readName_ne_endless, Walk.one]
    · rw [Bool.not_eq_true] at hname
      simp [hsuite, hname, Walk.stop, violation]

lemma failure_testStep_ne_load {l : LoadError} :
    (testStep root base x).failure ≠ some (.load l) := by
  have htags : ∀ {es key location line}, readTags root es key location line ≠ .error (.load l) :=
    readTags_ne (by simp) (by simp)
  have hread : ∀ {es key location line}, readName es key location line ≠ .error (.load l) :=
    readName_ne (by simp) (by simp)
  rcases h : root.of? x.content with _ | m
  · simp [failure_testStep_of_none h, violation]
  rw [testStep_of_some h]
  unfold testsOfEntry testOf
  by_cases hsuite : hasKey m.entries "suite" = true
  · simp [hsuite, Walk.failure_after_eq_some_iff, htags, hread, failure_enter_eq_some_iff]
  · rw [Bool.not_eq_true] at hsuite
    by_cases hname : hasKey m.entries "name" = true
    · simp [hsuite, hname, Walk.failure_after_eq_some_iff, htags, hread, Walk.one]
    · rw [Bool.not_eq_true] at hname
      simp [hsuite, hname, Walk.stop, violation]

/-- A step that fails has met no test. -/
lemma items_testStep_of_failure {e : Failure} (h : (testStep root base x).failure = some e) :
    (testStep root base x).items = [] := by
  rcases hm : root.of? x.content with _ | m
  · simp [testStep, hm, Walk.stop]
  rw [testStep_of_some hm] at h ⊢
  unfold testsOfEntry at h ⊢
  split_ifs at h ⊢ with hnone hsuite
  · rfl
  · refine Walk.items_after_of_failure (fun tags => ?_) h
    refine Walk.items_after_of_failure fun required => ?_
    exact Walk.items_after_of_failure fun name _ => items_enter
  · refine Walk.items_after_of_failure (fun tags => ?_) h
    refine Walk.items_after_of_failure fun required => ?_
    refine Walk.items_after_of_failure fun name h => ?_
    simp [Walk.one] at h

theorem items_testStep (h : x.IsTestedIn root) :
    (testStep root base x).items = (x.test? root base).toList := by
  obtain ⟨m, hm, ⟨tags, ht⟩, ⟨required, hr⟩, hnamed, -⟩ := h
  have hkey := hnamed.hasKey
  obtain ⟨name, hn⟩ := hnamed
  rw [testStep_of_some hm, Item.test?, hm, Option.bind_some]
  unfold testsOfEntry testOf testAt
  unfold nameKey at hn hkey
  simp only [readTags_eq_ok_iff.mpr ht, readTags_eq_ok_iff.mpr hr, Walk.after_ok]
  by_cases hsuite : hasKey m.entries "suite" = true
  · rw [if_pos hsuite] at hn
    simp only [hsuite, readName_eq_ok_iff.mpr hn, Walk.after_ok, items_enter,
      Bool.not_true, Bool.false_and, Bool.false_eq_true, if_false, if_true, Option.toList_none]
  · rw [if_neg hsuite] at hn hkey
    simp only [hsuite, hkey, readName_eq_ok_iff.mpr hn, Walk.after_ok, nameIn_eq hn, tagsIn_eq ht,
      tagsIn_eq hr, Bool.not_true, Bool.and_false, Bool.false_eq_true, if_false]
    rfl

end Sieve.Spec
