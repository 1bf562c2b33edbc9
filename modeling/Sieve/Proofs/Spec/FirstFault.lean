import Sieve.Proofs.Spec.Faults
import Sieve.Proofs.Spec.Inheritance

/-!
What is wrong with a document.

The walk over tests stops at the first fault of the document: the one at the least place, and of
those there the one whose check comes first. A title that is taken is at fault where it stands
again, and that check is the last at its place.
-/

namespace Sieve.Spec

open Document

variable {root : Mapping} {x : Item} {v : Violation}

/-- A test with that title stands at a place. -/
def Mapping.Titled (root : Mapping) (l : Location) (title : String) : Prop :=
  ∃ around es, root.TestAt l around es ∧ HasTitle around es title

/-- A fault at a place, with the rank of its check there: a rule that the root or an entry breaks,
an item that is no mapping, or a title that a test at a lesser place has. -/
inductive Mapping.FaultAt (root : Mapping) : Location → Nat → Violation → Prop
  | root {rank : Nat} {r : Rule} : RootFault root rank r →
      root.FaultAt [] rank ⟨r, some [], root.line⟩
  | shape {l : Location} {p : Place} : placeAt? root.entries l = some p →
      (∀ line es, p.content ≠ .map line es) →
      root.FaultAt l 0 ⟨.entryType, some l, p.listLine⟩
  | entry {l : Location} {m : Mapping} {rank : Nat} {r : Rule} : l ≠ [] → root.MappingAt l m →
      EntryFault root m.entries rank r → root.FaultAt l rank ⟨r, some l, m.line⟩
  | title {l l' : Location} {m : Mapping} {title : String} : root.MappingAt l m →
      root.Titled l title → l' < l → root.Titled l' title →
      root.FaultAt l 5 ⟨.titleTaken title, some l, m.line⟩

/-- The first fault of a document: no other one is at a lesser place, or there of a lesser rank. -/
def Mapping.IsFirstFault (root : Mapping) (l : Location) (v : Violation) : Prop :=
  ∃ rank, root.FaultAt l rank v ∧
    ∀ l' rank' v', root.FaultAt l' rank' v' → l < l' ∨ (l = l' ∧ rank ≤ rank')

/-! ### Where the extraction stops -/

/-- The walk over tests meets the tests of the items that it passes, up to the one where it
fails. -/
lemma exists_passed (hlisted : testsOf root.entries ≠ .malformed) :
    ∃ passed rest, root.items = passed ++ rest ∧ (∀ y ∈ passed, y.IsTestedIn root) ∧
      root.testWalk.items = passed.filterMap (Item.test? root root.base) ∧
      ∀ e, root.testWalk.failure = some e →
        ∃ x after, rest = x :: after ∧ (testStep root root.base x).failure = some e := by
  rcases hfail : root.testWalk.failure with _ | e
  · refine ⟨root.items, [], (List.append_nil _).symm, ?_, items_testWalk hfail, by simp⟩
    exact (failure_testWalk_eq_none_iff.mp hfail).2
  · have hcheck : (checkTests root [] : Walk Test).failure = none :=
      failure_checkTests_eq_none_iff.mpr hlisted
    rw [Mapping.testWalk, Walk.failure_append_of_none hcheck,
      Walk.failure_along_eq_some_iff] at hfail
    obtain ⟨before, x, after, hsplit, hbefore, hx⟩ := hfail
    refine ⟨before, x :: after, hsplit, fun y hy => ?_, ?_, ?_⟩
    · exact failure_testStep_eq_none_iff.mp (hbefore y hy)
    · rw [Mapping.testWalk, Walk.items_append_of_none hcheck, items_checkTests, List.nil_append,
        hsplit, items_along_testStep hbefore hx]
    · rintro e' he'
      obtain rfl := Option.some.inj he'
      exact ⟨x, after, rfl, hx⟩

/-- The title of a passed item is that of an item before it. -/
def Item.TitleTaken (root : Mapping) (before : List Item) (x : Item) (v : Violation) : Prop :=
  x.IsTestedIn root ∧ ∃ t, x.test? root root.base = some t ∧
    (∃ y ∈ before, ∃ u, y.test? root root.base = some u ∧ u.candidate.title = t.candidate.title) ∧
    v = ⟨.titleTaken t.candidate.title, some t.location, t.line⟩

/-- The walk over tests names a rule that an item breaks, behind items with different titles. -/
lemma exists_blamed_item (hlisted : testsOf root.entries ≠ .malformed)
    (h : ofTestWalk root.testWalk = .error (.violation v)) :
    ∃ before x after, root.items = before ++ x :: after ∧ root.TestsPass before ∧
      ((testStep root root.base x).failure = some (.violation v) ∨ x.TitleTaken root before v) := by
  obtain ⟨passed, rest, hsplit, hpassed, hmet, hfail⟩ := exists_passed hlisted
  unfold ofTestWalk at h
  rw [hmet] at h
  rcases htitles : checkTitles [] (passed.filterMap (Item.test? root root.base)) with _ | f <;>
    rw [htitles] at h
  · obtain ⟨x, after, rfl, hx⟩ :=
      hfail _ (Walk.toExcept_eq_error_iff.mp (map_eq_error_iff.mp h))
    exact ⟨passed, x, after, hsplit, ⟨hpassed, checkTitles_nil_eq_none_iff.mp htitles⟩, Or.inl hx⟩
  · obtain ⟨first, t, others, hsplit', hfirst, htaken, rfl⟩ := checkTitles_eq_some htitles
    obtain ⟨u, hu, htitle⟩ := htaken.resolve_left List.not_mem_nil
    cases h
    -- The tests before the one with the title come from the items before it.
    obtain ⟨before, more, rfl, rfl, hmore⟩ := List.filterMap_eq_append_iff.mp hsplit'
    obtain ⟨suites, x, after, rfl, hsuites, hx, -⟩ := List.filterMap_eq_cons_iff.mp hmore
    have hnone : suites.filterMap (Item.test? root root.base) = [] :=
      List.filterMap_eq_nil_iff.mpr hsuites
    refine ⟨before ++ suites, x, after ++ rest, by simpa using hsplit, ⟨?_, ?_⟩, Or.inr ⟨?_, ?_⟩⟩
    · exact fun y hy => hpassed y (by grind)
    · rw [List.filterMap_append, hnone, List.append_nil]
      exact checkTitles_nil_eq_none_iff.mp hfirst
    · exact hpassed x (by grind)
    · obtain ⟨y, hy, hyu⟩ := List.mem_filterMap.mp hu
      exact ⟨t, hx, ⟨y, List.mem_append_left _ hy, u, hyu, htitle⟩, rfl⟩

/-! ### The first fault -/

lemma HasTitle.unique {around : List Entries} {es : Entries} {title title' : String}
    (h : HasTitle around es title) (h' : HasTitle around es title') : title = title' := by
  obtain ⟨names, name, hnames, hname, rfl⟩ := h
  obtain ⟨names', name', hnames', hname', rfl⟩ := h'
  have hunique : Relator.RightUnique fun s n => HasName s "suite" n := fun _ _ _ => HasName.unique
  rw [List.right_unique_forall₂' hunique hnames hnames', hname.unique hname']

/-- The test of an item is at its place. -/
lemma location_of_test? {base : Inherited} {t : Test} (h : x.test? root base = some t) :
    t.location = x.location := by
  obtain ⟨m, -, h⟩ := Option.bind_eq_some_iff.mp h
  split_ifs at h
  cases h
  rfl

lemma EntryFault.rank_le {es : Entries} {rank : Nat} {r : Rule} (h : EntryFault root es rank r) :
    rank ≤ 4 := by
  cases h <;> omega

/-- At the place of the root only the root is at fault. -/
lemma rootFault_of_faultAt_nil {rank : Nat} (h : root.FaultAt [] rank v) :
    ∃ r, RootFault root rank r := by
  cases h with
  | root hr => exact ⟨_, hr⟩
  | shape hp => cases hp
  | entry hl => exact absurd rfl hl
  | title _ _ hlt => exact absurd hlt (List.not_lt_nil _)

section First

variable (hself : ¬ root.Has .whole)
include hself

/-- The title at the place of an item is that of its test, if the items up to it are passed. -/
lemma titled_iff (hbase : root.HasBase) (hx : x ∈ root.items)
    (hupto : ∀ y ∈ root.items, y.location ≤ x.location → y.IsTestedIn root) {title : String} :
    root.Titled x.location title ↔
      ∃ t, x.test? root root.base = some t ∧ t.candidate.title = title := by
  constructor
  · rintro ⟨around, es, hat, htitle⟩
    obtain ⟨y, hy, m, hm, hsuite, hlocation, rfl, rfl⟩ := (testAt_iff hself).mp hat
    obtain rfl := eq_of_location_eq hself hy hx hlocation
    refine ⟨testAt root.base y m, by simp [Item.test?, hm, hsuite], ?_⟩
    exact (shows_testAt hself hbase hx hupto hm hsuite).title.unique htitle
  · rintro ⟨t, ht, rfl⟩
    obtain ⟨m, hm, ht⟩ := Option.bind_eq_some_iff.mp ht
    split_ifs at ht with hsuite
    cases ht
    rw [Bool.not_eq_true] at hsuite
    exact ⟨_, _, (testAt_iff hself).mpr ⟨x, hx, m, hm, hsuite, rfl, rfl, rfl⟩,
      (shows_testAt hself hbase hx hupto hm hsuite).title⟩

/-- A fault at a place other than the root's is at that of an item. -/
lemma exists_item_of_faultAt {l : Location} {rank : Nat} (hl : l ≠ [])
    (h : root.FaultAt l rank v) : ∃ y ∈ root.items, y.location = l := by
  cases h with
  | root => exact absurd rfl hl
  | shape hp => exact ⟨_, mem_items_of_placeAt? hself hp, rfl⟩
  | entry _ hm | title hm =>
    obtain ⟨y, hy, hlocation, -⟩ := (mappingAt_iff_item hself hl).mp hm
    exact ⟨y, hy, hlocation⟩

/-- What is at fault at the place of an item: it is no mapping, or breaks a rule as an entry, or
has the title of a test at a lesser place. -/
lemma faultAt_item {rank : Nat} (hx : x ∈ root.items) (h : root.FaultAt x.location rank v) :
    root.of? x.content = none ∨
      (∃ m r, root.of? x.content = some m ∧ EntryFault root m.entries rank r) ∨
      (rank = 5 ∧ ∃ title, root.Titled x.location title ∧
        ∃ l < x.location, root.Titled l title) := by
  generalize hl : x.location = l at h
  have hne := location_ne_nil hself hx
  rw [hl] at hne
  cases h with
  | root => exact absurd rfl hne
  | @shape _ p hp hcontent =>
    obtain rfl := eq_of_location_eq hself hx (mem_items_of_placeAt? hself hp) hl
    left
    rcases hm : root.of? p.content with _ | m
    · rfl
    · exact absurd (content_eq_of_of? hself hx hm) (hcontent _ _)
  | @entry _ m _ _ _ hm hr =>
    obtain ⟨y, hy, hlocation, hm⟩ := (mappingAt_iff_item hself hne).mp hm
    obtain rfl := eq_of_location_eq hself hx hy (hl.trans hlocation.symm)
    exact Or.inr (Or.inl ⟨m, _, hm, hr⟩)
  | title _ ht hlt ht' => exact Or.inr (Or.inr ⟨rfl, _, ht, _, hlt, ht'⟩)

/-- An item that is passed is at fault at most for its title. -/
lemma taken_of_faultAt {rank : Nat} (hx : x ∈ root.items) (hpasses : x.IsTestedIn root)
    (h : root.FaultAt x.location rank v) :
    rank = 5 ∧ ∃ title, root.Titled x.location title ∧ ∃ l < x.location, root.Titled l title := by
  obtain ⟨m, hm, htags, hrequired, hname, htests⟩ := hpasses
  rcases faultAt_item hself hx h with hnone | ⟨m', r, hm', hr⟩ | htaken
  · rw [hm] at hnone
    cases hnone
  · obtain rfl := Option.some.inj (hm.symm.trans hm')
    refine absurd hr (not_entryFault htags hrequired hname fun hsuite => ?_)
    exact (htests hsuite).2
  · exact htaken

lemma exists_item_of_titled {l : Location} {title : String} (h : root.Titled l title) :
    ∃ y ∈ root.items, y.location = l := by
  obtain ⟨around, es, hat, -⟩ := h
  obtain ⟨y, hy, m, -, -, hlocation, -⟩ := (testAt_iff hself).mp hat
  exact ⟨y, hy, hlocation⟩

variable {before after : List Item}

/-- The items up to one before the first that stops the walk are passed. -/
lemma passes_of_le (hsplit : root.items = before ++ x :: after) (hbefore : root.TestsPass before)
    {y z : Item} (hy : y ∈ before) (hz : z ∈ root.items) (hle : z.location ≤ y.location) :
    z.IsTestedIn root := by
  have hlt := ((mem_before_iff hself hsplit).mp hy).2
  exact hbefore.1 z ((mem_before_iff hself hsplit).mpr ⟨hz, lt_of_le_of_lt hle hlt⟩)

/-- Nothing is at fault before the item that stops the walk. -/
lemma not_faultAt_of_lt (hbase : root.HasBase) (hlisted : testsOf root.entries ≠ .malformed)
    (hsplit : root.items = before ++ x :: after) (hbefore : root.TestsPass before) {l : Location}
    (hlt : l < x.location) {rank : Nat} : ¬ root.FaultAt l rank v := by
  intro h
  rcases eq_or_ne l [] with rfl | hl
  · obtain ⟨r, hr⟩ := rootFault_of_faultAt_nil h
    exact hlisted (testsFault_iff.mp (hbase.testsFault hr).2).1
  · obtain ⟨y, hy, rfl⟩ := exists_item_of_faultAt hself hl h
    have hyb := (mem_before_iff hself hsplit).mpr ⟨hy, hlt⟩
    obtain ⟨-, title, hty, l', hlt', htz⟩ := taken_of_faultAt hself hy (hbefore.1 y hyb) h
    obtain ⟨z, hz, rfl⟩ := exists_item_of_titled hself htz
    have hzb := (mem_before_iff hself hsplit).mpr ⟨hz, lt_trans hlt' hlt⟩
    -- Two items before it would have the same title.
    obtain ⟨t, ht, rfl⟩ :=
      (titled_iff hself hbase hy fun w => passes_of_le hself hsplit hbefore hyb).mp hty
    obtain ⟨u, hu, htitle⟩ :=
      (titled_iff hself hbase hz fun w => passes_of_le hself hsplit hbefore hzb).mp htz
    obtain rfl := List.inj_on_of_nodup_map hbefore.2 (List.mem_filterMap.mpr ⟨z, hzb, hu⟩)
      (List.mem_filterMap.mpr ⟨y, hyb, ht⟩) htitle
    rw [← location_of_test? hu, ← location_of_test? ht] at hlt'
    exact lt_irrefl _ hlt'

/-- A step that fails at an item names what is at fault there first. -/
lemma isFirstFault_of_testStep (hx : x ∈ root.items)
    (hstep : (testStep root root.base x).failure = some (.violation v)) :
    ∃ rank, root.FaultAt x.location rank v ∧
      ∀ rank' v', root.FaultAt x.location rank' v' → rank ≤ rank' := by
  rcases hm : root.of? x.content with _ | m
  · rw [failure_testStep_of_none hm] at hstep
    obtain ⟨p, hp, hxp⟩ := (mem_items_iff hself).mp hx
    have hline : x.listLine = p.listLine := by rw [hxp]
    have hcontent : x.content = p.content := by rw [hxp]
    cases hstep
    refine ⟨0, hline ▸ .shape hp ?_, fun _ _ _ => Nat.zero_le _⟩
    intro line es hes
    rw [hcontent, hes] at hm
    cases hm
  · have hat : root.MappingAt x.location m :=
      (mappingAt_iff_item hself (location_ne_nil hself hx)).mpr ⟨x, hx, rfl, hm⟩
    rw [testStep_of_some hm, enter_of_not_isSpent (not_isSpent hself hx)] at hstep
    obtain ⟨rank, r, ⟨hr, hleast⟩, rfl⟩ := isFirst_of_testsOfEntry hstep
    refine ⟨rank, .entry (location_ne_nil hself hx) hat hr, fun rank' v' h => ?_⟩
    rcases faultAt_item hself hx h with hnone | ⟨m', r', hm', hr'⟩ | ⟨rfl, -⟩
    · rw [hm] at hnone
      cases hnone
    · obtain rfl := Option.some.inj (hm.symm.trans hm')
      exact hleast rank' r' hr'
    · exact le_trans hr.rank_le (by omega)

/-- A title that is taken is at fault where it stands again. -/
lemma faultAt_of_titleTaken (hbase : root.HasBase) (hsplit : root.items = before ++ x :: after)
    (hbefore : root.TestsPass before) (h : x.TitleTaken root before v) :
    root.FaultAt x.location 5 v := by
  obtain ⟨hpasses, t, ht, ⟨y, hy, u, hu, htitle⟩, rfl⟩ := h
  obtain ⟨hyitem, hlt⟩ := (mem_before_iff hself hsplit).mp hy
  have hx : x ∈ root.items := by simp [hsplit]
  have hupto : ∀ z ∈ root.items, z.location ≤ x.location → z.IsTestedIn root := by
    intro z hz hle
    rcases lt_or_eq_of_le hle with hzlt | heq
    · exact hbefore.1 z ((mem_before_iff hself hsplit).mpr ⟨hz, hzlt⟩)
    · exact eq_of_location_eq hself hz hx heq ▸ hpasses
  have hyupto := fun z => @passes_of_le _ _ hself _ _ hsplit hbefore y z hy
  obtain ⟨m, hm, ht'⟩ := Option.bind_eq_some_iff.mp ht
  have hat : root.MappingAt x.location m :=
    (mappingAt_iff_item hself (location_ne_nil hself hx)).mpr ⟨x, hx, rfl, hm⟩
  have hline : t.line = m.line := by
    split_ifs at ht'
    cases ht'
    rfl
  rw [location_of_test? ht, hline]
  refine .title hat ((titled_iff hself hbase hx hupto).mpr ⟨t, ht, rfl⟩) hlt ?_
  exact (titled_iff hself hbase hyitem hyupto).mpr ⟨u, hu, htitle⟩

/-- **The first fault** of a document is the one that its extraction names. -/
theorem isFirstFault_of_candidates
    (h : candidates (.map root.line root.entries) = .error (.violation v)) :
    ∃ l, root.IsFirstFault l v := by
  -- A fault of the root comes before those below it, so only those of the root matter.
  have hroot : ∀ {rank r}, IsFirst (RootFault root) rank r →
      root.IsFirstFault [] ⟨r, some [], root.line⟩ := by
    intro rank r hr
    refine ⟨rank, .root hr.1, fun l' rank' v' h' => ?_⟩
    rcases l' with _ | ⟨i, l'⟩
    · obtain ⟨r', hr'⟩ := rootFault_of_faultAt_nil h'
      exact Or.inr ⟨rfl, hr.2 rank' r' hr'⟩
    · exact Or.inl (List.nil_lt_cons i l')
  rw [candidates_eq, bind_eq_error_iff] at h
  rcases h with h | ⟨i, hi, h⟩
  · obtain ⟨rank, r, hr, rfl⟩ := isFirst_of_readBase h
    exact ⟨[], hroot hr⟩
  have hbase := hasBase_of_readBase hi
  have h : candidates (.map root.line root.entries) = .error (.violation v) := by
    rw [candidates_eq, hi]
    exact h
  rw [candidates_of_hasBase hbase] at h
  by_cases hlisted : testsOf root.entries = .malformed
  · have hwalk : root.testWalk = .stop (violation .testsType [] root.line) := by
      rw [Mapping.testWalk, checkTests, hlisted]
      rfl
    rw [hwalk] at h
    cases h
    have hfault : RootFault root 3 .testsType := .tests (testsFault_iff.mpr ⟨hlisted, rfl⟩)
    exact ⟨[], hroot ⟨hfault, fun _ _ hr => (hbase.testsFault hr).1.ge⟩⟩
  · obtain ⟨before, x, after, hsplit, hbefore, hx⟩ := exists_blamed_item hlisted h
    have hitem : x ∈ root.items := by simp [hsplit]
    obtain ⟨rank, hfault, hleast⟩ : ∃ rank, root.FaultAt x.location rank v ∧
        ∀ rank' v', root.FaultAt x.location rank' v' → rank ≤ rank' := by
      rcases hx with hstep | htaken
      · exact isFirstFault_of_testStep hself hitem hstep
      · refine ⟨5, faultAt_of_titleTaken hself hbase hsplit hbefore htaken, fun rank' v' h' => ?_⟩
        exact (taken_of_faultAt hself hitem htaken.1 h').1.ge
    refine ⟨x.location, rank, hfault, fun l' rank' v' h' => ?_⟩
    rcases lt_trichotomy x.location l' with hlt | rfl | hlt
    · exact Or.inl hlt
    · exact Or.inr ⟨rfl, hleast rank' v' h'⟩
    · exact absurd h' (not_faultAt_of_lt hself hbase hlisted hsplit hbefore hlt)

end First

/-- A fault is at a place of the document, and names it. -/
lemma location_of_faultAt {l : Location} {rank : Nat} (h : root.FaultAt l rank v) :
    v.location = some l ∧ ∃ d, root.contentAt? l = some d := by
  cases h with
  | root => exact ⟨rfl, _, rfl⟩
  | shape hp =>
    have hne : l ≠ [] := by
      rintro rfl
      cases hp
    exact ⟨rfl, _, (contentAt?_eq_some_iff hne).mpr ⟨_, hp, rfl⟩⟩
  | entry _ hm => exact ⟨rfl, _, hm⟩
  | title hm => exact ⟨rfl, _, hm⟩

/-! ### One fault at a time -/

lemma mappingAt_unique {l : Location} {m m' : Mapping} (h : root.MappingAt l m)
    (h' : root.MappingAt l m') : m = m' :=
  eq_of_map_eq (Option.some.inj (h.symm.trans h'))

/-- What stands at a place is a mapping or none. -/
lemma not_mappingAt_of_shape {l : Location} {p : Place} {m : Mapping}
    (hp : placeAt? root.entries l = some p) (hshape : ∀ line es, p.content ≠ .map line es) :
    ¬ root.MappingAt l m := by
  intro hm
  have hne : l ≠ [] := by
    rintro rfl
    cases hp
  obtain ⟨q, hq, hcontent⟩ := (contentAt?_eq_some_iff hne).mp hm
  obtain rfl := Option.some.inj (hp.symm.trans hq)
  exact hshape _ _ hcontent

lemma titled_unique {l : Location} {title title' : String} (h : root.Titled l title)
    (h' : root.Titled l title') : title = title' := by
  obtain ⟨around, es, ⟨p, line, hp, hes, -, rfl⟩, htitle⟩ := h
  obtain ⟨around', es', ⟨p', line', hp', hes', -, rfl⟩, htitle'⟩ := h'
  obtain rfl := Option.some.inj (hp.symm.trans hp')
  obtain ⟨-, rfl⟩ := map.inj (hes.symm.trans hes')
  exact htitle.unique htitle'

/-- At a place at most one fault has a rank. -/
lemma faultAt_unique {l : Location} {rank : Nat} {v' : Violation} (h : root.FaultAt l rank v)
    (h' : root.FaultAt l rank v') : v = v' := by
  rcases h with hr | ⟨hp, hshape⟩ | ⟨hl, hm, hr⟩ | ⟨hm, ht, hlt, -⟩
  · rcases h' with hr' | ⟨hp', -⟩ | ⟨hl', -, -⟩ | ⟨-, -, hlt', -⟩
    · rw [hr.unique hr']
    · cases hp'
    · exact absurd rfl hl'
    · exact absurd hlt' (List.not_lt_nil _)
  · rcases h' with - | ⟨hp', -⟩ | ⟨-, hm', -⟩ | ⟨hm', -⟩
    · cases hp
    · rw [Option.some.inj (hp.symm.trans hp')]
    · exact absurd hm' (not_mappingAt_of_shape hp hshape)
  · rcases h' with - | ⟨hp', hshape'⟩ | ⟨-, hm', hr'⟩ | ⟨hm', -⟩
    · exact absurd rfl hl
    · exact absurd hm (not_mappingAt_of_shape hp' hshape')
    · obtain rfl := mappingAt_unique hm hm'
      rw [hr.unique hr']
    · have := hr.rank_le
      omega
  · rcases h' with - | - | ⟨-, -, hr'⟩ | ⟨hm', ht', -⟩
    · exact absurd hlt (List.not_lt_nil _)
    · have := hr'.rank_le
      omega
    · rw [mappingAt_unique hm hm', titled_unique ht ht']

/-- Of a document at most one violation is its first fault. -/
lemma firstFault_unique {l l' : Location} {v' : Violation} (h : root.IsFirstFault l v)
    (h' : root.IsFirstFault l' v') : v = v' := by
  obtain ⟨rank, hfault, hleast⟩ := h
  obtain ⟨rank', hfault', hleast'⟩ := h'
  rcases hleast _ _ _ hfault' with hlt | ⟨rfl, hle⟩
  · rcases hleast' _ _ _ hfault with hlt' | ⟨rfl, -⟩
    · exact absurd hlt (lt_asymm hlt')
    · exact absurd hlt (lt_irrefl _)
  · rcases hleast' _ _ _ hfault with hlt' | ⟨-, hle'⟩
    · exact absurd hlt' (lt_irrefl _)
    · obtain rfl := le_antisymm hle hle'
      exact faultAt_unique hfault hfault'

end Sieve.Spec
