import Sieve.Proofs.Spec.Extraction
import Sieve.Proofs.Spec.Agreement
import Sieve.Proofs.Spec.Grammar
import Sieve.Proofs.Spec.Places
import Sieve.Selection.Extractor

/-!
What tests inherit.

A test has the names of the mappings around it in front of its own, and their tags with its own.
What the walk hands down on its way is this view: the candidates of a document are the tests at its
places, in their order, and nothing passes from one suite to another beside it.
-/

namespace Sieve.Spec

open Document

variable {root : Mapping} {around : List Entries} {es : Entries} {x : Item} {m : Mapping}

/-- A title: the names of the suites around from the outside in, then the test's own. Of the
mappings around, the root alone may have no name. -/
def HasTitle (around : List Entries) (es : Entries) (title : String) : Prop :=
  ∃ names name, List.Forall₂ (fun s n => HasName s "suite" n)
      (around.filter fun s => hasKey s "suite") names ∧
    HasName es "name" name ∧ title = " ".intercalate (names ++ [name])

/-- A candidate shows a test with the mappings around it: its title, and three sets of tags. -/
structure Shows (around : List Entries) (es : Entries) (c : Candidate) : Prop where
  title : HasTitle around es c.title
  nodup : c.tags.Nodup ∧ c.effectiveTags.Nodup ∧ c.requiredTags.Nodup
  tags : ∀ t, t ∈ c.tags ↔ HasTag es "tags" t
  effective : ∀ t, t ∈ c.effectiveTags ↔ ∃ s ∈ around ++ [es], HasTag s "tags" t
  required : ∀ t, t ∈ c.requiredTags ↔ ∃ s ∈ around ++ [es], HasTag s "required_tags" t

/-- A test stands at a place: a mapping that is no suite, inside the root and other suites. -/
def Mapping.TestAt (root : Mapping) (location : Location) (around : List Entries)
    (es : Entries) : Prop :=
  ∃ p line, placeAt? root.entries location = some p ∧ p.content = .map line es ∧
    hasKey es "suite" = false ∧ around = root.entries :: p.suites

/-! ### What is handed down -/

lemma mem_foldl_unionTags {key : String} {suites : List Entries} {acc : List String} {t : String} :
    t ∈ suites.foldl (fun acc s => unionTags acc (tagsIn s key)) acc ↔
      t ∈ acc ∨ ∃ s ∈ suites, t ∈ tagsIn s key := by
  induction suites generalizing acc with
  | nil => simp
  | cons s suites ih => simp [ih, or_assoc]

lemma tags_within (i : Inherited) (suites : List Entries) (location : Location) :
    (i.within suites location).tags =
      suites.foldl (fun acc s => unionTags acc (tagsIn s "tags")) i.tags := by
  rw [Inherited.within]
  exact (List.foldl_hom Inherited.tags (by intros; rfl)).symm

lemma required_within (i : Inherited) (suites : List Entries) (location : Location) :
    (i.within suites location).required =
      suites.foldl (fun acc s => unionTags acc (tagsIn s "required_tags")) i.required := by
  rw [Inherited.within]
  exact (List.foldl_hom Inherited.required (by intros; rfl)).symm

/-- The names and tags of a mapping can be read. -/
structure IsReadable (es : Entries) : Prop where
  name : hasKey es "suite" = true → HasName es "suite" (nameIn es "suite")
  tags : ∀ t, t ∈ tagsIn es "tags" ↔ HasTag es "tags" t
  required : ∀ t, t ∈ tagsIn es "required_tags" ↔ HasTag es "required_tags" t

lemma IsTagged.mem_iff_hasTag {key : String} (h : IsTagged es key) (t : String) :
    t ∈ tagsIn es key ↔ HasTag es key t := by
  obtain ⟨tags, htags⟩ := h
  rw [tagsIn_eq htags]
  exact htags.mem_iff_hasTag

lemma Mapping.HasBase.isReadable (h : root.HasBase) : IsReadable root.entries := by
  refine ⟨fun hsuite => ?_, h.tags.mem_iff_hasTag, h.required.mem_iff_hasTag⟩
  obtain ⟨name, hname⟩ := h.own hsuite
  rw [nameIn_eq hname]
  exact hname.hasName

lemma Item.TestPasses.isReadable (h : x.TestPasses m) : IsReadable m.entries := by
  obtain ⟨htags, hrequired, ⟨name, hname⟩, -⟩ := h
  refine ⟨fun hsuite => ?_, htags.mem_iff_hasTag, hrequired.mem_iff_hasTag⟩
  rw [nameKey, if_pos hsuite] at hname
  rw [nameIn_eq hname]
  exact hname.hasName

/-- The names handed down are those of the mappings around. -/
lemma titles_eq_map (hsuites : ∀ s ∈ x.suites, hasKey s "suite" = true) :
    (root.base.within x.suites x.location).titles =
      ((root.entries :: x.suites).filter fun s => hasKey s "suite").map fun s =>
        nameIn s "suite" := by
  rw [titles_within, List.filter_cons, List.filter_eq_self.mpr hsuites, Mapping.base]
  split_ifs <;> rfl

lemma exists_mem_around_iff {P : Entries → Prop} {r e : Entries} {l : List Entries} :
    (∃ s, s ∈ r :: l ++ [e] ∧ P s) ↔ P r ∨ (∃ s ∈ l, P s) ∨ P e := by
  simp [or_and_right, exists_or]

section Places

variable (hself : ¬ root.Has .whole)
include hself

/-- The suites around an item, if the items at lesser places are passed. -/
lemma isReadable_of_mem_suites (hx : x ∈ root.items)
    (hbefore : ∀ y ∈ root.items, y.location < x.location → y.IsTestedIn root) {s : Entries}
    (hs : s ∈ x.suites) : hasKey s "suite" = true ∧ IsReadable s := by
  obtain ⟨p, hp, hxp⟩ := (mem_items_iff hself).mp hx
  rw [hxp] at hs
  obtain ⟨l, hlt, q, hq, hqs⟩ := exists_lt_of_mem_suites hp hs
  obtain ⟨line, hcontent, hsuite⟩ := suiteOf?_eq_some_iff.mp hqs
  obtain ⟨m, hm, hpasses⟩ := hbefore _ (mem_items_of_placeAt? hself hq) hlt
  rw [hcontent] at hm
  cases hm
  exact ⟨hsuite, hpasses.isReadable⟩

/-- **The candidate of an item** shows what the item inherits, if the items up to it are passed. -/
theorem shows_testAt (hbase : root.HasBase) (hx : x ∈ root.items)
    (hupto : ∀ y ∈ root.items, y.location ≤ x.location → y.IsTestedIn root)
    (hm : root.of? x.content = some m) (hsuite : hasKey m.entries "suite" = false) :
    Shows (root.entries :: x.suites) m.entries (testAt root.base x m).candidate := by
  obtain ⟨m', hm', hpasses⟩ := hupto x hx le_rfl
  obtain rfl : m = m' := Option.some.inj (hm.symm.trans hm')
  have haround := fun s (hs : s ∈ x.suites) =>
    isReadable_of_mem_suites hself hx (fun y hy hlt => hupto y hy (le_of_lt hlt)) hs
  have hread : ∀ s ∈ root.entries :: x.suites ++ [m.entries], IsReadable s := by
    intro s hs
    rcases List.mem_append.mp hs with (_ | ⟨_, hs⟩) | hs
    · exact hbase.isReadable
    · exact (haround s hs).2
    · exact List.mem_singleton.mp hs ▸ hpasses.isReadable
  refine ⟨?_, ⟨nodup_distinct _, nodup_unionTags _ _, nodup_distinct _⟩, fun t => ?_, fun t => ?_,
    fun t => ?_⟩
  · obtain ⟨-, -, ⟨name, hname⟩, -⟩ := hpasses
    rw [nameKey, hsuite, if_neg Bool.false_ne_true] at hname
    refine ⟨((root.entries :: x.suites).filter fun s => hasKey s "suite").map fun s =>
      nameIn s "suite", name, List.forall₂_map_right_iff.mpr (List.forall₂_same.mpr ?_),
      hname.hasName, ?_⟩
    · intro s hs
      obtain ⟨hs, hkey⟩ := List.mem_filter.mp hs
      exact (hread s (List.mem_append_left _ hs)).name hkey
    · rw [← titles_eq_map fun s hs => (haround s hs).1, ← nameIn_eq hname]
      rfl
  · exact mem_distinct.trans ((hread m.entries (by simp)).tags t)
  · have hall := exists_congr fun s =>
      and_congr_right fun hs : s ∈ root.entries :: x.suites ++ [m.entries] => (hread s hs).tags t
    rw [← hall, exists_mem_around_iff, testAt, Candidate.make]
    simp only [mem_unionTags, tags_within, mem_foldl_unionTags, Mapping.base, or_assoc]
    -- The test's own tags are there twice: as its own, and as those that apply.
    exact or_iff_right_of_imp fun hown => Or.inr (Or.inr hown)
  · have hall := exists_congr fun s =>
      and_congr_right fun hs : s ∈ root.entries :: x.suites ++ [m.entries] => (hread s hs).required t
    rw [← hall, exists_mem_around_iff, testAt, Candidate.make]
    simp only [mem_distinct, mem_unionTags, required_within, mem_foldl_unionTags, Mapping.base,
      or_assoc]

/-! ### Tests and their places -/

/-- The tests at the places of a document are its items that are no suites. -/
lemma testAt_iff {location : Location} :
    root.TestAt location around es ↔
      ∃ x ∈ root.items, ∃ m, root.of? x.content = some m ∧ hasKey m.entries "suite" = false ∧
        x.location = location ∧ around = root.entries :: x.suites ∧ es = m.entries := by
  constructor
  · rintro ⟨p, line, hp, hcontent, hsuite, rfl⟩
    refine ⟨_, mem_items_of_placeAt? hself hp, ⟨line, es⟩, ?_, hsuite, rfl, rfl, rfl⟩
    simp [hcontent, Mapping.of?]
  · rintro ⟨x, hx, m, hm, hsuite, rfl, rfl, rfl⟩
    have hcontent := content_eq_of_of? hself hx hm
    obtain ⟨p, hp, hxp⟩ := (mem_items_iff hself).mp hx
    rw [hxp] at hcontent ⊢
    exact ⟨p, m.line, hp, hcontent, hsuite, rfl⟩

/-- The tests of a document are in the order of their places. -/
lemma pairwise_tests : (root.tests.map (·.location)).Pairwise (· < ·) := by
  rw [List.pairwise_map, Mapping.tests, List.pairwise_filterMap]
  refine (inOrder_items hself).imp fun {x y} hlt t ht u hu => ?_
  have hlocation : ∀ {x : Item} {t}, x.test? root root.base = some t → t.location = x.location := by
    intro x t ht
    obtain ⟨m, -, ht⟩ := Option.bind_eq_some_iff.mp ht
    split_ifs at ht
    cases ht
    rfl
  rwa [hlocation ht, hlocation hu]

/-- The tests of a document are those at its places. -/
lemma mem_places_iff {location : Location} :
    location ∈ root.tests.map (·.location) ↔ ∃ around es, root.TestAt location around es := by
  simp only [List.mem_map, mem_tests_iff, testAt_iff hself]
  constructor
  · rintro ⟨t, ⟨x, hx, m, hm, hsuite, rfl⟩, rfl⟩
    exact ⟨_, _, x, hx, m, hm, hsuite, rfl, rfl, rfl⟩
  · rintro ⟨_, _, x, hx, m, hm, hsuite, rfl, rfl, rfl⟩
    exact ⟨_, ⟨x, hx, m, hm, hsuite, rfl⟩, rfl⟩

/-- The candidates of a document show its tests, one for one. -/
lemma forall₂_shows (h : root.HasTests) :
    List.Forall₂ (fun location c => ∃ around es, root.TestAt location around es ∧ Shows around es c)
      (root.tests.map (·.location)) (root.tests.map (·.candidate)) := by
  rw [List.forall₂_map_left_iff, List.forall₂_map_right_iff, List.forall₂_same]
  intro t ht
  obtain ⟨x, hx, m, hm, hsuite, rfl⟩ := mem_tests_iff.mp ht
  refine ⟨root.entries :: x.suites, m.entries, ?_, ?_⟩
  · exact (testAt_iff hself).mpr ⟨x, hx, m, hm, hsuite, rfl, rfl, rfl⟩
  · exact shows_testAt hself h.base hx (fun y hy _ => h.items.1 y hy) hm hsuite

end Places

/-- **What a document lists.** The candidates of a document that is no part of itself are the tests
at its places, each once and in their order, with all they inherit and no more. Their titles differ,
and the table of tags has an entry for each, in the same order. -/
theorem candidates_inherit {d : Document} (hself : ¬ Has .whole d) {cs : List Candidate}
    (h : candidates d = .ok cs) :
    ∃ root : Mapping, d = .map root.line root.entries ∧
      (∃ places : List Location, places.Pairwise (· < ·) ∧
        (∀ l, l ∈ places ↔ ∃ around es, root.TestAt l around es) ∧
        List.Forall₂ (fun l c => ∃ around es, root.TestAt l around es ∧ Shows around es c)
          places cs) ∧
      (cs.map (·.title)).Nodup ∧
      ∀ text, load text = .ok d → candidatesOfText text = .ok cs ∧
        (Selection.Extractors.specs.tags text).value =
          .ok (cs.map fun c => (c.title, ⟨c.effectiveTags, c.requiredTags⟩)) := by
  obtain ⟨root, rfl⟩ : ∃ root : Mapping, d = .map root.line root.entries := by
    cases d with
    | map line es => exact ⟨⟨line, es⟩, rfl⟩
    | _ => cases h
  obtain ⟨htests, rfl⟩ := candidates_eq_ok_iff.mp h
  have htitles : ((root.tests.map (·.candidate)).map (·.title)).Nodup := by
    rw [List.map_map]
    exact htests.items.2
  refine ⟨root, rfl, ⟨root.tests.map (·.location), pairwise_tests hself,
    fun l => mem_places_iff hself, forall₂_shows hself htests⟩, htitles, fun text hload => ?_⟩
  have htext : candidatesOfText text = .ok (root.tests.map (·.candidate)) := by
    simp only [candidatesOfText, extract, hload, h]
  refine ⟨htext, ?_⟩
  simp only [Selection.Extractors.specs, Selection.candidatesOf, htext]
  change Except.ok (tagsByTitle (root.tests.map (·.candidate))) = _
  rw [tagsByTitle_eq_map htitles]
  rfl

/-! ### A suite in a suite -/

/-- A test with a tag of its own, in a suite with tags. -/
def innerTest : Entries := [(.str "name", .str " c "), (.str "tags", .str " v ")]

def innerSuite : Entries :=
  [(.str "suite", .str "B"), (.str "tags", .seq (some 5) [.str "u"]),
    (.str "required_tags", .str "r"), (.str "tests", .seq (some 8) [.map (some 8) innerTest])]

/-- The tests of the root: the suite, and a test beside it whose name is a number. -/
def outerTests : List Document := [.map (some 4) innerSuite, .map (some 9) [(.str "name", .int 2)]]

def nestedRoot : Mapping :=
  ⟨some 1, [(.str "suite", .str "A"), (.str "tags", .str "t"),
    (.str "tests", .seq (some 4) outerTests)]⟩

lemma items_nestedRoot :
    nestedRoot.items =
      [⟨.map (some 4) innerSuite, [0], some 4, [], roundLimit⟩,
        ⟨.map (some 8) innerTest, [0, 0], some 8, [innerSuite], roundLimit⟩,
        ⟨.map (some 9) [(.str "name", .int 2)], [1], some 4, [], roundLimit⟩] := by
  have houter : testsOf nestedRoot.entries = .listed (some 4) outerTests := rfl
  have hinner : testsOf innerSuite = .listed (some 8) [.map (some 8) innerTest] := rfl
  have hsuite : hasKey innerSuite "suite" = true := rfl
  have htest : hasKey innerTest "suite" = false := rfl
  have hbeside : hasKey [(.str "name", .int 2)] "suite" = false := rfl
  simp [Mapping.items, itemsBelow_of_listed houter, outerTests, itemsOf, itemsFrom, hsuite,
    itemsBelow_of_listed hinner, htest, hbeside]

lemma not_has_whole_nestedRoot : ¬ nestedRoot.Has .whole := by
  simp [Mapping.Has, nestedRoot, outerTests, innerSuite, innerTest, has_map_iff, has_seq_iff,
    has_str_iff, has_int_iff]

def nestedCandidates : List Candidate :=
  [⟨"A B c", ["v"], ["v", "t", "u"], ["r"]⟩, ⟨"A 2", [], ["t"], []⟩]

lemma candidates_nestedRoot :
    candidates (.map nestedRoot.line nestedRoot.entries) = .ok nestedCandidates := by
  have hbase : nestedRoot.readBase = .ok nestedRoot.base := rfl
  rw [candidates_of_hasBase (hasBase_of_readBase hbase), Mapping.testWalk, items_nestedRoot]
  exact eq_ok_of_toOption (by decide +kernel)

/-- The tests of the root, one in a suite and one beside it, with what they inherit. -/
theorem nested_inherit :
    ¬ nestedRoot.Has .whole ∧
    candidates (.map nestedRoot.line nestedRoot.entries) = .ok nestedCandidates ∧
    ∃ places : List Location, places.Pairwise (· < ·) ∧
      (∀ l, l ∈ places ↔ ∃ around es, nestedRoot.TestAt l around es) ∧
      List.Forall₂ (fun l c => ∃ around es, nestedRoot.TestAt l around es ∧ Shows around es c)
        places nestedCandidates := by
  refine ⟨not_has_whole_nestedRoot, candidates_nestedRoot, ?_⟩
  obtain ⟨root, hroot, hplaces, -⟩ :=
    candidates_inherit not_has_whole_nestedRoot candidates_nestedRoot
  obtain rfl := eq_of_map_eq hroot
  exact hplaces

end Sieve.Spec
