import Sieve.Proofs.Spec.Agreement
import Sieve.Proofs.Spec.FirstFault

/-!
Which documents are specs.

A document is a spec if every mapping at its places has the name, tags and tests that it may have,
and no two tests have the same title. Of a document that is none the extraction names the first
fault.
-/

namespace Sieve.Spec

open Document

variable {root : Mapping} {x : Item} {v : Violation}

/-- What the mappings at the places of a document have to be for it to be a spec. Of the root a
name is asked only as of a suite, and its tests may be listed without one. -/
structure Mapping.IsSpec (root : Mapping) : Prop where
  name : ∀ l m, root.MappingAt l m → (l = [] → hasKey m.entries "suite" = true) →
    ∃ name, HasName m.entries (nameKey m.entries) name
  tags : ∀ l m, root.MappingAt l m →
    TagsAllowed m.entries "tags" ∧ TagsAllowed m.entries "required_tags"
  tests : ∀ l m, root.MappingAt l m → l = [] ∨ hasKey m.entries "suite" = true →
    TestsAllowed m.entries
  titles : ∀ l l' title, root.Titled l title → root.Titled l' title → l = l'

/-- **The grammar of specs.** -/
def IsSpec (d : Document) : Prop :=
  ∃ root : Mapping, d = .map root.line root.entries ∧ root.IsSpec

section Specs

variable (hself : ¬ root.Has .whole)
include hself

/-- The mapping at a place of a document whose tests can be read. -/
lemma passes_of_mappingAt (h : root.HasTests) {l : Location} {m : Mapping} (hl : l ≠ [])
    (hm : root.MappingAt l m) : ∃ x ∈ root.items, x.TestPasses m := by
  obtain ⟨x, hx, -, hm⟩ := (mappingAt_iff_item hself hl).mp hm
  obtain ⟨m', hm', hpasses⟩ := h.items.1 x hx
  obtain rfl := Option.some.inj (hm.symm.trans hm')
  exact ⟨x, hx, hpasses⟩

/-- What is listed as a test in a document whose tests can be read. -/
lemma isEntry_of_mem (h : root.HasTests) {l : Location} {m : Mapping} (hm : root.MappingAt l m)
    (hsuite : l = [] ∨ hasKey m.entries "suite" = true) {line : Option Nat} {items : List Document}
    (htests : testsOf m.entries = .listed line items) : ∀ d ∈ items, IsEntry d := by
  intro d hd
  obtain ⟨i, hi⟩ := List.mem_iff_getElem?.mp hd
  have hcontent := contentAt?_concat hm hsuite htests hi
  obtain ⟨p, hp, rfl⟩ := (contentAt?_eq_some_iff (by simp)).mp hcontent
  have hitem := mem_items_of_placeAt? hself hp
  obtain ⟨m', hm', -, -, hname, -⟩ := h.items.1 _ hitem
  refine ⟨m'.line, m'.entries, content_eq_of_of? hself hitem hm', ?_⟩
  have hkey := hname.hasKey
  unfold nameKey at hkey
  split_ifs at hkey with hs
  · exact Or.inl hs
  · exact Or.inr hkey

/-- A document whose tests can be read is a spec. -/
theorem isSpec_of_hasTests (h : root.HasTests) : root.IsSpec := by
  refine ⟨fun l m hm hroot => ?_, fun l m hm => ?_, fun l m hm hsuite => ?_,
    fun l l' title ht ht' => ?_⟩
  · rcases eq_or_ne l [] with rfl | hl
    · obtain rfl := mappingAt_nil_iff.mp hm
      obtain ⟨name, hname⟩ := h.base.own (hroot rfl)
      exact ⟨name, by rw [nameKey, if_pos (hroot rfl)]; exact hname.hasName⟩
    · obtain ⟨x, -, -, -, hname, -⟩ := passes_of_mappingAt hself h hl hm
      exact hname.exists_hasName
  · rcases eq_or_ne l [] with rfl | hl
    · obtain rfl := mappingAt_nil_iff.mp hm
      exact ⟨h.base.tags.tagsAllowed, h.base.required.tagsAllowed⟩
    · obtain ⟨x, -, htags, hrequired, -⟩ := passes_of_mappingAt hself h hl hm
      exact ⟨htags.tagsAllowed, hrequired.tagsAllowed⟩
  · refine testsAllowed_of_testsOf ?_ fun line items => isEntry_of_mem hself h hm hsuite
    rcases eq_or_ne l [] with rfl | hl
    · obtain rfl := mappingAt_nil_iff.mp hm
      exact h.listed
    · obtain ⟨x, hx, -, -, -, htests⟩ := passes_of_mappingAt hself h hl hm
      exact (htests (hsuite.resolve_left hl)).2
  · obtain ⟨x, hx, rfl⟩ := exists_item_of_titled hself ht
    obtain ⟨y, hy, rfl⟩ := exists_item_of_titled hself ht'
    obtain ⟨t, hxt, rfl⟩ := (titled_iff hself h.base hx fun z hz _ => h.items.1 z hz).mp ht
    obtain ⟨u, hyu, htitle⟩ := (titled_iff hself h.base hy fun z hz _ => h.items.1 z hz).mp ht'
    obtain rfl := List.inj_on_of_nodup_map h.items.2 (List.mem_filterMap.mpr ⟨y, hy, hyu⟩)
      (List.mem_filterMap.mpr ⟨x, hx, hxt⟩) htitle
    rw [← location_of_test? hxt, ← location_of_test? hyu]

end Specs

/-- A spec has no faults. -/
theorem not_faultAt_of_isSpec (h : root.IsSpec) {l : Location} {rank : Nat} :
    ¬ root.FaultAt l rank v := by
  have hroot : root.MappingAt [] root := mappingAt_nil_iff.mpr rfl
  rintro (hr | ⟨hp, hcontent⟩ | ⟨hl, hm, hr⟩ | ⟨hm, ht, hlt, ht'⟩)
  · rcases hr with ⟨hsuite, hr⟩ | hr | hr | hr
    · obtain ⟨name, hname⟩ := h.name [] root hroot fun _ => hsuite
      rw [nameKey, if_pos hsuite] at hname
      exact not_nameFault hname hr
    · exact not_tagsFault (h.tags [] root hroot).1 hr
    · exact not_tagsFault (h.tags [] root hroot).2 hr
    · exact not_testsFault (h.tests [] root hroot (Or.inl rfl)) hr
  · obtain ⟨l', m, line, items, hm, hsuite, htests, hmem⟩ := exists_parent hp
    obtain ⟨eline, es, hentry, -⟩ := (h.tests l' m hm hsuite).isEntry htests _ hmem
    exact hcontent eline es hentry
  · obtain ⟨name, hname⟩ := h.name _ _ hm fun hnil => absurd hnil hl
    rcases hr with ⟨hs, hn⟩ | hr | hr | hr | ⟨hs, hr⟩
    · have hkey := hname.hasKey
      simp [nameKey, hs, hn] at hkey
    · exact not_tagsFault (h.tags _ _ hm).1 hr
    · exact not_tagsFault (h.tags _ _ hm).2 hr
    · exact not_nameFault hname hr
    · exact not_testsFault (h.tests _ _ hm (Or.inr hs)) hr
  · exact absurd (h.titles _ _ _ ht ht') (ne_of_gt hlt)

/-- What is wrong with a document that is no spec: it is no mapping, or its first fault. -/
def Blames (d : Document) (v : Violation) : Prop :=
  ((∀ line es, d ≠ .map line es) ∧ v = ⟨.document, none, none⟩) ∨
    ∃ (root : Mapping) (l : Location), d = .map root.line root.entries ∧ root.IsFirstFault l v

lemma Blames.unique {d : Document} {v' : Violation} (h : Blames d v) (h' : Blames d v') :
    v = v' := by
  rcases h with ⟨hshape, rfl⟩ | ⟨root, l, rfl, h⟩ <;>
    rcases h' with ⟨hshape', rfl⟩ | ⟨root', l', hroot, h'⟩
  · rfl
  · exact absurd hroot (hshape _ _)
  · exact absurd rfl (hshape' _ _)
  · obtain rfl := eq_of_map_eq hroot
    exact firstFault_unique h h'

lemma Blames.not_isSpec {d : Document} (h : Blames d v) : ¬ IsSpec d := by
  rintro ⟨root, rfl, hspec⟩
  rcases h with ⟨hshape, -⟩ | ⟨root', l, hroot, rank, hfault, -⟩
  · exact hshape _ _ rfl
  · obtain rfl := eq_of_map_eq hroot
    exact not_faultAt_of_isSpec hspec hfault

section Document

variable {d : Document} (hself : ¬ Has .whole d)
include hself

/-- Extraction succeeds or names a rule, where all integers can be written. -/
lemma candidates_ok_or_violation (hwritable : ¬ HasUnwritable d) :
    (∃ cs, candidates d = .ok cs) ∨ ∃ v, candidates d = .error (.violation v) := by
  have hstuck : ¬ (candidates d = .error .noText ∨ candidates d = .error .endless) := by
    cases d with
    | map line es => exact fun h => @not_testsStuck ⟨line, es⟩ hwritable hself (testsStuck_iff.mpr h)
    | _ => simp [candidates, rootOf, bind, Except.bind]
  rcases h : candidates d with (l | v | _ | _) | cs
  · exact absurd h candidates_ne_load
  · exact Or.inr ⟨v, rfl⟩
  · exact absurd (Or.inl h) hstuck
  · exact absurd (Or.inr h) hstuck
  · exact Or.inl ⟨cs, rfl⟩

/-- Where a rule is named, it is what is wrong with the document. -/
lemma blames_of_candidates (h : candidates d = .error (.violation v)) : Blames d v := by
  cases d with
  | map line es =>
    obtain ⟨l, hl⟩ := @isFirstFault_of_candidates ⟨line, es⟩ v hself h
    exact Or.inr ⟨⟨line, es⟩, l, rfl, hl⟩
  | _ =>
    cases h
    exact Or.inl ⟨by simp, rfl⟩

lemma isSpec_of_candidates {cs : List Candidate} (h : candidates d = .ok cs) : IsSpec d := by
  cases d with
  | map line es =>
    exact ⟨⟨line, es⟩, rfl, isSpec_of_hasTests hself (candidates_eq_ok_iff.mp h).1⟩
  | _ => cases h

end Document

/-- A title stands twice, and behind it an item that is no mapping. -/
def twiceSpec : String :=
  "suite: A\ntests:\n- suite: B\n  tests:\n  - name: c\n- suite: B\n  tests:\n  - name: c\n  - 7\n"

/-- A test of the name, of which there are two. -/
def twiceTest : Entries := [(.str "name", .str "c")]

def firstTwice : Entries :=
  [(.str "suite", .str "B"), (.str "tests", .seq (some 5) [.map (some 5) twiceTest])]

def secondTwice : Entries :=
  [(.str "suite", .str "B"), (.str "tests", .seq (some 8) [.map (some 8) twiceTest, .int 7])]

def twiceRoot : Mapping :=
  ⟨some 1, [(.str "suite", .str "A"),
    (.str "tests", .seq (some 3) [.map (some 3) firstTwice, .map (some 6) secondTwice])]⟩

lemma load_twiceSpec : load twiceSpec = .ok (.map twiceRoot.line twiceRoot.entries) :=
  load_of_agrees (by decide +kernel)

lemma items_twiceRoot :
    twiceRoot.items =
      [⟨.map (some 3) firstTwice, [0], some 3, [], roundLimit⟩,
        ⟨.map (some 5) twiceTest, [0, 0], some 5, [firstTwice], roundLimit⟩,
        ⟨.map (some 6) secondTwice, [1], some 3, [], roundLimit⟩,
        ⟨.map (some 8) twiceTest, [1, 0], some 8, [secondTwice], roundLimit⟩,
        ⟨.int 7, [1, 1], some 8, [secondTwice], roundLimit⟩] := by
  have houter : testsOf twiceRoot.entries =
      .listed (some 3) [.map (some 3) firstTwice, .map (some 6) secondTwice] := rfl
  have hfirst : testsOf firstTwice = .listed (some 5) [.map (some 5) twiceTest] := rfl
  have hsecond : testsOf secondTwice = .listed (some 8) [.map (some 8) twiceTest, .int 7] := rfl
  have hsuite : hasKey firstTwice "suite" = true ∧ hasKey secondTwice "suite" = true := ⟨rfl, rfl⟩
  have htest : hasKey twiceTest "suite" = false := rfl
  simp [Mapping.items, itemsBelow_of_listed houter, itemsOf, itemsFrom, hsuite,
    itemsBelow_of_listed hfirst, itemsBelow_of_listed hsecond, htest]

/-- The second of the titles. -/
def twiceViolation : Violation := ⟨.titleTaken "A B c", some [1, 0], some 8⟩

lemma candidates_twiceRoot :
    candidates (.map twiceRoot.line twiceRoot.entries) = .error (.violation twiceViolation) := by
  have hbase : twiceRoot.readBase = .ok twiceRoot.base := rfl
  rw [candidates_of_hasBase (hasBase_of_readBase hbase), Mapping.testWalk, items_twiceRoot]
  decide +kernel

end Sieve.Spec
