import Sieve.Proofs.Spec.Agreement
import Sieve.Proofs.Spec.FirstFault
import Sieve.Proofs.Spec.Reentry

/-!
The two walks over a document agree.

Both go along the same items. Where the walk over tests succeeds, so does the walk over names: they
list the tests at the same places, and the names in front of the title of a test are names of
suites. Where only the walk over names does, some tags are at fault, or a title that stands twice.
-/

namespace Sieve.Spec

open Document

variable {root m : Mapping} {l : Location} {around : List Entries} {x : Item} {ns : Names}
  {e : Failure}

/-! ### Suites and tests at places -/

/-- A mapping stands at a place below the root, with the mappings around it. The document, where it
is an item of itself, stands for its root. -/
def Mapping.EntryAt (root : Mapping) (l : Location) (around : List Entries) (m : Mapping) : Prop :=
  ∃ p, placeAt? root.entries l = some p ∧ root.of? p.content = some m ∧
    around = root.entries :: p.suites

/-- A suite stands at a place; at that of the root it is the root. -/
def Mapping.SuiteAt (root : Mapping) (l : Location) (m : Mapping) : Prop :=
  hasKey m.entries "suite" = true ∧ ((l = [] ∧ m = root) ∨ ∃ around, root.EntryAt l around m)

/-- A test stands at a place: an entry that is no suite. -/
def Mapping.LeafAt (root : Mapping) (l : Location) (around : List Entries) (m : Mapping) : Prop :=
  root.EntryAt l around m ∧ hasKey m.entries "suite" = false

/-- The names are those of the suites, each once and in the order of their places. -/
def Mapping.ListsSuites (root : Mapping) (names : List String) : Prop :=
  ∃ places : List Location, places.Pairwise (· < ·) ∧
    (∀ l, l ∈ places ↔ ∃ m, root.SuiteAt l m) ∧
    List.Forall₂ (fun l name => ∃ m, root.SuiteAt l m ∧ HasName m.entries "suite" name)
      places names

/-- The title is the name behind those of the suites around the place, which are names of suites. -/
def Mapping.TitledAt (root : Mapping) (ns : Names) (l : Location) (name title : String) : Prop :=
  ∃ around m enclosing, root.LeafAt l around m ∧ HasName m.entries "name" name ∧
    List.Forall₂ (fun s n => HasName s "suite" n)
      (around.filter fun s => hasKey s "suite") enclosing ∧
    title = " ".intercalate (enclosing ++ [name]) ∧ ∀ n ∈ enclosing, n ∈ ns.suites

/-- Names and candidates list the tests, each once and in the order of their places. -/
def Mapping.ListsTests (root : Mapping) (ns : Names) (cs : List Candidate) : Prop :=
  ∃ places : List Location, places.Pairwise (· < ·) ∧
    (∀ l, l ∈ places ↔ ∃ around m, root.LeafAt l around m) ∧
    places.length = cs.length ∧ ns.tests.length = cs.length ∧
    ∀ (i : Nat) (l : Location) (name : String) (c : Candidate), places[i]? = some l →
      ns.tests[i]? = some name → cs[i]? = some c → root.TitledAt ns l name c.title

/-! ### Items that are mappings -/

/-- The items that are mappings, with these. -/
def Mapping.entered (root : Mapping) : List (Item × Mapping) :=
  root.items.filterMap fun x => (root.of? x.content).map (x, ·)

def Mapping.suiteItems (root : Mapping) : List (Item × Mapping) :=
  root.entered.filter fun e => hasKey e.2.entries "suite"

def Mapping.testItems (root : Mapping) : List (Item × Mapping) :=
  root.entered.filter fun e => !hasKey e.2.entries "suite"

lemma mem_entered_iff : (x, m) ∈ root.entered ↔ x ∈ root.items ∧ root.of? x.content = some m := by
  simp [Mapping.entered]

/-- The names that are met at items are those of the mappings that they are. -/
lemma ofList_filterMap_name? (root : Mapping) (l : List Item) :
    let entered := l.filterMap fun x => (root.of? x.content).map (x, ·)
    Names.ofList (l.filterMap (Item.name? root)) =
      ⟨(entered.filter fun e => hasKey e.2.entries "suite").map fun e =>
          nameIn e.2.entries "suite",
        (entered.filter fun e => !hasKey e.2.entries "suite").map fun e =>
          nameIn e.2.entries "name"⟩ := by
  induction l with
  | nil => rfl
  | cons x l ih =>
    obtain ⟨hsuites, htests⟩ := Names.mk.inj ih
    rcases hm : root.of? x.content with _ | m
    · simpa [Item.name?, hm] using ih
    · rcases hsuite : hasKey m.entries "suite" with _ | _
      · simpa [Names.ofList, Item.name?, hm, nameOf, hsuite] using ⟨hsuites, htests⟩
      · simpa [Names.ofList, Item.name?, hm, nameOf, hsuite] using ⟨hsuites, htests⟩

lemma tests_allNames :
    root.allNames.tests = root.testItems.map fun e => nameIn e.2.entries "name" := by
  have hitems := congrArg Names.tests (ofList_filterMap_name? root root.items)
  unfold Mapping.allNames Mapping.ownNames
  split_ifs <;> exact hitems

lemma suites_allNames :
    root.allNames.suites =
      (if hasKey root.entries "suite" then [nameIn root.entries "suite"] else []) ++
        root.suiteItems.map fun e => nameIn e.2.entries "suite" := by
  have hitems := congrArg Names.suites (ofList_filterMap_name? root root.items)
  unfold Mapping.allNames Mapping.ownNames
  split_ifs
  · exact congrArg (nameIn root.entries "suite" :: ·) hitems
  · exact hitems

lemma tests_eq_map : root.tests = root.testItems.map fun e => testAt root.base e.1 e.2 := by
  unfold Mapping.tests Mapping.testItems Mapping.entered
  induction root.items with
  | nil => rfl
  | cons x l ih =>
    rcases hm : root.of? x.content with _ | m
    · simpa [Item.test?, hm] using ih
    · rcases hsuite : hasKey m.entries "suite" with _ | _
      · simpa [Item.test?, hm, hsuite] using ih
      · simpa [Item.test?, hm, hsuite] using ih

/-! ### What the walks list -/

lemma Mapping.HasNames.hasName (h : root.HasNames) (he : (x, m) ∈ root.entered) :
    HasName m.entries (nameKey m.entries) (nameIn m.entries (nameKey m.entries)) := by
  obtain ⟨hx, hm⟩ := mem_entered_iff.mp he
  obtain ⟨m', hm', ⟨name, hname⟩, -⟩ := h.items x hx
  obtain rfl : m = m' := Option.some.inj (hm.symm.trans hm')
  rw [nameIn_eq hname]
  exact hname.hasName

/-- The suites around an item have names, which are names of suites. -/
lemma Mapping.HasNames.of_mem_around (h : root.HasNames) (hx : x ∈ root.items) {s : Entries}
    (hs : s ∈ (root.entries :: x.suites).filter fun s => hasKey s "suite") :
    HasName s "suite" (nameIn s "suite") ∧ nameIn s "suite" ∈ root.allNames.suites := by
  obtain ⟨hmem, hsuite⟩ := List.mem_filter.mp hs
  rw [suites_allNames, List.mem_append]
  rcases List.mem_cons.mp hmem with rfl | hmem
  · obtain ⟨name, hname⟩ := h.own hsuite
    rw [if_pos hsuite, nameIn_eq hname]
    exact ⟨hname.hasName, Or.inl (List.mem_singleton_self _)⟩
  · obtain ⟨y, hy, -, m, hm, rfl⟩ := isSuite_of_mem_suites root hx hmem
    have he : (y, m) ∈ root.entered := mem_entered_iff.mpr ⟨hy, hm⟩
    have hname := h.hasName he
    rw [nameKey, if_pos hsuite] at hname
    exact ⟨hname, Or.inr (List.mem_map.mpr ⟨(y, m), List.mem_filter.mpr ⟨he, hsuite⟩, rfl⟩)⟩

lemma mem_testItems_iff : (x, m) ∈ root.testItems ↔
    x ∈ root.items ∧ root.of? x.content = some m ∧ hasKey m.entries "suite" = false := by
  simp [Mapping.testItems, mem_entered_iff, and_assoc]

lemma Mapping.HasNames.hasName_test (h : root.HasNames) (he : (x, m) ∈ root.testItems) :
    HasName m.entries "name" (nameIn m.entries "name") := by
  obtain ⟨hx, hm, hsuite⟩ := mem_testItems_iff.mp he
  have hname := h.hasName (mem_entered_iff.mpr ⟨hx, hm⟩)
  rwa [nameKey, hsuite, if_neg Bool.false_ne_true] at hname

/-- The names of the suites around an item. -/
def Item.enclosing (root : Mapping) (x : Item) : List String :=
  ((root.entries :: x.suites).filter fun s => hasKey s "suite").map fun s => nameIn s "suite"

lemma Mapping.HasNames.forall₂_enclosing (h : root.HasNames) (hx : x ∈ root.items) :
    List.Forall₂ (fun s n => HasName s "suite" n)
      ((root.entries :: x.suites).filter fun s => hasKey s "suite") (x.enclosing root) := by
  rw [Item.enclosing, List.forall₂_map_right_iff, List.forall₂_same]
  exact fun s hs => (h.of_mem_around hx hs).1

lemma title_eq_enclosing (hx : x ∈ root.items) :
    (testAt root.base x m).candidate.title =
      " ".intercalate (x.enclosing root ++ [nameIn m.entries "name"]) := by
  have hsuites : ∀ s ∈ x.suites, hasKey s "suite" = true := by
    intro s hs
    obtain ⟨y, -, hkey, -⟩ := isSuite_of_mem_suites root hx hs
    exact hkey
  rw [title_testAt, Item.path, titles_eq_map hsuites, Item.enclosing]

section Once

variable (honce : ¬ root.Reenters root.entries)
include honce

/-- The entries of a document are its items that are mappings. -/
lemma entryAt_iff : root.EntryAt l around m ↔
    ∃ x, (x, m) ∈ root.entered ∧ x.location = l ∧ around = root.entries :: x.suites := by
  constructor
  · rintro ⟨p, hp, hm, rfl⟩
    exact ⟨⟨p.content, l, p.listLine, p.suites, roundLimit⟩,
      mem_entered_iff.mpr ⟨(mem_items_iff_of_once honce).mpr ⟨p, hp, rfl⟩, hm⟩, rfl, rfl⟩
  · rintro ⟨x, he, rfl, rfl⟩
    obtain ⟨hx, hm⟩ := mem_entered_iff.mp he
    obtain ⟨p, hp, hxp⟩ := (mem_items_iff_of_once honce).mp hx
    rw [hxp] at hm ⊢
    exact ⟨p, hp, hm, rfl⟩

lemma pairwise_entered : (root.entered.map fun e => e.1.location).Pairwise (· < ·) := by
  rw [List.pairwise_map, Mapping.entered, List.pairwise_filterMap]
  refine (inOrder_items_of_once honce).imp fun {x y} hlt e he e' he' => ?_
  obtain ⟨m, -, rfl⟩ := Option.map_eq_some_iff.mp he
  obtain ⟨m', -, rfl⟩ := Option.map_eq_some_iff.mp he'
  exact hlt

/-- Some of the entries of a document are in the order of their places. -/
lemma pairwise_filter_entered (q : Item × Mapping → Bool) :
    ((root.entered.filter q).map fun e => e.1.location).Pairwise (· < ·) :=
  (pairwise_entered honce).sublist (List.filter_sublist.map _)

/-- **The names of suites** of a document are listed in the order of their places. -/
theorem listsSuites_allNames (h : root.HasNames) : root.ListsSuites root.allNames.suites := by
  refine ⟨(if hasKey root.entries "suite" then [[]] else []) ++
    root.suiteItems.map fun e => e.1.location, ?_, fun l => ?_, ?_⟩
  · refine List.pairwise_append.mpr ⟨by split_ifs <;> simp, pairwise_filter_entered honce _, ?_⟩
    -- The root comes first, for no position leads to it.
    intro l hl l' hl'
    obtain rfl : l = [] := by
      split_ifs at hl
      · exact List.mem_singleton.mp hl
      · exact absurd hl List.not_mem_nil
    obtain ⟨⟨x, m⟩, he, rfl⟩ := List.mem_map.mp hl'
    obtain ⟨hx, -⟩ := mem_entered_iff.mp (List.mem_filter.mp he).1
    obtain ⟨p, hp, -⟩ := (mem_items_iff_of_once honce).mp hx
    obtain ⟨i, rest, hloc⟩ : ∃ i rest, x.location = i :: rest :=
      List.exists_cons_of_ne_nil (by rintro hnil; rw [hnil] at hp; cases hp)
    rw [hloc]
    exact List.nil_lt_cons i rest
  · rw [List.mem_append]
    constructor
    · rintro (hl | hl)
      · split_ifs at hl with hsuite
        · exact ⟨root, hsuite, Or.inl ⟨List.mem_singleton.mp hl, rfl⟩⟩
        · exact absurd hl List.not_mem_nil
      · obtain ⟨⟨x, m⟩, he, rfl⟩ := List.mem_map.mp hl
        obtain ⟨he, hsuite⟩ := List.mem_filter.mp he
        exact ⟨m, hsuite, Or.inr ⟨_, (entryAt_iff honce).mpr ⟨x, he, rfl, rfl⟩⟩⟩
    · rintro ⟨m, hsuite, ⟨rfl, rfl⟩ | ⟨around, hentry⟩⟩
      · exact Or.inl (by rw [if_pos hsuite]; exact List.mem_singleton_self _)
      · obtain ⟨x, he, rfl, -⟩ := (entryAt_iff honce).mp hentry
        exact Or.inr (List.mem_map.mpr ⟨(x, m), List.mem_filter.mpr ⟨he, hsuite⟩, rfl⟩)
  · rw [suites_allNames]
    refine List.rel_append ?_ ?_
    · split_ifs with hsuite
      · obtain ⟨name, hname⟩ := h.own hsuite
        rw [nameIn_eq hname]
        exact .cons ⟨root, ⟨hsuite, Or.inl ⟨rfl, rfl⟩⟩, hname.hasName⟩ .nil
      · exact .nil
    · rw [List.forall₂_map_left_iff, List.forall₂_map_right_iff, List.forall₂_same]
      rintro ⟨x, m⟩ he
      obtain ⟨he, hsuite⟩ := List.mem_filter.mp he
      have hname := h.hasName he
      rw [nameKey, if_pos hsuite] at hname
      exact ⟨m, ⟨hsuite, Or.inr ⟨_, (entryAt_iff honce).mpr ⟨x, he, rfl, rfl⟩⟩⟩, hname⟩

/-- The title of a test whose document has names. -/
lemma titledAt_of_hasNames (h : root.HasNames) (he : (x, m) ∈ root.testItems) :
    root.TitledAt root.allNames x.location (nameIn m.entries "name")
      (testAt root.base x m).candidate.title := by
  obtain ⟨hx, hm, hsuite⟩ := mem_testItems_iff.mp he
  refine ⟨root.entries :: x.suites, m, x.enclosing root,
    ⟨(entryAt_iff honce).mpr ⟨x, mem_entered_iff.mpr ⟨hx, hm⟩, rfl, rfl⟩, hsuite⟩,
    h.hasName_test he, h.forall₂_enclosing hx, title_eq_enclosing hx, fun n hn => ?_⟩
  obtain ⟨s, hs, rfl⟩ := List.mem_map.mp hn
  exact (h.of_mem_around hx hs).2

/-- **The tests of a document** are listed by its names and its candidates alike. -/
theorem listsTests_allNames (h : root.HasNames) :
    root.ListsTests root.allNames (root.tests.map (·.candidate)) := by
  rw [tests_eq_map, List.map_map]
  refine ⟨root.testItems.map fun e => e.1.location, pairwise_filter_entered honce _, fun l => ?_,
    by simp, by simp [tests_allNames], fun i l name c hl hname hc => ?_⟩
  · constructor
    · intro hl
      obtain ⟨⟨x, m⟩, he, rfl⟩ := List.mem_map.mp hl
      obtain ⟨he, hleaf⟩ := List.mem_filter.mp he
      exact ⟨_, m, (entryAt_iff honce).mpr ⟨x, he, rfl, rfl⟩, by simpa using hleaf⟩
    · rintro ⟨around, m, hentry, hsuite⟩
      obtain ⟨x, he, rfl, -⟩ := (entryAt_iff honce).mp hentry
      exact List.mem_map.mpr ⟨(x, m), List.mem_filter.mpr ⟨he, by simp [hsuite]⟩, rfl⟩
  · rw [tests_allNames] at hname
    rw [List.getElem?_map] at hl hname hc
    obtain ⟨⟨x, m⟩, he, rfl⟩ := Option.map_eq_some_iff.mp hl
    rw [he, Option.map_some] at hname hc
    cases hname
    cases hc
    exact titledAt_of_hasNames honce h (List.mem_of_getElem? he)

end Once

/-! ### What the walk over tests checks besides -/

/-- The tags of a mapping are at fault, or a title that a test at a lesser place has. -/
inductive Mapping.IsBlamed (root : Mapping) : Failure → Prop
  | tags {l : Location} {m : Mapping} {key : String} {e : Failure} :
      ((l = [] ∧ m = root) ∨ ∃ around, root.EntryAt l around m) →
      (key = "tags" ∨ key = "required_tags") →
      readTags root m.entries key l m.line = .error e → root.IsBlamed e
  | title {l l' : Location} {around around' : List Entries} {m m' : Mapping} {title : String} :
      root.LeafAt l around m → HasTitle around m.entries title → l' < l →
      root.LeafAt l' around' m' → HasTitle around' m'.entries title →
      root.IsBlamed (violation (.titleTaken title) l m.line)

lemma readTags_of_readBase (hnamed : root.IsNamed) (h : root.readBase = .error e) :
    ∃ key, (key = "tags" ∨ key = "required_tags") ∧
      readTags root root.entries key [] root.line = .error e := by
  unfold Mapping.readBase at h
  rcases bind_eq_error_iff.mp h with h | ⟨titles, -, h⟩
  · split_ifs at h with hsuite
    obtain ⟨name, hname⟩ := hnamed hsuite
    rw [map_eq_error_iff, readName_eq_ok_iff.mpr hname] at h
    cases h
  · rcases bind_eq_error_iff.mp h with h | ⟨tags, -, h⟩
    · exact ⟨_, Or.inl rfl, h⟩
    · rcases bind_eq_error_iff.mp h with h | ⟨required, -, h⟩
      · exact ⟨_, Or.inr rfl, h⟩
      · cases h

/-- The step over tests fails only for tags at an item that the step over names passes. -/
lemma readTags_of_testStep (hnamed : x.IsNamedIn root)
    (h : (testStep root root.base x).failure = some e) :
    ∃ m key, root.of? x.content = some m ∧ (key = "tags" ∨ key = "required_tags") ∧
      readTags root m.entries key x.location m.line = .error e := by
  obtain ⟨m, hm, ⟨name, hname⟩, henter⟩ := hnamed
  have hkey := hname.hasKey
  rw [testStep_of_some hm] at h
  unfold testsOfEntry testOf at h
  unfold nameKey at hname hkey
  rw [if_neg (by split_ifs at hkey with hsuite <;> simp [hkey])] at h
  rcases Walk.failure_after_eq_some_iff.mp h with htags | ⟨tags, -, h⟩
  · exact ⟨m, _, hm, Or.inl rfl, htags⟩
  rcases Walk.failure_after_eq_some_iff.mp h with hrequired | ⟨required, -, h⟩
  · exact ⟨m, _, hm, Or.inr rfl, hrequired⟩
  -- What comes after the tags is passed, as by the step over names.
  exfalso
  dsimp only at h
  split_ifs at h hname with hsuite
  · rw [readName_eq_ok_iff.mpr hname, Walk.after_ok] at h
    have hpasses : (x.enter m : Walk Test).failure = none :=
      failure_enter_eq_none_iff.mpr (henter hsuite)
    rw [hpasses] at h
    cases h
  · rw [readName_eq_ok_iff.mpr hname, Walk.after_ok] at h
    cases h

/-- The title of the test of an item is one that a test at its place has. -/
lemma hasTitle_of_test? (honce : ¬ root.Reenters root.entries) (h : root.HasNames)
    (hx : x ∈ root.items) {t : Test} (ht : x.test? root root.base = some t) :
    ∃ around m, root.LeafAt t.location around m ∧ HasTitle around m.entries t.candidate.title ∧
      t.line = m.line := by
  obtain ⟨m, hm, ht⟩ := Option.bind_eq_some_iff.mp ht
  split_ifs at ht with hsuite
  cases ht
  rw [Bool.not_eq_true] at hsuite
  have hleaf : root.LeafAt x.location (root.entries :: x.suites) m :=
    ⟨(entryAt_iff honce).mpr ⟨x, mem_entered_iff.mpr ⟨hx, hm⟩, rfl, rfl⟩, hsuite⟩
  exact ⟨_, m, hleaf, ⟨x.enclosing root, nameIn m.entries "name", h.forall₂_enclosing hx,
    h.hasName_test (mem_testItems_iff.mpr ⟨hx, hm, hsuite⟩), title_eq_enclosing hx⟩, rfl⟩

/-- A title that is taken is blamed. -/
lemma isBlamed_of_titleTaken (honce : ¬ root.Reenters root.entries) (h : root.HasNames)
    {before after : List Item} (hsplit : root.items = before ++ x :: after) {v : Violation}
    (htaken : x.TitleTaken root before v) : root.IsBlamed (.violation v) := by
  obtain ⟨-, t, ht, ⟨y, hy, u, hu, htitle⟩, rfl⟩ := htaken
  obtain ⟨around, m, hleaf, htest, hline⟩ := hasTitle_of_test? honce h (by simp [hsplit]) ht
  obtain ⟨around', m', hleaf', htest', -⟩ := hasTitle_of_test? honce h (by simp [hsplit, hy]) hu
  have hlt : u.location < t.location := by
    rw [location_of_test? hu, location_of_test? ht]
    have horder := inOrder_items_of_once honce
    rw [InOrder, hsplit, List.pairwise_append] at horder
    exact horder.2.2 y hy x List.mem_cons_self
  rw [hline]
  exact .title hleaf htest hlt hleaf' (htitle ▸ htest')

/-- **What is at fault** where the names of a document can be read and its tests cannot. -/
theorem isBlamed_of_hasNames (h : root.HasNames)
    (hfail : candidates (.map root.line root.entries) = .error e) : root.IsBlamed e := by
  have honce : ¬ root.Reenters root.entries := fun hagain => not_hasNames_of_reenters hagain h
  by_cases hbase : root.HasBase
  · rw [candidates_of_hasBase hbase] at hfail
    have hblamed : ∀ x ∈ root.items, (testStep root root.base x).failure = some e →
        root.IsBlamed e := by
      intro x hx hstep
      obtain ⟨m, key, hm, hkey, htags⟩ := readTags_of_testStep (h.items x hx) hstep
      have he : (x, m) ∈ root.entered := mem_entered_iff.mpr ⟨hx, hm⟩
      exact .tags (Or.inr ⟨_, (entryAt_iff honce).mpr ⟨x, he, rfl, rfl⟩⟩) hkey htags
    by_cases hrule : ∃ v, .violation v = e
    · obtain ⟨v, rfl⟩ := hrule
      obtain ⟨before, x, after, hsplit, -, hstep | htaken⟩ := exists_blamed_item h.listed hfail
      · exact hblamed x (by simp [hsplit]) hstep
      · exact isBlamed_of_titleTaken honce h hsplit htaken
    · have hrule : ∀ v, .violation v ≠ e := fun v hv => hrule ⟨v, hv⟩
      obtain ⟨-, before, x, after, hsplit, -, hstep⟩ := (failure_testWalk_eq_some_iff hrule).mp
        ((ofTestWalk_eq_error_iff hrule).mp hfail)
      exact hblamed x (by simp [hsplit]) hstep
  · rw [candidates_eq, bind_eq_error_iff] at hfail
    rcases hfail with hfail | ⟨i, hi, -⟩
    · obtain ⟨key, hkey, htags⟩ := readTags_of_readBase h.own hfail
      exact .tags (Or.inl ⟨rfl, rfl⟩) hkey htags
    · exact absurd (hasBase_of_readBase hi) hbase

/-! ### Texts -/

variable {text : String}

lemma namesOfText_eq_ok_iff : namesOfText text = .ok ns ↔
    ∃ root : Mapping, load text = .ok (.map root.line root.entries) ∧ root.HasNames ∧
      ns = root.allNames := by
  rw [namesOfText_eq_iff (by simp) (by simp)]
  simp only [names_eq_ok_iff, Mapping.allNames]

/-- **The walks over a text agree.** If its tests are extracted, so are its names: those of its
suites, and one for each test, which ends its title behind the names of the suites around it. Where
its names cannot be extracted, its tests cannot either. Where its names alone can, tags or a title
are to blame. -/
theorem walks_agree (text : String) :
    (∀ cs, candidatesOfText text = .ok cs →
      ∃ (root : Mapping) (ns : Names), load text = .ok (.map root.line root.entries) ∧
        namesOfText text = .ok ns ∧ root.ListsSuites ns.suites ∧ root.ListsTests ns cs) ∧
    (∀ e, namesOfText text = .error e → ∃ e', candidatesOfText text = .error e') ∧
    ∀ ns e, namesOfText text = .ok ns → candidatesOfText text = .error e →
      ∃ root : Mapping, load text = .ok (.map root.line root.entries) ∧
        root.ListsSuites ns.suites ∧ root.IsBlamed e := by
  have honce : ∀ {root : Mapping}, root.HasNames → ¬ root.Reenters root.entries :=
    fun h hagain => not_hasNames_of_reenters hagain h
  have hlisted : ∀ cs, candidatesOfText text = .ok cs →
      ∃ (root : Mapping) (ns : Names), load text = .ok (.map root.line root.entries) ∧
        namesOfText text = .ok ns ∧ root.ListsSuites ns.suites ∧ root.ListsTests ns cs := by
    intro cs hcs
    obtain ⟨root, hload, htests, rfl⟩ := candidatesOfText_eq_ok_iff.mp hcs
    have hnames := htests.hasNames
    exact ⟨root, root.allNames, hload, namesOfText_eq_ok_iff.mpr ⟨root, hload, hnames, rfl⟩,
      listsSuites_allNames (honce hnames) hnames, listsTests_allNames (honce hnames) hnames⟩
  refine ⟨hlisted, fun e he => ?_, fun ns e hns he => ?_⟩
  · rcases hcs : candidatesOfText text with e' | cs
    · exact ⟨e', rfl⟩
    · obtain ⟨root, ns, -, hns, -⟩ := hlisted cs hcs
      rw [hns] at he
      cases he
  · obtain ⟨root, hload, hnames, rfl⟩ := namesOfText_eq_ok_iff.mp hns
    have hfail : candidates (.map root.line root.entries) = .error e := by
      simpa only [candidatesOfText, extract, hload] using he
    exact ⟨root, hload, listsSuites_allNames (honce hnames) hnames,
      isBlamed_of_hasNames hnames hfail⟩

/-- A text of the document with a suite in a suite. -/
def nestedSpec : String :=
  "suite: A\ntags: t\ntests:\n- suite: B\n  tags: [u]\n  required_tags: r\n  tests:\n" ++
    "  - \x7bname: \" c \", tags: \" v \"\x7d\n- name: 2\n"

/-- The names of its suites and tests are those in the titles of its tests. -/
theorem nested_walks_agree :
    candidatesOfText nestedSpec = .ok nestedCandidates ∧
    ∃ ns, namesOfText nestedSpec = .ok ns ∧ nestedRoot.ListsSuites ns.suites ∧
      nestedRoot.ListsTests ns nestedCandidates := by
  have hload : load nestedSpec = .ok (.map nestedRoot.line nestedRoot.entries) :=
    load_of_agrees (by decide +kernel)
  have htests : candidatesOfText nestedSpec = .ok nestedCandidates := by
    simp only [candidatesOfText, extract, hload, candidates_nestedRoot]
  obtain ⟨root, ns, hroot, hns, hsuites, hlisted⟩ := (walks_agree nestedSpec).1 _ htests
  obtain rfl := eq_of_map_eq (Except.ok.inj (hload.symm.trans hroot))
  exact ⟨htests, ns, hns, hsuites, hlisted⟩

end Sieve.Spec
