import Sieve.Proofs.Spec.Names
import Mathlib.Data.List.Lex

/-!
The places of a document.

A place is a list of positions: each leads to a test of the mapping reached so far, which has to be
a suite to lead further. The items of a document that is not entered again are what stands at its
places, each once, and a walk meets them in the order of their positions.
-/

namespace Sieve.Spec

open Document

/-- What stands at a place. -/
structure Place where
  content : Document
  /-- The line on which the list of tests begins that holds it. -/
  listLine : Option Nat
  /-- The suites around it from the outside in, without the mapping from which the place is
  reached. -/
  suites : List Entries

/-- The test at a position, with the line on which the list of tests begins. -/
def listedAt? (es : Entries) (i : Nat) : Option (Option Nat × Document) :=
  match testsOf es with
  | .listed line items => items[i]?.map (line, ·)
  | _ => none

/-- The entries of a suite. -/
def suiteOf? : Document → Option Entries
  | .map _ es => if hasKey es "suite" then some es else none
  | _ => none

/-- What stands at a place, if it leads anywhere. -/
def placeAt? (es : Entries) : Location → Option Place
  | [] => none
  | i :: rest =>
    (listedAt? es i).bind fun (line, d) =>
      if rest = [] then some ⟨d, line, []⟩
      else
        (suiteOf? d).bind fun s => (placeAt? s rest).map fun p => { p with suites := s :: p.suites }

lemma listedAt?_eq_some_iff {es : Entries} {i : Nat} {line : Option Nat} {d : Document} :
    listedAt? es i = some (line, d) ↔
      ∃ items, testsOf es = .listed line items ∧ items[i]? = some d := by
  unfold listedAt?
  split
  · rename_i tline items h
    simp only [Option.map_eq_some_iff, Prod.mk.injEq, h, Tests.listed.injEq]
    constructor
    · rintro ⟨d, hd, rfl, rfl⟩
      exact ⟨items, ⟨rfl, rfl⟩, hd⟩
    · rintro ⟨_, ⟨rfl, rfl⟩, hd⟩
      exact ⟨d, hd, rfl, rfl⟩
  · rename_i h
    simp only [reduceCtorEq, false_iff]
    rintro ⟨items, htests, -⟩
    exact h _ _ htests

lemma suiteOf?_eq_some_iff {d : Document} {s : Entries} :
    suiteOf? d = some s ↔ ∃ line, d = .map line s ∧ hasKey s "suite" = true := by
  cases d with
  | map line es =>
    by_cases h : hasKey es "suite" = true
    · simp only [suiteOf?, h, if_true, Option.some.injEq, map.injEq]
      constructor
      · rintro rfl
        exact ⟨line, ⟨rfl, rfl⟩, h⟩
      · rintro ⟨_, ⟨-, rfl⟩, -⟩
        rfl
    · simp only [suiteOf?, h, if_false, Bool.false_eq_true, reduceCtorEq, map.injEq, false_iff]
      rintro ⟨_, ⟨-, rfl⟩, hs⟩
      exact h hs
  | _ => simp [suiteOf?]

/-- The first position leads to a test, which is what stands at the place or a suite around it. -/
lemma placeAt?_cons_iff {es : Entries} {i : Nat} {rest : Location} {p : Place} :
    placeAt? es (i :: rest) = some p ↔
      ∃ line d, listedAt? es i = some (line, d) ∧
        ((rest = [] ∧ p = ⟨d, line, []⟩) ∨
          ∃ s q, suiteOf? d = some s ∧ placeAt? s rest = some q ∧
            p = { q with suites := s :: q.suites }) := by
  rw [placeAt?, Option.bind_eq_some_iff, Prod.exists]
  refine exists_congr fun line => exists_congr fun d => and_congr_right fun _ => ?_
  rcases rest with _ | ⟨j, rest⟩
  · simp [placeAt?, eq_comm]
  · simp only [reduceCtorEq, if_false, false_and, false_or, Option.bind_eq_some_iff,
      Option.map_eq_some_iff, exists_and_left, @eq_comm _ p]

/-- The tests of a suite at a place stand at the places behind it. -/
lemma placeAt?_concat {es s : Entries} {l : Location} {p : Place} {i : Nat} {line : Option Nat}
    {d : Document} (hp : placeAt? es l = some p) (hs : suiteOf? p.content = some s)
    (hd : listedAt? s i = some (line, d)) :
    placeAt? es (l ++ [i]) = some ⟨d, line, p.suites ++ [s]⟩ := by
  induction l generalizing es p with
  | nil => cases hp
  | cons j rest ih =>
    obtain ⟨jline, e, he, ⟨rfl, rfl⟩ | ⟨t, q, ht, hq, rfl⟩⟩ := placeAt?_cons_iff.mp hp
    · have hlast : placeAt? s [i] = some ⟨d, line, []⟩ :=
        placeAt?_cons_iff.mpr ⟨line, d, hd, Or.inl ⟨rfl, rfl⟩⟩
      exact placeAt?_cons_iff.mpr ⟨jline, e, he, Or.inr ⟨s, _, hs, hlast, rfl⟩⟩
    · exact placeAt?_cons_iff.mpr ⟨jline, e, he, Or.inr ⟨t, _, ht, ih hq hs, rfl⟩⟩

/-- The last position of a place leads to a test of the mapping or of a suite at a place. -/
lemma exists_suite_of_placeAt? {es : Entries} {l : Location} {p : Place}
    (hp : placeAt? es l = some p) :
    ∃ l' i s, l = l' ++ [i] ∧ listedAt? s i = some (p.listLine, p.content) ∧
      ((l' = [] ∧ s = es) ∨ ∃ q, placeAt? es l' = some q ∧ suiteOf? q.content = some s) := by
  induction l generalizing es p with
  | nil => cases hp
  | cons i rest ih =>
    obtain ⟨line, d, hd, ⟨rfl, rfl⟩ | ⟨t, q, ht, hq, rfl⟩⟩ := placeAt?_cons_iff.mp hp
    · exact ⟨[], i, es, rfl, hd, Or.inl ⟨rfl, rfl⟩⟩
    · obtain ⟨l', j, s, rfl, hs, ⟨rfl, rfl⟩ | ⟨r, hr, hrs⟩⟩ := ih hq
      · exact ⟨[i], j, s, rfl, hs,
          Or.inr ⟨_, placeAt?_cons_iff.mpr ⟨line, d, hd, Or.inl ⟨rfl, rfl⟩⟩, ht⟩⟩
      · exact ⟨i :: l', j, s, rfl, hs,
          Or.inr ⟨_, placeAt?_cons_iff.mpr ⟨line, d, hd, Or.inr ⟨t, r, ht, hr, rfl⟩⟩, hrs⟩⟩

/-- The suites around a place stand at lesser ones. -/
lemma exists_lt_of_mem_suites {es s : Entries} {l : Location} {p : Place}
    (hp : placeAt? es l = some p) (hs : s ∈ p.suites) :
    ∃ l' < l, ∃ q, placeAt? es l' = some q ∧ suiteOf? q.content = some s := by
  induction l generalizing es p with
  | nil => cases hp
  | cons i rest ih =>
    obtain ⟨line, d, hd, ⟨rfl, rfl⟩ | ⟨t, q, ht, hq, rfl⟩⟩ := placeAt?_cons_iff.mp hp
    · exact absurd hs List.not_mem_nil
    · rcases List.mem_cons.mp hs with rfl | hs
      · refine ⟨[i], ?_, _, placeAt?_cons_iff.mpr ⟨line, d, hd, Or.inl ⟨rfl, rfl⟩⟩, ht⟩
        rcases rest with _ | ⟨j, rest⟩
        · cases hq
        · exact List.cons_lt_cons_self.mpr (List.nil_lt_cons j rest)
      · obtain ⟨l', hlt, r, hr, hrs⟩ := ih hq hs
        exact ⟨i :: l', List.cons_lt_cons_self.mpr hlt, _,
          placeAt?_cons_iff.mpr ⟨line, d, hd, Or.inr ⟨t, r, ht, hr, rfl⟩⟩, hrs⟩

/-- What stands at a place is in the mapping. -/
lemma has_of_placeAt? {es : Entries} {line : Option Nat} {l : Location} {p : Place}
    (hp : placeAt? es l = some p) : Has p.content (.map line es) := by
  induction l generalizing es line p with
  | nil => cases hp
  | cons i rest ih =>
    obtain ⟨jline, d, hd, hcases⟩ := placeAt?_cons_iff.mp hp
    obtain ⟨items, htests, hi⟩ := listedAt?_eq_some_iff.mp hd
    have hlisted : Has d (.map line es) := has_of_testsOf htests (List.mem_of_getElem? hi)
    rcases hcases with ⟨-, rfl⟩ | ⟨s, q, hs, hq, rfl⟩
    · exact hlisted
    · obtain ⟨sline, rfl, -⟩ := suiteOf?_eq_some_iff.mp hs
      exact (ih hq).trans hlisted

/-! ### Documents that are entered again -/

/-- Below a mapping the document stands as one of its own suites. -/
def Mapping.Reenters (root : Mapping) (es : Entries) : Prop :=
  hasKey root.entries "suite" = true ∧ ∃ l p, placeAt? es l = some p ∧ p.content = .whole

/-- A test is neither the document as a suite nor a suite below which that stands. -/
structure Mapping.IsClosed (root : Mapping) (d : Document) : Prop where
  self : d = .whole → hasKey root.entries "suite" = false
  below : ∀ s, suiteOf? d = some s → ¬ root.Reenters s

/-- A document that is no part of itself is not entered again. -/
lemma not_reenters_of_not_has {root : Mapping} {es : Entries} {line : Option Nat}
    (hself : ¬ Has .whole (.map line es)) : ¬ root.Reenters es := by
  rintro ⟨-, l, p, hp, hwhole⟩
  exact hself (hwhole ▸ has_of_placeAt? hp)

/-- The tests of a mapping below which the document is not entered again. -/
lemma isClosed_of_listedAt? {root : Mapping} {es : Entries} {i : Nat} {line : Option Nat}
    {d : Document} (honce : ¬ root.Reenters es) (hd : listedAt? es i = some (line, d)) :
    root.IsClosed d := by
  refine ⟨fun hwhole => ?_, fun s hs => ?_⟩
  · rw [← Bool.not_eq_true]
    intro hsuite
    exact honce ⟨hsuite, [i], _, placeAt?_cons_iff.mpr ⟨line, d, hd, Or.inl ⟨rfl, rfl⟩⟩, hwhole⟩
  · rintro ⟨hsuite, l, q, hq, hwhole⟩
    exact honce ⟨hsuite, i :: l, _, placeAt?_cons_iff.mpr ⟨line, d, hd, Or.inr ⟨s, q, hs, hq, rfl⟩⟩,
      hwhole⟩

/-! ### Items and places -/

variable (root : Mapping)

/-- The items of a list of tests come from its positions. -/
lemma mem_itemsOf_iff {rounds : Nat} {items : List Document} {tline : Option Nat}
    {suites : List Entries} {location : Location} {index : Nat} {x : Item} :
    x ∈ itemsOf root rounds items tline suites location index ↔
      ∃ i d, items[i]? = some d ∧
        x ∈ itemsFrom root rounds d tline suites (location ++ [index + i]) := by
  induction items generalizing index with
  | nil => simp [itemsOf]
  | cons d items ih =>
    rw [itemsOf.eq_def]
    dsimp only
    rw [List.mem_append, ih]
    constructor
    · rintro (h | ⟨i, e, he, h⟩)
      · exact ⟨0, d, rfl, h⟩
      · refine ⟨i + 1, e, he, ?_⟩
        rwa [show index + (i + 1) = index + 1 + i by omega]
    · rintro ⟨_ | i, e, he, h⟩
      · cases he
        exact Or.inl h
      · refine Or.inr ⟨i, e, he, ?_⟩
        rwa [show index + 1 + i = index + (i + 1) by omega]

/-- The items below a mapping come from its tests. -/
lemma mem_itemsBelow_iff_listed {rounds : Nat} {es : Entries} {suites : List Entries}
    {location : Location} {x : Item} :
    x ∈ itemsBelow root rounds es suites location ↔
      ∃ i tline d, listedAt? es i = some (tline, d) ∧
        x ∈ itemsFrom root rounds d tline suites (location ++ [i]) := by
  rw [itemsBelow]
  rcases htests : testsOf es with _ | ⟨tline, items⟩ | _
  · simp [listedAt?, htests]
  · simp [mem_itemsOf_iff, listedAt?, htests]
  · simp [listedAt?, htests]

/-- What is not the document as a suite comes first, and behind it what is below it as a suite. -/
lemma mem_itemsFrom_iff {rounds : Nat} {d : Document}
    (hd : d = .whole → hasKey root.entries "suite" = false) {tline : Option Nat}
    {suites : List Entries} {location : Location} {x : Item} :
    x ∈ itemsFrom root rounds d tline suites location ↔
      x = ⟨d, location, tline, suites, rounds⟩ ∨
        ∃ s, suiteOf? d = some s ∧ x ∈ itemsBelow root rounds s (suites ++ [s]) location := by
  rw [itemsFrom.eq_def, List.mem_cons]
  refine or_congr_right ?_
  cases d with
  | map line es =>
    dsimp only [suiteOf?]
    split_ifs <;> simp
  | whole => cases rounds <;> simp [suiteOf?, hd rfl]
  | _ => simp [suiteOf?]

/-- **The items below a mapping** from which the document is not entered again are what stands at
its places. -/
theorem mem_itemsBelow_iff (rounds : Nat) (es : Entries) (honce : ¬ root.Reenters es)
    (suites : List Entries) (location : Location) (x : Item) :
    x ∈ itemsBelow root rounds es suites location ↔
      ∃ l p, placeAt? es l = some p ∧
        x = ⟨p.content, location ++ l, p.listLine, suites ++ p.suites, rounds⟩ := by
  -- What is below a test that is a suite is known by induction.
  have hbelow : ∀ i tline d s, listedAt? es i = some (tline, d) → suiteOf? d = some s →
      (x ∈ itemsBelow root rounds s (suites ++ [s]) (location ++ [i]) ↔
        ∃ l p, placeAt? s l = some p ∧
          x = ⟨p.content, location ++ i :: l, p.listLine, suites ++ s :: p.suites, rounds⟩) := by
    intro i tline d s hlisted hsuite
    have hinner := (isClosed_of_listedAt? honce hlisted).below s hsuite
    obtain ⟨items, htests, hi⟩ := listedAt?_eq_some_iff.mp hlisted
    obtain ⟨sline, rfl, -⟩ := suiteOf?_eq_some_iff.mp hsuite
    have hsmall : sizeOf s < sizeOf es := by
      have hlist := sizeOf_lt_of_testsOf htests
      have hitem := List.sizeOf_lt_of_mem (List.mem_of_getElem? hi)
      simp only [map.sizeOf_spec] at hitem
      omega
    have ih := mem_itemsBelow_iff rounds s hinner (suites ++ [s]) (location ++ [i]) x
    simpa using ih
  have hself := fun i tline d (hlisted : listedAt? es i = some (tline, d)) =>
    (isClosed_of_listedAt? honce hlisted).self
  rw [mem_itemsBelow_iff_listed]
  constructor
  · rintro ⟨i, tline, d, hlisted, hx⟩
    rcases (mem_itemsFrom_iff root (hself i tline d hlisted)).mp hx with rfl | ⟨s, hs, hx⟩
    · exact ⟨[i], _, placeAt?_cons_iff.mpr ⟨tline, d, hlisted, Or.inl ⟨rfl, rfl⟩⟩, by simp⟩
    · obtain ⟨l, p, hp, rfl⟩ := (hbelow i tline d s hlisted hs).mp hx
      exact ⟨i :: l, _, placeAt?_cons_iff.mpr ⟨tline, d, hlisted, Or.inr ⟨s, p, hs, hp, rfl⟩⟩, rfl⟩
  · rintro ⟨_ | ⟨i, l⟩, p, hp, rfl⟩
    · cases hp
    · obtain ⟨tline, d, hlisted, ⟨rfl, rfl⟩ | ⟨s, q, hs, hq, rfl⟩⟩ := placeAt?_cons_iff.mp hp
      · refine ⟨i, tline, d, hlisted, ?_⟩
        exact (mem_itemsFrom_iff root (hself i tline d hlisted)).mpr (Or.inl (by simp))
      · refine ⟨i, tline, d, hlisted, ?_⟩
        refine (mem_itemsFrom_iff root (hself i tline d hlisted)).mpr (Or.inr ⟨s, hs, ?_⟩)
        exact (hbelow i tline d s hlisted hs).mpr ⟨l, q, hq, rfl⟩
termination_by sizeOf es

/-! ### The order of places -/

/-- Items whose places follow each other: a mapping comes before what is below it, and that comes
before what is below later positions. -/
def InOrder (l : List Item) : Prop := l.Pairwise fun x y => x.location < y.location

lemma lt_append_of_ne_nil {l r : Location} (h : r ≠ []) : l < l ++ r := by
  obtain ⟨i, r, rfl⟩ := List.exists_cons_of_ne_nil h
  have hnil : ([] : Location) < i :: r := List.nil_lt_cons i r
  have h : l ++ [] < l ++ i :: r := List.append_left_lt hnil
  simpa using h

lemma append_lt_append_of_lt {l r r' : Location} {i j : Nat} (h : i < j) :
    l ++ i :: r < l ++ j :: r' :=
  List.append_left_lt (List.cons_lt_cons_iff.mpr (Or.inl h))

/-- What is below a test has its place there or further down. -/
lemma exists_location_of_mem_itemsFrom {rounds : Nat} {d : Document} (hd : root.IsClosed d)
    {tline : Option Nat} {suites : List Entries} {location : Location} {x : Item}
    (hx : x ∈ itemsFrom root rounds d tline suites location) :
    ∃ l, x.location = location ++ l := by
  rcases (mem_itemsFrom_iff root hd.self).mp hx with rfl | ⟨s, hs, hbelow⟩
  · exact ⟨[], (List.append_nil _).symm⟩
  · obtain ⟨l, p, -, rfl⟩ := (mem_itemsBelow_iff root rounds s (hd.below s hs) _ _ x).mp hbelow
    exact ⟨l, rfl⟩

/-- What is below the tests of a list is in order if what is below each of them is. -/
lemma inOrder_itemsOf {rounds : Nat} {items : List Document} {tline : Option Nat}
    {suites : List Entries} {location : Location} {index : Nat}
    (hclosed : ∀ d ∈ items, root.IsClosed d)
    (horder : ∀ d ∈ items, ∀ l, InOrder (itemsFrom root rounds d tline suites l)) :
    InOrder (itemsOf root rounds items tline suites location index) := by
  induction items generalizing index with
  | nil => simp [itemsOf, InOrder]
  | cons d items ih =>
    obtain ⟨hd, hrest⟩ := List.forall_mem_cons.mp hclosed
    obtain ⟨hfirst, hothers⟩ := List.forall_mem_cons.mp horder
    rw [itemsOf.eq_def]
    refine List.pairwise_append.mpr ⟨hfirst _, ih hrest hothers, fun x hx y hy => ?_⟩
    obtain ⟨i, e, he, hy⟩ := (mem_itemsOf_iff root).mp hy
    obtain ⟨l, hl⟩ := exists_location_of_mem_itemsFrom root hd hx
    obtain ⟨r, hr⟩ :=
      exists_location_of_mem_itemsFrom root (hrest e (List.mem_of_getElem? he)) hy
    rw [hl, hr, List.append_assoc, List.append_assoc]
    exact append_lt_append_of_lt (by omega)

/-- **The items below a mapping** from which the document is not entered again are in order. -/
theorem inOrder_itemsBelow (rounds : Nat) (es : Entries) (honce : ¬ root.Reenters es)
    (suites : List Entries) (location : Location) :
    InOrder (itemsBelow root rounds es suites location) := by
  rw [itemsBelow]
  rcases htests : testsOf es with _ | ⟨tline, items⟩ | _
  · exact List.Pairwise.nil
  · have hclosed : ∀ d ∈ items, root.IsClosed d := by
      intro d hd
      obtain ⟨i, hi⟩ := List.mem_iff_getElem?.mp hd
      exact isClosed_of_listedAt? honce (listedAt?_eq_some_iff.mpr ⟨items, htests, hi⟩)
    refine inOrder_itemsOf root hclosed fun d hd l => ?_
    rw [itemsFrom.eq_def]
    -- A test comes before what is below it as a suite, which is in order by induction.
    cases d with
    | map sline s =>
      have hsmall : sizeOf s < sizeOf es := by
        have hlist := sizeOf_lt_of_testsOf htests
        have hitem := List.sizeOf_lt_of_mem hd
        simp only [map.sizeOf_spec] at hitem
        omega
      dsimp only
      split_ifs with hsuite
      · have hinner : ¬ root.Reenters s :=
          (hclosed _ hd).below s (suiteOf?_eq_some_iff.mpr ⟨sline, rfl, hsuite⟩)
        refine List.pairwise_cons.mpr ⟨fun y hy => ?_, ?_⟩
        · obtain ⟨r, p, hp, rfl⟩ := (mem_itemsBelow_iff root rounds s hinner _ _ y).mp hy
          refine lt_append_of_ne_nil ?_
          rintro rfl
          cases hp
        · exact inOrder_itemsBelow rounds s hinner _ _
      · exact List.pairwise_singleton _ _
    | whole =>
      have hsuite : ¬ hasKey root.entries "suite" = true := by simp [(hclosed _ hd).self rfl]
      cases rounds with
      | zero => exact List.pairwise_singleton _ _
      | succ rounds =>
        dsimp only
        rw [if_neg hsuite]
        exact List.pairwise_singleton _ _
    | _ => exact List.pairwise_singleton _ _
  · exact List.Pairwise.nil
termination_by sizeOf es

/-! ### The whole document -/

/-- What stands at a place of the document. The root stands where no position leads. -/
def Mapping.contentAt? (root : Mapping) : Location → Option Document
  | [] => some (.map root.line root.entries)
  | i :: rest => (placeAt? root.entries (i :: rest)).map (·.content)

/-- A mapping stands at a place of the document. -/
def Mapping.MappingAt (root : Mapping) (l : Location) (m : Mapping) : Prop :=
  root.contentAt? l = some (.map m.line m.entries)

section Content

variable {root} {m : Mapping} {l : Location} {d : Document}

lemma contentAt?_eq_some_iff (hl : l ≠ []) :
    root.contentAt? l = some d ↔ ∃ p, placeAt? root.entries l = some p ∧ p.content = d := by
  obtain ⟨i, rest, rfl⟩ := List.exists_cons_of_ne_nil hl
  exact Option.map_eq_some_iff

lemma eq_of_map_eq {m' : Mapping}
    (h : Document.map m.line m.entries = .map m'.line m'.entries) : m = m' := by
  obtain ⟨line, es⟩ := m
  obtain ⟨line', es'⟩ := m'
  obtain ⟨rfl, rfl⟩ := map.inj h
  rfl

lemma mappingAt_nil_iff : root.MappingAt [] m ↔ m = root := by
  obtain ⟨line, es⟩ := m
  obtain ⟨rline, res⟩ := root
  simp [Mapping.MappingAt, Mapping.contentAt?, eq_comm]

/-- The tests of the root, or of a suite, stand at the places behind it. -/
lemma contentAt?_concat {i : Nat} {line : Option Nat} {items : List Document}
    (hm : root.MappingAt l m) (hsuite : l = [] ∨ hasKey m.entries "suite" = true)
    (htests : testsOf m.entries = .listed line items) (hd : items[i]? = some d) :
    root.contentAt? (l ++ [i]) = some d := by
  have hlisted := listedAt?_eq_some_iff.mpr ⟨items, htests, hd⟩
  rw [contentAt?_eq_some_iff (by simp)]
  rcases eq_or_ne l [] with rfl | hl
  · obtain rfl := mappingAt_nil_iff.mp hm
    exact ⟨_, placeAt?_cons_iff.mpr ⟨line, d, hlisted, Or.inl ⟨rfl, rfl⟩⟩, rfl⟩
  · obtain ⟨p, hp, hcontent⟩ := (contentAt?_eq_some_iff hl).mp hm
    have hs := suiteOf?_eq_some_iff.mpr ⟨m.line, hcontent, hsuite.resolve_left hl⟩
    exact ⟨_, placeAt?_concat hp hs hlisted, rfl⟩

/-- What stands at a place other than the root's is a test of the root or of a suite. -/
lemma exists_parent {p : Place} (hp : placeAt? root.entries l = some p) :
    ∃ l' m line items, root.MappingAt l' m ∧ (l' = [] ∨ hasKey m.entries "suite" = true) ∧
      testsOf m.entries = .listed line items ∧ p.content ∈ items := by
  obtain ⟨l', i, s, rfl, hlisted, hs⟩ := exists_suite_of_placeAt? hp
  obtain ⟨items, htests, hi⟩ := listedAt?_eq_some_iff.mp hlisted
  have hmem := List.mem_of_getElem? hi
  rcases hs with ⟨rfl, rfl⟩ | ⟨q, hq, hqs⟩
  · exact ⟨[], root, _, items, mappingAt_nil_iff.mpr rfl, Or.inl rfl, htests, hmem⟩
  · obtain ⟨line, hcontent, hsuite⟩ := suiteOf?_eq_some_iff.mp hqs
    have hne : l' ≠ [] := by
      rintro rfl
      cases hq
    exact ⟨l', ⟨line, s⟩, _, items, (contentAt?_eq_some_iff hne).mpr ⟨q, hq, hcontent⟩,
      Or.inr hsuite, htests, hmem⟩

end Content

/-! ### The items of a document -/

section Once

variable {root} (honce : ¬ root.Reenters root.entries)
include honce

/-- The items of a document that is not entered again are what stands at its places. -/
theorem mem_items_iff_of_once {x : Item} :
    x ∈ root.items ↔ ∃ p, placeAt? root.entries x.location = some p ∧
      x = ⟨p.content, x.location, p.listLine, p.suites, roundLimit⟩ := by
  rw [Mapping.items, mem_itemsBelow_iff root roundLimit root.entries honce]
  simp only [List.nil_append]
  constructor
  · rintro ⟨l, p, hp, rfl⟩
    exact ⟨p, hp, rfl⟩
  · rintro ⟨p, hp, hx⟩
    exact ⟨x.location, p, hp, hx⟩

/-- The items of a document that is not entered again are in order. -/
theorem inOrder_items_of_once : InOrder root.items :=
  inOrder_itemsBelow root roundLimit root.entries honce [] []

end Once

section Items

variable {root} (hself : ¬ root.Has .whole)
include hself

theorem mem_items_iff {x : Item} :
    x ∈ root.items ↔ ∃ p, placeAt? root.entries x.location = some p ∧
      x = ⟨p.content, x.location, p.listLine, p.suites, roundLimit⟩ :=
  mem_items_iff_of_once (not_reenters_of_not_has hself)

lemma mem_items_of_placeAt? {l : Location} {p : Place} (hp : placeAt? root.entries l = some p) :
    ⟨p.content, l, p.listLine, p.suites, roundLimit⟩ ∈ root.items :=
  (mem_items_iff hself).mpr ⟨p, hp, rfl⟩

lemma content_eq_of_of? {x : Item} {m : Mapping} (hx : x ∈ root.items)
    (hm : root.of? x.content = some m) : x.content = .map m.line m.entries := by
  have hhas := has_of_mem_itemsBelow root roundLimit root.entries [] [] ⟨root.line, .here⟩ x hx
  rcases hcontent : x.content with _ | _ | _ | _ | _ | _ | _ | ⟨line, es⟩ | _ <;>
    rw [hcontent] at hm hhas <;> cases hm
  · rfl
  · exact absurd hhas hself

/-- No item is the document once too often. -/
lemma not_isSpent {x : Item} (hx : x ∈ root.items) : ¬ x.IsSpent := by
  rintro ⟨hwhole, -⟩
  have hhas := has_of_mem_itemsBelow root roundLimit root.entries [] [] ⟨root.line, .here⟩ x hx
  rw [hwhole] at hhas
  exact hself hhas

/-- An item stands at a place other than the root's. -/
lemma location_ne_nil {x : Item} (hx : x ∈ root.items) : x.location ≠ [] := by
  intro hnil
  obtain ⟨p, hp, -⟩ := (mem_items_iff hself).mp hx
  rw [hnil] at hp
  cases hp

/-- There is one item at a place. -/
lemma eq_of_location_eq {x y : Item} (hx : x ∈ root.items) (hy : y ∈ root.items)
    (h : x.location = y.location) : x = y := by
  obtain ⟨p, hp, hxp⟩ := (mem_items_iff hself).mp hx
  obtain ⟨q, hq, hyq⟩ := (mem_items_iff hself).mp hy
  rw [h, hq] at hp
  obtain rfl := Option.some.inj hp
  rw [hxp, hyq, h]

/-- The items that are mappings are those at places other than the root's. -/
lemma mappingAt_iff_item {l : Location} {m : Mapping} (hl : l ≠ []) :
    root.MappingAt l m ↔ ∃ x ∈ root.items, x.location = l ∧ root.of? x.content = some m := by
  rw [Mapping.MappingAt, contentAt?_eq_some_iff hl]
  constructor
  · rintro ⟨p, hp, hcontent⟩
    exact ⟨_, mem_items_of_placeAt? hself hp, rfl, by simp [hcontent, Mapping.of?]⟩
  · rintro ⟨x, hx, rfl, hm⟩
    have hcontent := content_eq_of_of? hself hx hm
    obtain ⟨p, hp, hxp⟩ := (mem_items_iff hself).mp hx
    rw [hxp] at hcontent
    exact ⟨p, hp, hcontent⟩

theorem inOrder_items : InOrder root.items :=
  inOrder_items_of_once (not_reenters_of_not_has hself)

/-- Before an item of a document stand those with lesser places. -/
lemma mem_before_iff {before after : List Item} {x y : Item}
    (hsplit : root.items = before ++ x :: after) :
    y ∈ before ↔ y ∈ root.items ∧ y.location < x.location := by
  have horder := inOrder_items hself
  rw [hsplit, InOrder, List.pairwise_append, List.pairwise_cons] at horder
  obtain ⟨-, ⟨hafter, -⟩, hbefore⟩ := horder
  rw [hsplit, List.mem_append, List.mem_cons]
  constructor
  · exact fun hy => ⟨Or.inl hy, hbefore y hy x List.mem_cons_self⟩
  · rintro ⟨hy | rfl | hy, hlt⟩
    · exact hy
    · exact absurd hlt (lt_irrefl _)
    · exact absurd hlt (lt_asymm (hafter y hy))

end Items

end Sieve.Spec
