import Sieve.Proofs.Spec.Tests

/-!
What is extracted from a text, and when nothing is.

A document that can be written and is no part of itself stops no walk. The names in the title of a
test are names of the document.
-/

namespace Sieve.Spec

open Document

variable {root : Mapping}

/-! ### Documents that stop no walk -/

/-- Some integer of the document has too many digits. -/
def Mapping.IsUnwritable (root : Mapping) : Prop :=
  HasUnwritable (.map root.line root.entries)

lemma has_of_of? {d : Document} {m : Mapping} (hm : root.of? d = some m) (hd : root.Has d) :
    root.Has (.map m.line m.entries) := by
  cases d with
  | map line es =>
    cases hm
    exact hd
  | whole =>
    cases hm
    exact .here
  | _ => cases hm

lemma Mapping.Has.isUnwritable {d : Document} (hd : root.Has d) (h : HasUnwritable d) :
    root.IsUnwritable := by
  obtain ⟨n, hn, hint⟩ := h
  exact ⟨n, hn, hint.trans hd⟩

lemma NameUnwritable.hasUnwritable {line : Option Nat} {es : Entries} {key : String}
    (h : NameUnwritable es key) : HasUnwritable (.map line es) := by
  obtain ⟨n, hn, hwritable⟩ := h
  exact ⟨n, hwritable, has_of_get? hn⟩

lemma TagsUnwritable.isUnwritable {line : Option Nat} {es : Entries} {key : String}
    (h : TagsUnwritable root es key) (hes : root.Has (.map line es)) : root.IsUnwritable := by
  obtain ⟨tline, before, d, after, hget, -, hshow⟩ := h
  have hd : root.Has d :=
    ((Has.item (by simp) .here).trans (has_of_get? hget)).trans hes
  rcases show?_eq_none_iff.mp hshow with h | ⟨h, -⟩
  · exact hd.isUnwritable h
  · exact h

lemma has_of_mem_items {x : Item} {m : Mapping} (hx : x ∈ root.items)
    (hm : root.of? x.content = some m) : root.Has (.map m.line m.entries) :=
  has_of_of? hm (has_of_mem_itemsBelow root roundLimit root.entries [] [] ⟨root.line, .here⟩ x hx)

/-- Only a document that is a part of itself is entered too often. -/
lemma has_whole_of_isSpent {x : Item} (hx : x ∈ root.items) (hspent : x.IsSpent) :
    root.Has .whole :=
  hspent.1 ▸ has_of_mem_itemsBelow root roundLimit root.entries [] [] ⟨root.line, .here⟩ x hx

/-- The names of a document that can be written and is no part of itself do not stop the walk. -/
theorem not_namesStuck (hwritable : ¬ root.IsUnwritable) (hself : ¬ root.Has .whole) :
    ¬ root.NamesStuck := by
  rintro (h | ⟨-, -, before, x, after, hsplit, -, ⟨m, hm, h⟩ | ⟨m, hm, -, -, h⟩⟩)
  · exact hwritable h.hasUnwritable
  · have hx : x ∈ root.items := by simp [hsplit]
    exact hwritable ((has_of_mem_items hx hm).isUnwritable h.hasUnwritable)
  · exact hself (has_whole_of_isSpent (by simp [hsplit]) h)

/-- The tests of a document that can be written and is no part of itself do not stop the walk. -/
theorem not_testsStuck (hwritable : ¬ root.IsUnwritable) (hself : ¬ root.Has .whole) :
    ¬ root.TestsStuck := by
  have hroot : root.Has (.map root.line root.entries) := .here
  rintro (h | ⟨-, -, before, x, after, hsplit, -, ⟨m, hm, -, h⟩ | ⟨m, hm, -, -, -, -, h⟩⟩)
  · rcases h with h | ⟨-, h | ⟨-, h⟩⟩
    · exact hwritable h.hasUnwritable
    · exact hwritable (h.isUnwritable hroot)
    · exact hwritable (h.isUnwritable hroot)
  · have hx : x ∈ root.items := by simp [hsplit]
    have hmap := has_of_mem_items hx hm
    rcases h with h | ⟨-, h | ⟨-, h⟩⟩
    · exact hwritable (h.isUnwritable hmap)
    · exact hwritable (h.isUnwritable hmap)
    · exact hwritable (hmap.isUnwritable h.hasUnwritable)
  · exact hself (has_whole_of_isSpent (by simp [hsplit]) h)

/-! ### Texts -/

variable {text : String}

/-- What takes a root to extract is extracted from a text that loads as one. -/
lemma extract_eq_iff {α : Type} {f : Document → Except Failure α} {r : Except Failure α}
    (hf : ∀ d, f d = (rootOf d).bind fun root => f (.map root.line root.entries))
    (hload : ∀ l, r ≠ .error (.load l)) (hrule : ∀ v, r ≠ .error (.violation v)) :
    extract f text = r ↔
      ∃ root : Mapping, load text = .ok (.map root.line root.entries) ∧
        f (.map root.line root.entries) = r := by
  unfold extract
  rcases load text with l | d
  · constructor
    · intro h
      exact absurd h.symm (hload l)
    · rintro ⟨root, h, -⟩
      cases h
  · dsimp only
    constructor
    · intro h
      cases d with
      | map line es => exact ⟨⟨line, es⟩, rfl, h⟩
      | _ =>
        rw [hf] at h
        exact absurd h.symm (hrule _)
    · rintro ⟨root, hd, h⟩
      cases hd
      exact h

lemma namesOfText_eq_iff {r : Except Failure Names} (hload : ∀ l, r ≠ .error (.load l))
    (hrule : ∀ v, r ≠ .error (.violation v)) :
    namesOfText text = r ↔
      ∃ root : Mapping, load text = .ok (.map root.line root.entries) ∧
        names (.map root.line root.entries) = r :=
  extract_eq_iff (fun d => by cases d <;> rfl) hload hrule

lemma candidatesOfText_eq_iff {r : Except Failure (List Candidate)}
    (hload : ∀ l, r ≠ .error (.load l)) (hrule : ∀ v, r ≠ .error (.violation v)) :
    candidatesOfText text = r ↔
      ∃ root : Mapping, load text = .ok (.map root.line root.entries) ∧
        candidates (.map root.line root.entries) = r :=
  extract_eq_iff (fun d => by cases d <;> rfl) hload hrule

/-- The candidates of a text are the tests of the document that it holds. -/
lemma candidatesOfText_eq_ok_iff {cs : List Candidate} :
    candidatesOfText text = .ok cs ↔
      ∃ root : Mapping, load text = .ok (.map root.line root.entries) ∧ root.HasTests ∧
        cs = root.tests.map (·.candidate) := by
  rw [candidatesOfText_eq_iff (by simp) (by simp)]
  simp only [candidates_eq_ok_iff]

lemma nodup_titles {cs : List Candidate} (h : candidatesOfText text = .ok cs) :
    (cs.map (·.title)).Nodup := by
  obtain ⟨root, -, htests, rfl⟩ := candidatesOfText_eq_ok_iff.mp h
  rw [List.map_map]
  exact htests.items.2

lemma namesOfText_stuck_iff :
    (namesOfText text = .error .noText ∨ namesOfText text = .error .endless) ↔
      ∃ root : Mapping, load text = .ok (.map root.line root.entries) ∧ root.NamesStuck := by
  rw [namesOfText_eq_iff (by simp) (by simp), namesOfText_eq_iff (by simp) (by simp)]
  simp only [namesStuck_iff, ← exists_or, ← and_or_left]

lemma candidatesOfText_stuck_iff :
    (candidatesOfText text = .error .noText ∨ candidatesOfText text = .error .endless) ↔
      ∃ root : Mapping, load text = .ok (.map root.line root.entries) ∧ root.TestsStuck := by
  rw [candidatesOfText_eq_iff (by simp) (by simp), candidatesOfText_eq_iff (by simp) (by simp)]
  simp only [testsStuck_iff, ← exists_or, ← and_or_left]

/-! ### Tests and names -/

lemma titles_within (i : Inherited) (suites : List Entries) (location : Location) :
    (i.within suites location).titles = i.titles ++ suites.map fun s => nameIn s "suite" := by
  rw [Inherited.within]
  dsimp only
  induction suites generalizing i with
  | nil => simp
  | cons s suites ih => simp [ih, Inherited.hand]

/-- The names of the suites around an item, and its own. -/
def Item.path (root : Mapping) (x : Item) (m : Mapping) : List String :=
  (root.base.within x.suites x.location).titles ++ [nameIn m.entries "name"]

lemma title_testAt (x : Item) (m : Mapping) :
    (testAt root.base x m).candidate.title = " ".intercalate (x.path root m) := rfl

/-- The names of a document whose names can all be read. -/
def Mapping.allNames (root : Mapping) : Names :=
  .ofList (root.ownNames ++ root.items.filterMap (Item.name? root))

lemma mem_tests_iff {t : Test} :
    t ∈ root.tests ↔ ∃ x ∈ root.items, ∃ m, root.of? x.content = some m ∧
      hasKey m.entries "suite" = false ∧ t = testAt root.base x m := by
  simp only [Mapping.tests, List.mem_filterMap, Item.test?, Option.bind_eq_some_iff]
  refine exists_congr fun x => and_congr_right fun _ => exists_congr fun m => and_congr_right ?_
  rintro -
  by_cases hsuite : hasKey m.entries "suite" = true
  · simp [hsuite]
  · simpa [hsuite] using eq_comm

lemma mem_all_ofList_iff {l : List Name} {n : String} :
    n ∈ (Names.ofList l).all ↔ .suite n ∈ l ∨ .test n ∈ l := by
  simp only [Names.all, Names.ofList, List.mem_append, List.mem_filterMap]
  refine or_congr ⟨?_, fun h => ⟨_, h, rfl⟩⟩ ⟨?_, fun h => ⟨_, h, rfl⟩⟩
  · rintro ⟨a, ha, h⟩
    cases a with
    | suite s => exact Option.some.inj h ▸ ha
    | test s => cases h
  · rintro ⟨a, ha, h⟩
    cases a with
    | suite s => cases h
    | test s => exact Option.some.inj h ▸ ha

/-- The names in the path of an item are names of the document. -/
theorem mem_allNames_of_mem_path {x : Item} {m : Mapping} {n : String} (hx : x ∈ root.items)
    (hm : root.of? x.content = some m) (hsuite : hasKey m.entries "suite" = false)
    (hn : n ∈ x.path root m) : n ∈ root.allNames.all := by
  have hname : ∀ y ∈ root.items, ∀ name, y.name? root = some name →
      name ∈ root.ownNames ++ root.items.filterMap (Item.name? root) := by
    intro y hy name h
    exact List.mem_append_right _ (List.mem_filterMap.mpr ⟨y, hy, h⟩)
  rw [Mapping.allNames, mem_all_ofList_iff]
  rw [Item.path, titles_within, List.mem_append, List.mem_append, List.mem_map,
    List.mem_singleton] at hn
  -- It is the name of the root, of a suite around the item, or of the item itself.
  rcases hn with (hroot | ⟨s, hs, rfl⟩) | rfl
  · left
    refine List.mem_append_left _ ?_
    unfold Mapping.base at hroot
    unfold Mapping.ownNames
    split_ifs at hroot ⊢
    · rw [List.mem_singleton.mp hroot]
      exact List.mem_singleton_self _
    · exact absurd hroot List.not_mem_nil
  · left
    obtain ⟨y, hy, hsuite, m', hm', rfl⟩ := isSuite_of_mem_suites root hx hs
    exact hname y hy _ (by simp [Item.name?, hm', nameOf, hsuite])
  · right
    exact hname x hx _ (by simp [Item.name?, hm, nameOf, hsuite])

/-- A document whose tests can be read has names to read. -/
lemma Mapping.HasTests.hasNames (h : root.HasTests) : root.HasNames := by
  refine ⟨h.base.own, h.listed, fun x hx => ?_⟩
  obtain ⟨m, hm, -, -, hname, htests⟩ := h.items.1 x hx
  exact ⟨m, hm, hname, htests⟩

/-- The names of a document whose tests can be read. -/
lemma names_of_hasTests (h : root.HasTests) :
    names (.map root.line root.entries) = .ok root.allNames :=
  names_eq_ok_iff.mpr ⟨h.hasNames, rfl⟩

/-! ### The table of tags -/

/-- The entry of a test in a table of tags. -/
def tagEntry (c : Candidate) : String × EffectiveTags :=
  (c.title, ⟨c.effectiveTags, c.requiredTags⟩)

lemma putTags_of_not_mem {table : List (String × EffectiveTags)} {title : String}
    {tags : EffectiveTags} (h : title ∉ table.map Prod.fst) :
    putTags table title tags = table ++ [(title, tags)] := by
  induction table with
  | nil => rfl
  | cons e table ih =>
    rw [List.map_cons, List.mem_cons, not_or] at h
    rw [putTags, if_neg (Ne.symm h.1), ih h.2, List.cons_append]

lemma foldl_putTags {cs : List Candidate} {table : List (String × EffectiveTags)}
    (h : (table.map Prod.fst ++ cs.map (·.title)).Nodup) :
    cs.foldl (fun table c => putTags table c.title ⟨c.effectiveTags, c.requiredTags⟩) table =
      table ++ cs.map tagEntry := by
  -- Each title is new to the table that those before it have made.
  induction cs generalizing table with
  | nil => simp
  | cons c cs ih =>
    have hnew : c.title ∉ table.map Prod.fst := by
      intro hmem
      exact (List.nodup_append.mp h).2.2 _ hmem _ List.mem_cons_self rfl
    rw [List.foldl_cons, putTags_of_not_mem hnew, ih (by simpa using h), List.map_cons,
      List.append_assoc]
    rfl

/-- If titles differ, every test has an entry of its own. -/
theorem tagsByTitle_eq_map {cs : List Candidate} (h : (cs.map (·.title)).Nodup) :
    tagsByTitle cs = cs.map tagEntry :=
  @foldl_putTags cs [] h

/-! ### A suite with a single test -/

section Single

variable {es : Entries} {line tline : Option Nat}

/-- The only item of a suite with a single test. -/
lemma items_of_single (htests : testsOf root.entries = .listed tline [.map line es])
    (hsuite : hasKey es "suite" = false) :
    root.items = [⟨.map line es, [0], tline, [], roundLimit⟩] := by
  simp [Mapping.items, itemsBelow_of_listed htests, itemsOf, itemsFrom, hsuite]

/-- The only test of such a suite. -/
lemma tests_of_single (htests : testsOf root.entries = .listed tline [.map line es])
    (hsuite : hasKey es "suite" = false) :
    root.tests =
      [testAt root.base ⟨.map line es, [0], tline, [], roundLimit⟩ ⟨line, es⟩] := by
  simp [Mapping.tests, items_of_single htests hsuite, Item.test?, Mapping.of?, hsuite]

/-- The test can be read. -/
lemma hasTests_of_single (hbase : root.HasBase)
    (htests : testsOf root.entries = .listed tline [.map line es])
    (hsuite : hasKey es "suite" = false) (htags : IsTagged es "tags")
    (hrequired : IsTagged es "required_tags") (hname : IsNamed es) : root.HasTests := by
  refine ⟨hbase, by simp [htests], ?_, ?_⟩
  · rw [items_of_single htests hsuite]
    refine List.forall_mem_singleton.mpr ⟨⟨line, es⟩, rfl, htags, hrequired, hname, fun h => ?_⟩
    simp [hsuite] at h
  · change DistinctTitles root.tests
    rw [tests_of_single htests hsuite]
    exact List.pairwise_singleton _ _

/-- The names are those of the suite and its test. -/
lemma names_of_single {suite test : String} (hroot : NameIs root.entries "suite" suite)
    (htests : testsOf root.entries = .listed tline [.map line es])
    (hsuite : hasKey es "suite" = false) (hname : NameIs es "name" test) :
    names (.map root.line root.entries) = .ok ⟨[suite], [test]⟩ := by
  have hkey : nameKey es = "name" := by simp [nameKey, hsuite]
  have hnames : root.HasNames := by
    refine ⟨fun _ => ⟨suite, hroot⟩, by simp [htests], ?_⟩
    rw [items_of_single htests hsuite]
    refine List.forall_mem_singleton.mpr ⟨⟨line, es⟩, rfl, ⟨test, hkey ▸ hname⟩, fun h => ?_⟩
    simp [hsuite] at h
  refine names_eq_ok_iff.mpr ⟨hnames, ?_⟩
  have hitem : Item.name? root ⟨.map line es, [0], tline, [], roundLimit⟩ = some (.test test) := by
    simp [Item.name?, Mapping.of?, nameOf, hsuite, nameIn_eq hname]
  simp [items_of_single htests hsuite, Mapping.ownNames, hroot.hasKey, nameIn_eq hroot, hitem,
    Names.ofList]

end Single

end Sieve.Spec
