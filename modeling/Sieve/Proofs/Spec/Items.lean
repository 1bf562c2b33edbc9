import Sieve.Proofs.Spec.Reading
import Sieve.Proofs.Spec.Walk

/-!
The items of a document, in its order.

A walk below a suite checks that the tests of the suite are a list and then makes one step at
every item of the lists, in the order of the document. The step looks at the item and at the
suites around it alone, so that what a walk meets, and where it stops, is read off the items.
-/

namespace Sieve.Spec

open Document

/-- An item of a list of tests. -/
structure Item where
  content : Document
  location : Location
  /-- The line on which the list begins. -/
  listLine : Option Nat
  /-- The suites around the item from the outside in, without the root. -/
  suites : List Entries
  /-- How often the document may still be entered again. -/
  rounds : Nat

/-- The mapping that a part of a document is. -/
def Mapping.of? (root : Mapping) : Document → Option Mapping
  | .map line es => some ⟨line, es⟩
  | .whole => some root
  | _ => none

mutual

/-- The items below a suite, each before those below itself. -/
def itemsBelow (root : Mapping) (rounds : Nat) (es : Entries) (suites : List Entries)
    (location : Location) : List Item :=
  match _h : testsOf es with
  | .listed tline items => itemsOf root rounds items tline suites location 0
  | _ => []
termination_by (rounds, sizeOf es)
decreasing_by exact Prod.Lex.right _ (sizeOf_lt_of_testsOf _h)

def itemsOf (root : Mapping) (rounds : Nat) (items : List Document) (tline : Option Nat)
    (suites : List Entries) (location : Location) (index : Nat) : List Item :=
  match items with
  | [] => []
  | item :: rest =>
    itemsFrom root rounds item tline suites (location ++ [index]) ++
      itemsOf root rounds rest tline suites location (index + 1)
termination_by (rounds, sizeOf items)

def itemsFrom (root : Mapping) (rounds : Nat) (item : Document) (tline : Option Nat)
    (suites : List Entries) (location : Location) : List Item :=
  ⟨item, location, tline, suites, rounds⟩ ::
    match item with
    | .map _ es =>
      if hasKey es "suite" then itemsBelow root rounds es (suites ++ [es]) location else []
    | .whole =>
      match rounds with
      | 0 => []
      | rounds + 1 =>
        if hasKey root.entries "suite" then
          itemsBelow root rounds root.entries (suites ++ [root.entries]) location
        else []
    | _ => []
termination_by (rounds, sizeOf item)

end

lemma itemsBelow_of_listed {root : Mapping} {rounds : Nat} {es : Entries} {tline : Option Nat}
    {items : List Document} {suites : List Entries} {location : Location}
    (h : testsOf es = .listed tline items) :
    itemsBelow root rounds es suites location =
      itemsOf root rounds items tline suites location 0 := by
  rw [itemsBelow, h]

/-! ### Steps -/

/-- What a walk checks of a suite before it looks at the tests. -/
def checkTests {α : Type} (m : Mapping) (location : Location) : Walk α :=
  match testsOf m.entries with
  | .malformed => .stop (violation .testsType location m.line)
  | _ => .nothing

/-- The document is an item of itself once too often. -/
def Item.IsSpent (x : Item) : Prop := x.content = .whole ∧ x.rounds = 0

/-- What a walk checks of an item that is a suite: that it is not the document once too often, and
that it lists its tests. -/
def Item.enter {α : Type} (x : Item) (m : Mapping) : Walk α :=
  match x.content, x.rounds with
  | .whole, 0 => .stop .endless
  | _, _ => checkTests m x.location

/-- The name under a key, if there is one. -/
def nameIn (es : Entries) (key : String) : String :=
  match readName es key [] none with
  | .ok name => name
  | .error _ => ""

/-- The tags under a key, if they are tags. -/
def tagsIn (es : Entries) (key : String) : List String :=
  match readTags ⟨none, []⟩ es key [] none with
  | .ok tags => tags
  | .error _ => []

namespace Inherited

/-- What a suite hands down that was handed this. -/
def hand (i : Inherited) (es : Entries) : Inherited :=
  { i with titles := i.titles ++ [nameIn es "suite"], tags := unionTags i.tags (tagsIn es "tags"),
           required := unionTags i.required (tagsIn es "required_tags") }

/-- What is handed down to a place inside suites. -/
def within (i : Inherited) (suites : List Entries) (location : Location) : Inherited :=
  { suites.foldl hand i with location := location }

lemma hand_within (i : Inherited) (suites : List Entries) (location : Location) (es : Entries) :
    (i.within suites location).hand es = i.within (suites ++ [es]) location := by
  simp [within, hand, List.foldl_append]

end Inherited

/-- The step of the walk over tests at an item; the root hands down `base`. -/
def testStep (root : Mapping) (base : Inherited) (x : Item) : Walk Test :=
  match root.of? x.content with
  | none => .stop (violation .entryType x.location x.listLine)
  | some m =>
    testsOfEntry root m.entries m.line (base.within x.suites x.location) fun _ =>
      x.enter m

/-- The step of the walk over names at an item. -/
def nameStep (root : Mapping) (x : Item) : Walk Name :=
  match root.of? x.content with
  | none => .stop (violation .entryType x.location x.listLine)
  | some m => namesOfEntry m.entries m.line x.location fun _ => x.enter m

variable {root : Mapping} {es : Entries} {key : String} {location : Location} {line : Option Nat}

lemma nameIn_eq {name : String} (h : NameIs es key name) : nameIn es key = name := by
  simp [nameIn, readName_eq_ok_iff.mpr h]

lemma tagsIn_eq {tags : List String} (h : TagsAre es key tags) : tagsIn es key = tags := by
  simp [tagsIn, readTags_eq_ok_iff.mpr h]

/-! ### The walk over tests -/

/-- What follows the entrance of a suite follows the step there. -/
lemma testsOfEntry_append {i : Inherited} {below : Inherited → Walk Test} {first rest : Walk Test}
    (h : below (i.hand es) = first.append rest) :
    testsOfEntry root es line i below =
      (testsOfEntry root es line i fun _ => first).append
        (if hasKey es "suite" then rest else .nothing) := by
  unfold testsOfEntry
  split_ifs with hnone hsuite hsuite
  · rfl
  · rfl
  · rcases ht : readTags root es "tags" i.location line with e | tags
    · rfl
    rcases hr : readTags root es "required_tags" i.location line with e | required
    · rfl
    rcases hn : readName es "suite" i.location line with e | name
    · rfl
    simp only [Walk.after_ok]
    rw [← h, Inherited.hand, nameIn_eq (readName_eq_ok_iff.mp hn),
      tagsIn_eq (readTags_eq_ok_iff.mp ht), tagsIn_eq (readTags_eq_ok_iff.mp hr)]
  · rw [Walk.append_nothing]

variable (root) (base : Inherited)

mutual

/-- **The walk over tests** goes along the items. -/
theorem testsBelow_eq (rounds : Nat) (es : Entries) (line : Option Nat) (suites : List Entries)
    (location : Location) :
    testsBelow root rounds es line (base.within suites location) =
      (checkTests ⟨line, es⟩ location).append
        (.along (testStep root base) (itemsBelow root rounds es suites location)) := by
  rw [testsBelow, itemsBelow, checkTests]
  rcases h : testsOf es with _ | ⟨tline, items⟩ | _
  · rfl
  · have := sizeOf_lt_of_testsOf h
    simpa [Walk.nothing_append] using testsOfItems_eq rounds items tline suites location 0
  · rfl
termination_by (rounds, sizeOf es)

theorem testsOfItems_eq (rounds : Nat) (items : List Document) (tline : Option Nat)
    (suites : List Entries) (location : Location) (index : Nat) :
    testsOfItems root rounds items tline (base.within suites location) index =
      .along (testStep root base) (itemsOf root rounds items tline suites location index) := by
  rw [testsOfItems.eq_def, itemsOf.eq_def]
  cases items with
  | nil => rfl
  | cons item rest =>
    dsimp only
    rw [Walk.along_append, ← testsOfItem_eq rounds item tline suites (location ++ [index]),
      ← testsOfItems_eq rounds rest tline suites location (index + 1)]
    rfl
termination_by (rounds, sizeOf items)

theorem testsOfItem_eq (rounds : Nat) (item : Document) (tline : Option Nat)
    (suites : List Entries) (location : Location) :
    testsOfItem root rounds item tline (base.within suites location) =
      .along (testStep root base) (itemsFrom root rounds item tline suites location) := by
  rw [testsOfItem.eq_def, itemsFrom.eq_def, Walk.along, testStep]
  cases item with
  | map iline es =>
    have hbelow := testsBelow_eq rounds es iline (suites ++ [es]) location
    rw [← Inherited.hand_within] at hbelow
    dsimp only [Mapping.of?]
    rw [testsOfEntry_append hbelow]
    split_ifs <;> rfl
  | whole =>
    cases rounds with
    | zero =>
      dsimp only [Mapping.of?, Item.enter]
      rw [Walk.along, Walk.append_nothing]
      rfl
    | succ rounds =>
      -- The entries of the root are no smaller, but there is one round less.
      have hbelow := testsBelow_eq rounds root.entries root.line (suites ++ [root.entries]) location
      rw [← Inherited.hand_within] at hbelow
      dsimp only [Mapping.of?]
      rw [testsOfEntry_append hbelow]
      split_ifs <;> rfl
  | _ => rfl
termination_by (rounds, sizeOf item)

end

/-! ### The walk over names -/

lemma namesOfEntry_append {below : Unit → Walk Name} {first rest : Walk Name}
    (h : below () = first.append rest) :
    namesOfEntry es line location below =
      (namesOfEntry es line location fun _ => first).append
        (if hasKey es "suite" then rest else .nothing) := by
  unfold namesOfEntry
  split_ifs with hsuite hname
  · rw [h, Walk.append_assoc]
  · rw [Walk.append_nothing]
  · rfl

mutual

/-- **The walk over names** goes along the items. -/
theorem namesBelow_eq (rounds : Nat) (es : Entries) (line : Option Nat) (suites : List Entries)
    (location : Location) :
    namesBelow root rounds es line location =
      (checkTests ⟨line, es⟩ location).append
        (.along (nameStep root) (itemsBelow root rounds es suites location)) := by
  rw [namesBelow, itemsBelow, checkTests]
  rcases h : testsOf es with _ | ⟨tline, items⟩ | _
  · rfl
  · have := sizeOf_lt_of_testsOf h
    simpa [Walk.nothing_append] using namesOfItems_eq rounds items tline suites location 0
  · rfl
termination_by (rounds, sizeOf es)

theorem namesOfItems_eq (rounds : Nat) (items : List Document) (tline : Option Nat)
    (suites : List Entries) (location : Location) (index : Nat) :
    namesOfItems root rounds items tline location index =
      .along (nameStep root) (itemsOf root rounds items tline suites location index) := by
  rw [namesOfItems.eq_def, itemsOf.eq_def]
  cases items with
  | nil => rfl
  | cons item rest =>
    dsimp only
    rw [Walk.along_append, ← namesOfItem_eq rounds item tline suites (location ++ [index]),
      ← namesOfItems_eq rounds rest tline suites location (index + 1)]
termination_by (rounds, sizeOf items)

theorem namesOfItem_eq (rounds : Nat) (item : Document) (tline : Option Nat)
    (suites : List Entries) (location : Location) :
    namesOfItem root rounds item tline location =
      .along (nameStep root) (itemsFrom root rounds item tline suites location) := by
  rw [namesOfItem.eq_def, itemsFrom.eq_def, Walk.along, nameStep]
  cases item with
  | map iline es =>
    dsimp only [Mapping.of?]
    rw [namesOfEntry_append (namesBelow_eq rounds es iline (suites ++ [es]) location)]
    split_ifs <;> rfl
  | whole =>
    cases rounds with
    | zero =>
      dsimp only [Mapping.of?, Item.enter]
      rw [Walk.along, Walk.append_nothing]
      rfl
    | succ rounds =>
      dsimp only [Mapping.of?]
      rw [namesOfEntry_append
        (namesBelow_eq rounds root.entries root.line (suites ++ [root.entries]) location)]
      split_ifs <;> rfl
  | _ => rfl
termination_by (rounds, sizeOf item)

end

/-! ### The suites around an item -/

/-- The item is a suite with these entries. -/
def Item.IsSuite (root : Mapping) (x : Item) (es : Entries) : Prop :=
  hasKey es "suite" = true ∧ ∃ m, root.of? x.content = some m ∧ m.entries = es

/-- The item is listed by the suite at a place inside others. -/
def Item.ListedAt (x : Item) (suites : List Entries) (location : Location) : Prop :=
  x.suites = suites ∧ ∃ index, x.location = location ++ [index]

/-- The item is listed by a suite among these items. -/
def Item.HasParentIn (root : Mapping) (l : List Item) (x : Item) : Prop :=
  ∃ y ∈ l, ∃ s, y.IsSuite root s ∧ x.ListedAt (y.suites ++ [s]) y.location

variable {root}

lemma Item.HasParentIn.mono {l r : List Item} {x : Item} (h : x.HasParentIn root l)
    (hsub : ∀ y ∈ l, y ∈ r) : x.HasParentIn root r := by
  obtain ⟨y, hy, hs⟩ := h
  exact ⟨y, hsub y hy, hs⟩

/-- Items below a suite come below the item that it is. -/
lemma hasParentIn_cons {y : Item} {s : Entries} {l : List Item} (hy : y.IsSuite root s)
    (hl : ∀ x ∈ l, x.ListedAt (y.suites ++ [s]) y.location ∨ x.HasParentIn root l) :
    ∀ x ∈ y :: l, x = y ∨ x.HasParentIn root (y :: l) := by
  rintro x (_ | ⟨_, hx⟩)
  · exact Or.inl rfl
  · right
    rcases hl x hx with h | h
    · exact ⟨y, List.mem_cons_self, s, hy, h⟩
    · exact h.mono fun z hz => List.mem_cons_of_mem y hz

variable (root)

mutual

/-- An item below a suite is listed by the suite or by one that is an item itself. -/
theorem hasParentIn_itemsBelow (rounds : Nat) (es : Entries) (suites : List Entries)
    (location : Location) :
    ∀ x ∈ itemsBelow root rounds es suites location,
      x.ListedAt suites location ∨
        x.HasParentIn root (itemsBelow root rounds es suites location) := by
  rw [itemsBelow]
  rcases h : testsOf es with _ | ⟨tline, items⟩ | _
  · simp
  · have := sizeOf_lt_of_testsOf h
    exact hasParentIn_itemsOf rounds items tline suites location 0
  · simp
termination_by (rounds, sizeOf es)

theorem hasParentIn_itemsOf (rounds : Nat) (items : List Document) (tline : Option Nat)
    (suites : List Entries) (location : Location) (index : Nat) :
    ∀ x ∈ itemsOf root rounds items tline suites location index,
      x.ListedAt suites location ∨
        x.HasParentIn root (itemsOf root rounds items tline suites location index) := by
  rw [itemsOf.eq_def]
  cases items with
  | nil => simp
  | cons item rest =>
    dsimp only
    intro x hx
    rcases List.mem_append.mp hx with hx | hx
    · rcases hasParentIn_itemsFrom rounds item tline suites _ x hx with rfl | h
      · exact Or.inl ⟨rfl, index, rfl⟩
      · exact Or.inr (h.mono fun y hy => List.mem_append_left _ hy)
    · rcases hasParentIn_itemsOf rounds rest tline suites location (index + 1) x hx with h | h
      · exact Or.inl h
      · exact Or.inr (h.mono fun y hy => List.mem_append_right _ hy)
termination_by (rounds, sizeOf items)

theorem hasParentIn_itemsFrom (rounds : Nat) (item : Document) (tline : Option Nat)
    (suites : List Entries) (location : Location) :
    ∀ x ∈ itemsFrom root rounds item tline suites location,
      x = ⟨item, location, tline, suites, rounds⟩ ∨
        x.HasParentIn root (itemsFrom root rounds item tline suites location) := by
  rw [itemsFrom.eq_def]
  cases item with
  | map iline es =>
    dsimp only
    split_ifs with hsuite
    · exact hasParentIn_cons ⟨hsuite, _, rfl, rfl⟩
        (hasParentIn_itemsBelow rounds es (suites ++ [es]) location)
    · simp
  | whole =>
    cases rounds with
    | zero => simp
    | succ rounds =>
      dsimp only
      split_ifs with hsuite
      · exact hasParentIn_cons ⟨hsuite, _, rfl, rfl⟩
          (hasParentIn_itemsBelow rounds root.entries (suites ++ [root.entries]) location)
      · simp
  | _ => simp
termination_by (rounds, sizeOf item)

end

/-- **The suites around an item** are items themselves. -/
theorem isSuite_of_mem_suites {rounds : Nat} {es s : Entries} {location : Location} {x : Item}
    (hx : x ∈ itemsBelow root rounds es [] location) (hs : s ∈ x.suites) :
    ∃ y ∈ itemsBelow root rounds es [] location, y.IsSuite root s := by
  -- Upwards from the item, one suite less each time.
  induction hn : x.suites.length generalizing x with
  | zero =>
    rw [List.length_eq_zero_iff.mp hn] at hs
    exact absurd hs List.not_mem_nil
  | succ n ih =>
    rcases hasParentIn_itemsBelow root rounds es [] location x hx with h | ⟨y, hy, t, ht, h, -⟩
    · rw [h.1] at hs
      exact absurd hs List.not_mem_nil
    · rw [h, List.mem_append, List.mem_singleton] at hs
      rcases hs with hs | rfl
      · refine ih hy hs ?_
        rw [h, List.length_append, List.length_singleton] at hn
        omega
      · exact ⟨y, hy, ht⟩

/-! ### Parts of the document -/

/-- A part of the document with that root. -/
def Mapping.Has (root : Mapping) (d : Document) : Prop :=
  Document.Has d (.map root.line root.entries)

mutual

/-- The items below a part of the document are parts of it. -/
theorem has_of_mem_itemsBelow (rounds : Nat) (es : Entries) (suites : List Entries)
    (location : Location) (hes : ∃ line, root.Has (.map line es)) :
    ∀ x ∈ itemsBelow root rounds es suites location, root.Has x.content := by
  rw [itemsBelow]
  rcases h : testsOf es with _ | ⟨tline, items⟩ | _
  · simp
  · have := sizeOf_lt_of_testsOf h
    obtain ⟨line, hes⟩ := hes
    refine has_of_mem_itemsOf rounds items tline suites location 0 fun d hd => ?_
    exact (has_of_testsOf h hd).trans hes
  · simp
termination_by (rounds, sizeOf es)

theorem has_of_mem_itemsOf (rounds : Nat) (items : List Document) (tline : Option Nat)
    (suites : List Entries) (location : Location) (index : Nat)
    (hitems : ∀ d ∈ items, root.Has d) :
    ∀ x ∈ itemsOf root rounds items tline suites location index, root.Has x.content := by
  rw [itemsOf.eq_def]
  cases items with
  | nil => simp
  | cons item rest =>
    obtain ⟨hitem, hrest⟩ := List.forall_mem_cons.mp hitems
    intro x hx
    rcases List.mem_append.mp hx with hx | hx
    · exact has_of_mem_itemsFrom rounds item tline suites _ hitem x hx
    · exact has_of_mem_itemsOf rounds rest tline suites location (index + 1) hrest x hx
termination_by (rounds, sizeOf items)

theorem has_of_mem_itemsFrom (rounds : Nat) (item : Document) (tline : Option Nat)
    (suites : List Entries) (location : Location) (hitem : root.Has item) :
    ∀ x ∈ itemsFrom root rounds item tline suites location, root.Has x.content := by
  rw [itemsFrom.eq_def]
  refine List.forall_mem_cons.mpr ⟨hitem, ?_⟩
  cases item with
  | map iline es =>
    dsimp only
    split_ifs
    · exact has_of_mem_itemsBelow rounds es (suites ++ [es]) location ⟨iline, hitem⟩
    · simp
  | whole =>
    cases rounds with
    | zero => simp
    | succ rounds =>
      dsimp only
      split_ifs
      -- Entered again, the root is a part of the document as it was at first.
      · exact has_of_mem_itemsBelow rounds root.entries (suites ++ [root.entries]) location
          ⟨root.line, .here⟩
      · simp
  | _ => simp
termination_by (rounds, sizeOf item)

end

end Sieve.Spec
