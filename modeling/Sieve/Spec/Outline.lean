import Sieve.Filter.Candidate
import Sieve.Spec.Violation
import Sieve.Text.Blank

/-!
The suites and tests of a spec document.

A suite has a name, tags, required tags and tests, each test being a suite again or a test with
a name. Tags and required tags are handed down. The title of a test is its name behind those of
the suites around it. The walks go through the document in its order and stop at the first place
that breaks a rule.

A document may list itself among its tests. It is then entered again. Once that has happened too
often, the walk over names gives up, while the walk over tests goes on behind the item.
-/

namespace Sieve.Spec

open Document

abbrev Entries := List (Document × Document)

theorem sizeOf_lt_of_get? {es : Entries} {key : String} {d : Document}
    (h : get? es key = some d) : sizeOf d < sizeOf es := by
  unfold get? lookup at h
  obtain ⟨e, he, rfl⟩ := Option.map_eq_some_iff.1 h
  have hm := List.sizeOf_lt_of_mem (List.mem_of_find?_eq_some he)
  have : sizeOf e.2 < sizeOf e := by
    obtain ⟨k, v⟩ := e
    simp only [Prod.mk.sizeOf_spec]
    omega
  omega

/-- What a walk has met: items, then perhaps a reason to stop. -/
structure Walk (α : Type) where
  items : List α
  failure : Option Failure

namespace Walk

def nothing {α : Type} : Walk α := ⟨[], none⟩

def one {α : Type} (a : α) : Walk α := ⟨[a], none⟩

def stop {α : Type} (f : Failure) : Walk α := ⟨[], some f⟩

/-- The second walk after the first, unless that stops. -/
def append {α : Type} (a b : Walk α) : Walk α :=
  match a.failure with
  | some _ => a
  | none => ⟨a.items ++ b.items, b.failure⟩

/-- A walk that needs a value first. -/
def after {α β : Type} (r : Except Failure β) (f : β → Walk α) : Walk α :=
  match r with
  | .ok b => f b
  | .error e => stop e

/-- All items, if nothing stopped the walk. -/
def toExcept {α : Type} (w : Walk α) : Except Failure (List α) :=
  match w.failure with
  | none => .ok w.items
  | some f => .error f

end Walk

/-- A broken rule of a mapping that begins on a line. -/
def violation (rule : Rule) (location : Location) (line : Option Nat) : Failure :=
  .violation ⟨rule, some location, line⟩

def isBlankText (s : String) : Bool := (Text.trimmed s).isEmpty

/-- A mapping with the line on which it begins. -/
structure Mapping where
  line : Option Nat
  entries : Entries

/-- How a part of a document is shown, the mapping being its root. -/
def Mapping.show? (root : Mapping) (d : Document) : Option String :=
  d.innerText? (Document.map root.line root.entries).inner?

/-- Tags are texts that are not blank. -/
def readTag (root : Mapping) (key : String) (location : Location) (line : Option Nat)
    (d : Document) : Except Failure String :=
  let refused : Except Failure String :=
    match root.show? d with
    | some shown => .error (violation (.tag key shown) location line)
    | none => .error .noText
  match d with
  | .str s => if isBlankText s then refused else .ok (Text.trimmed s)
  | _ => refused

/-- The tags under a key: none, a single one, or a list. -/
def readTags (root : Mapping) (es : Entries) (key : String) (location : Location)
    (line : Option Nat) : Except Failure (List String) :=
  match get? es key with
  | none | some .null => .ok []
  | some (.str s) => (readTag root key location line (.str s)).map ([·])
  | some (.seq _ items) => (items.mapM (readTag root key location line)).map distinct
  | some _ => .error (violation (.tagsType key) location line)

/-- The text of a name: a text or a number. -/
def nameText? : Document → Option (Option String)
  | .str s => some (some s)
  | .int n => some (Document.inner? (.int n))
  | .float x => some (Document.inner? (.float x))
  | _ => none

/-- The name under a key, without the blanks around it. -/
def readName (es : Entries) (key : String) (location : Location) (line : Option Nat) :
    Except Failure String :=
  match (get? es key).bind nameText? with
  | none => .error (violation (.nameType key) location line)
  | some none => .error .noText
  | some (some text) =>
    if isBlankText text then .error (violation (.nameBlank key) location line)
    else .ok (Text.trimmed text)

/-- The items of a suite's `tests`, with the line on which that list begins. -/
inductive Tests where
  | absent
  | listed (line : Option Nat) (items : List Document)
  | malformed

def testsOf (es : Entries) : Tests :=
  match get? es "tests" with
  | none | some .null => .absent
  | some (.seq line items) => .listed line items
  | some _ => .malformed

theorem sizeOf_lt_of_testsOf {es : Entries} {line : Option Nat} {items : List Document}
    (h : testsOf es = .listed line items) : sizeOf items < sizeOf es := by
  unfold testsOf at h
  split at h <;> try contradiction
  rename_i l xs hg
  cases h
  have := sizeOf_lt_of_get? hg
  simp at this
  omega

/-- A test as the document has it. -/
structure Test where
  candidate : Candidate
  location : Location
  line : Option Nat

/-- What the suites around hand down. -/
structure Inherited where
  titles : List String
  tags : List String
  required : List String
  location : Location

/-- The title of a test under the names of its suites. -/
def fullTitle (titles : List String) (name : String) : String := " ".intercalate (titles ++ [name])

/-- The test that a mapping describes. -/
def testOf (es : Entries) (line : Option Nat) (i : Inherited) (own required : List String) :
    Walk Test :=
  Walk.after (readName es "name" i.location line) fun name =>
    let candidate :=
      Candidate.make (fullTitle i.titles name) own (unionTags i.tags own) required
    .one ⟨candidate, i.location, line⟩

/-- A mapping in a list of tests: a suite, whose tests `below` walks, or a test. -/
def testsOfEntry (root : Mapping) (es : Entries) (line : Option Nat) (i : Inherited)
    (below : Inherited → Walk Test) : Walk Test :=
  if !hasKey es "suite" && !hasKey es "name" then .stop (violation .entryNameless i.location line)
  else
    Walk.after (readTags root es "tags" i.location line) fun tags =>
      Walk.after (readTags root es "required_tags" i.location line) fun required =>
        let required := unionTags i.required required
        if hasKey es "suite" then
          Walk.after (readName es "suite" i.location line) fun name =>
            below { i with titles := i.titles ++ [name], tags := unionTags i.tags tags,
                           required := required }
        else testOf es line i tags required

mutual

/-- The tests of a suite of the document, which may be entered again as often as `rounds`; after
that the walk gives up. -/
def testsBelow (root : Mapping) (rounds : Nat) (es : Entries) (line : Option Nat) (i : Inherited) :
    Walk Test :=
  match _h : testsOf es with
  | .absent => .nothing
  | .malformed => .stop (violation .testsType i.location line)
  | .listed tline items => testsOfItems root rounds items tline i 0
termination_by (rounds, sizeOf es)
decreasing_by exact Prod.Lex.right _ (sizeOf_lt_of_testsOf _h)

def testsOfItems (root : Mapping) (rounds : Nat) (items : List Document) (tline : Option Nat)
    (i : Inherited) (index : Nat) : Walk Test :=
  match items with
  | [] => .nothing
  | item :: rest =>
    let here := { i with location := i.location ++ [index] }
    (testsOfItem root rounds item tline here).append
      (testsOfItems root rounds rest tline i (index + 1))
termination_by (rounds, sizeOf items)

def testsOfItem (root : Mapping) (rounds : Nat) (item : Document) (tline : Option Nat)
    (i : Inherited) : Walk Test :=
  match item with
  | .map line es => testsOfEntry root es line i (testsBelow root rounds es line)
  | .whole =>
    testsOfEntry root root.entries root.line i fun j =>
      match rounds with
      | 0 => .stop .endless
      | rounds + 1 => testsBelow root rounds root.entries root.line j
  | _ => .stop (violation .entryType i.location tline)
termination_by (rounds, sizeOf item)

end

/-- The names of the suites and tests of a document, in its order. -/
inductive Name where
  | suite (name : String)
  | test (name : String)
deriving DecidableEq, Repr

/-- The name of a suite, if the mapping is one. -/
def nameOfSuite (es : Entries) (line : Option Nat) (location : Location) : Walk Name :=
  if hasKey es "suite" then
    Walk.after (readName es "suite" location line) fun name => .one (.suite name)
  else .nothing

/-- A mapping in a list of tests: a suite, in which `below` goes on, or a test. -/
def namesOfEntry (es : Entries) (line : Option Nat) (location : Location)
    (below : Unit → Walk Name) : Walk Name :=
  if hasKey es "suite" then (nameOfSuite es line location).append (below ())
  else if hasKey es "name" then
    Walk.after (readName es "name" location line) fun name => .one (.test name)
  else .stop (violation .entryNameless location line)

mutual

/-- The names below a suite of the document, which may be entered again as often as `rounds`; after
that the walk gives up. -/
def namesBelow (root : Mapping) (rounds : Nat) (es : Entries) (line : Option Nat)
    (location : Location) : Walk Name :=
  match _h : testsOf es with
  | .absent => .nothing
  | .malformed => .stop (violation .testsType location line)
  | .listed tline items => namesOfItems root rounds items tline location 0
termination_by (rounds, sizeOf es)
decreasing_by exact Prod.Lex.right _ (sizeOf_lt_of_testsOf _h)

def namesOfItems (root : Mapping) (rounds : Nat) (items : List Document) (tline : Option Nat)
    (location : Location) (index : Nat) : Walk Name :=
  match items with
  | [] => .nothing
  | item :: rest =>
    (namesOfItem root rounds item tline (location ++ [index])).append
      (namesOfItems root rounds rest tline location (index + 1))
termination_by (rounds, sizeOf items)

def namesOfItem (root : Mapping) (rounds : Nat) (item : Document) (tline : Option Nat)
    (location : Location) : Walk Name :=
  match item with
  | .map line es => namesOfEntry es line location fun _ => namesBelow root rounds es line location
  | .whole =>
    namesOfEntry root.entries root.line location fun _ =>
      match rounds with
      | 0 => .stop .endless
      | rounds + 1 => namesBelow root rounds root.entries root.line location
  | _ => .stop (violation .entryType location tline)
termination_by (rounds, sizeOf item)

end

/-- The names of a spec. -/
structure Names where
  suites : List String
  tests : List String
deriving DecidableEq, Repr

def Names.all (n : Names) : List String := n.suites ++ n.tests

def Names.ofList (l : List Name) : Names :=
  { suites := l.filterMap fun
      | .suite s => some s
      | .test _ => none
    tests := l.filterMap fun
      | .suite _ => none
      | .test s => some s }

def rootOf : Document → Except Failure Mapping
  | .map line es => .ok ⟨line, es⟩
  | _ => .error (.violation ⟨.document, none, none⟩)

/-- How often a document may be entered again. -/
def roundLimit : Nat := 1000

/-- The names that a document declares. -/
def names (d : Document) : Except Failure Names := do
  let root ← rootOf d
  let walk :=
    (nameOfSuite root.entries root.line []).append
      (namesBelow root roundLimit root.entries root.line [])
  return .ofList (← walk.toExcept)

/-- No two tests have the same title; the later of two is at fault. -/
def checkTitles (seen : List String) : List Test → Option Failure
  | [] => none
  | t :: ts =>
    if seen.contains t.candidate.title then
      some (violation (.titleTaken t.candidate.title) t.location t.line)
    else checkTitles (t.candidate.title :: seen) ts

/-- The tests of a document as candidates. -/
def candidates (d : Document) : Except Failure (List Candidate) := do
  let root ← rootOf d
  let titles ←
    if hasKey root.entries "suite" then (readName root.entries "suite" [] root.line).map ([·])
    else pure []
  let tags ← readTags root root.entries "tags" [] root.line
  let required ← readTags root root.entries "required_tags" [] root.line
  let walk :=
    testsBelow root roundLimit root.entries root.line ⟨titles, tags, required, []⟩
  match checkTitles [] walk.items with
  | some f => throw f
  | none => return (← walk.toExcept).map (·.candidate)

/-- The tags that apply to a test. -/
structure EffectiveTags where
  effective : List String
  required : List String
deriving DecidableEq, Repr

/-- The tags under a title: in the place of those that it has, or at the end. -/
def putTags (table : List (String × EffectiveTags)) (title : String) (tags : EffectiveTags) :
    List (String × EffectiveTags) :=
  match table with
  | [] => [(title, tags)]
  | (t, old) :: r => if t = title then (t, tags) :: r else (t, old) :: putTags r title tags

/-- The tags of every test under its title, in the order of the document. -/
def tagsByTitle (cs : List Candidate) : List (String × EffectiveTags) :=
  cs.foldl (fun table c => putTags table c.title ⟨c.effectiveTags, c.requiredTags⟩) []

/-- Reads a text and extracts something from its document. -/
def extract {α : Type} (f : Document → Except Failure α) (text : String) : Except Failure α :=
  match load text with
  | .ok d => f d
  | .error e => .error (.load e)

def namesOfText : String → Except Failure Names := extract names

def candidatesOfText : String → Except Failure (List Candidate) := extract candidates

end Sieve.Spec
