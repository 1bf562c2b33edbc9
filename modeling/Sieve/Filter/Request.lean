import Sieve.Filter.Candidate
import Sieve.Filter.Expression
import Sieve.Schema.Scalar

/-!
Filters, candidates and subjects asked for with values whose types are known only when they are
read.
-/

namespace Sieve

open Schema

/-- Why a request cannot be read. -/
inductive RequestFault where
  | issues (all : List Issue)
  | notIterable (typeName : String)
  | unhashable (typeName : String)
  /-- The value has no small letters. -/
  | notText (typeName : String)
  | noText
deriving DecidableEq, Repr

def RequestFault.message : RequestFault → String
  | issues all => "\n".intercalate (all.map (·.cause.message))
  | notIterable t => s!"'{t}' object is not iterable"
  | unhashable t => s!"unhashable type: '{t}'"
  | notText t => s!"'{t}' object has no attribute 'lower'"
  | noText => Value.noTextMessage

namespace Value

/-- An expression is the text of any value; an absent one has none. -/
def expression? : Value → Except RequestFault (Option String)
  | null => .ok none
  | v =>
    match v.text? with
    | some t => .ok (some t)
    | none => .error .noText

/-- The members of a value that stands for a set: characters, items or keys. -/
def members? (v : Value) : Except RequestFault (List Value) :=
  if !v.isTruthy then .ok []
  else
    match v with
    | str s => .ok (s.toList.map fun c => str (String.ofList [c]))
    | list xs => .ok xs
    | tuple xs => .ok xs
    | set xs => .ok xs
    | map es => .ok (es.map (·.1))
    | v => .error (.notIterable v.typeName)

def checkMember (v : Value) : Except RequestFault Unit :=
  if v.isKey then .ok () else .error (.unhashable v.typeName)

/-- The members of a set given by any value. -/
def asSet (v : Value) : Except RequestFault (List Value) := do
  let xs ← v.members?
  xs.forM checkMember
  return xs

end Value

/-- The tags that a filter names. -/
def Filter.namedTags (f : Filter) : List String := f.tags.groups.flatten ++ f.tags.inverted

/-- A tag that the filter does not name: it is longer than all that it names. -/
def Filter.foreignTag (f : Filter) : String :=
  String.ofList (List.replicate (f.namedTags.foldl (fun n t => n + t.length) 1) '#')

/-- Members that are no texts match no tag, so they count as a tag that the filter does not
name. -/
def Filter.tagsOf (f : Filter) (members : List Value) : List String :=
  members.map fun v => v.string?.getD f.foreignTag

/-- The subject of a request, read in the order in which a decision needs its parts. -/
def Filter.decide (f : Filter) (title tags required : Value) : Except RequestFault Verdict := do
  let required ← required.asSet
  if !required.isEmpty then return f.verdict ⟨"", [], true⟩
  let title ←
    if !title.isTruthy then pure ""
    else
      match title with
      | .str s => pure s
      | v => throw (.notText v.typeName)
  let tags ← tags.asSet
  return f.verdict ⟨title, f.tagsOf tags, false⟩

/-- What a decision answers: whether untagged tests pass is answered as it was asked. -/
def Verdict.answer (v : Verdict) (untaggedPass : Value) : Value :=
  match v with
  | settled b => .bool b
  | ifUntaggedPass otherwise => if untaggedPass.isTruthy then untaggedPass else .bool otherwise

namespace Schema

def Read.groups : Value → Read (List (List String))
  | .list xs => Read.items Read.texts 0 xs
  | .tuple xs => Read.items Read.texts 0 xs
  | _ => .fail .tuple

def Read.tagSet : Value → Read (List String)
  | .list xs => Read.items Read.text 0 xs
  | .tuple xs => Read.items Read.text 0 xs
  | .set xs => Read.items Read.text 0 xs
  | _ => .fail .frozenSet

end Schema

def TitleFilter.read : Value → Read TitleFilter
  | .map es =>
    (Read.both (Read.field es "words" Read.texts [])
      (Read.field es "negated_words" Read.texts [])).map fun (w, n) => ⟨w, n⟩
  | _ => .fail (.record "ParsedGrepTitle")

def TagFilter.read : Value → Read TagFilter
  | .map es =>
    (Read.both (Read.field es "tags" Read.groups [])
      (Read.field es "inverted_tags" Read.texts [])).map fun (g, i) => ⟨g, i⟩
  | _ => .fail (.record "ParsedGrepTags")

/-- A filter given by its parts. -/
def Filter.read : Value → Read Filter
  | .map es =>
    (Read.both (Read.field es "title" TitleFilter.read .none)
      (Read.field es "tags" TagFilter.read .none)).map fun (t, g) => ⟨t, g⟩
  | _ => .fail (.record "ParsedGrep")

/-- The members of both lists that are no repetitions. -/
def Value.unionMembers (xs ys : List Value) : List Value :=
  (xs ++ ys).foldl (fun acc v => if acc.any (same v) then acc else acc ++ [v]) []

/-- A candidate given by its parts; its own tags join those that apply to it. -/
def Candidate.read (v : Value) : Except RequestFault Candidate :=
  match v with
  | .map es => do
    let own ← ((Value.lookup es "tags").getD .null).asSet
    let others ← ((Value.lookup es "effective_tags").getD .null).asSet
    let title :=
      match Value.lookup es "title" with
      | some v => Read.at "title" (Read.text v)
      | none => Read.at "title" (.fail .missing)
    let effective := Read.at "effective_tags" (Read.tagSet (.set (Value.unionMembers own others)))
    let parts :=
      Read.both title
        (Read.both (Read.field es "tags" Read.tagSet [])
          (Read.both effective (Read.field es "required_tags" Read.tagSet [])))
    match parts with
    | .ok (title, tags, effective, required) => .ok (.make title tags effective required)
    | .error issues => .error (.issues issues)
  | _ => .error (.issues [⟨[], .record "Candidate"⟩])

end Sieve
