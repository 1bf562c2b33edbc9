/-!
Filters over tests: what a title must and must not hold, and which tags a test must and must
not carry.
-/

namespace Sieve

/-- The tag alternative that stands for carrying no tag at all. -/
def untagged : String := "untagged"

/-- One of `words` has to stand in the title, and none of `negated`. -/
structure TitleFilter where
  words : List String
  negated : List String
deriving DecidableEq, Repr, Inhabited

/-- One tag of every group has to be carried, and none of `inverted`. -/
structure TagFilter where
  groups : List (List String)
  inverted : List String
deriving DecidableEq, Repr, Inhabited

structure Filter where
  title : TitleFilter
  tags : TagFilter
deriving DecidableEq, Repr, Inhabited

/-- Which parts of a filter hold anything. -/
inductive Filter.Kind where
  | empty
  | title
  | tags
  | both
deriving DecidableEq, Repr

def TitleFilter.none : TitleFilter := ⟨[], []⟩

def TagFilter.none : TagFilter := ⟨[], []⟩

def TitleFilter.isEmpty (f : TitleFilter) : Bool := f.words.isEmpty && f.negated.isEmpty

def TagFilter.isEmpty (f : TagFilter) : Bool := f.groups.isEmpty && f.inverted.isEmpty

namespace Filter

/-- The filter that lets every test run. -/
def none : Filter := ⟨.none, .none⟩

def kind (f : Filter) : Kind :=
  match f.title.isEmpty, f.tags.isEmpty with
  | false, false => .both
  | false, true => .title
  | true, false => .tags
  | true, true => .empty

def isEmpty (f : Filter) : Bool := f.kind = .empty

def Kind.text : Kind → String
  | .empty => "empty"
  | .title => "title"
  | .tags => "tags"
  | .both => "both"

end Filter

end Sieve
