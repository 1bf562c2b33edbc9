import Sieve.Filter.Basic
import Sieve.Text.Blank
import Sieve.Text.Lower

/-!
Whether a test runs under a filter.

A test with a required tag runs. Else a negated word in its title or an inverted tag among its
tags excludes it. Else the title part and the tag part both have to admit it, where a part
without content admits everything. Words are looked for in small letters; tags are compared as
they are. An untagged test passes an active tag part if that is asked for, or if every group
offers the tag `untagged`.
-/

namespace Sieve

open Text

/-- What a decision looks at: a title, the tags that apply, and whether a required tag does. -/
structure Subject where
  title : String
  tags : List String
  isRequired : Bool
deriving DecidableEq, Repr

/-- A decision that may wait for whether untagged tests are let through. -/
inductive Verdict where
  | settled (runs : Bool)
  /-- The test runs if untagged tests are let through, and else as said here. -/
  | ifUntaggedPass (otherwise : Bool)
deriving DecidableEq, Repr

def Verdict.runs (v : Verdict) (untaggedPass : Bool) : Bool :=
  match v with
  | settled b => b
  | ifUntaggedPass otherwise => untaggedPass || otherwise

/-- Some word stands in the title, which is in small letters. -/
def mentionsAny (words : List String) (title : String) : Bool :=
  words.any fun w => contains title (lower w)

def TitleFilter.admits (f : TitleFilter) (title : String) : Bool :=
  f.words.isEmpty || mentionsAny f.words title

/-- Some alternative of the group applies. -/
def groupAdmits (tags : List String) (group : List String) : Bool :=
  group.any fun alternative =>
    if alternative = untagged then tags.isEmpty else tags.contains alternative

/-- Every group of the filter, and there is one, offers the tag `untagged`. -/
def TagFilter.asksForUntagged (f : TagFilter) : Bool :=
  !f.groups.isEmpty && f.groups.all (·.contains untagged)

def TagFilter.verdict (f : TagFilter) (tags : List String) : Verdict :=
  if f.isEmpty then .settled true
  else if tags.isEmpty then .ifUntaggedPass f.asksForUntagged
  else .settled (f.groups.all (groupAdmits tags))

namespace Filter

def verdict (f : Filter) (s : Subject) : Verdict :=
  let title := lower s.title
  if s.isRequired then .settled true
  else if mentionsAny f.title.negated title then .settled false
  else if f.tags.inverted.any (s.tags.contains ·) then .settled false
  else if f.title.admits title then f.tags.verdict s.tags
  else .settled false

/-- The test runs. -/
def admits (f : Filter) (s : Subject) (untaggedPass : Bool) : Bool :=
  (f.verdict s).runs untaggedPass

end Filter

end Sieve
