import Sieve.Yaml.Fault

/-!
Comments of specs. Each belongs to a token: it stands behind it on its line, or before it. A token
that is no part of the tree hands its comments on to the next one, which cannot take a second
comment of the same place.
-/

namespace Sieve.Yaml

/-- A comment, or empty lines. One in the header of a block scalar has no place of its own. -/
structure Comment where
  text : String
  start : Option Mark
deriving DecidableEq, Repr

/-- The comments of a token. -/
structure Comments where
  behind : Option Comment
  before : List Comment
  /-- The comment behind a colon from which these were handed on. -/
  colon : Option (Option Comment)
deriving DecidableEq, Repr

namespace Comment

def shown (c : Comment) : String :=
  match c.start with
  | some m => s!"CommentToken({Text.quoted c.text}, line: {m.line}, col: {m.column})"
  | none => Text.quoted c.text

def shownOption (c : Option Comment) : String := (c.map shown).getD "None"

/-- Several comments as one, each further one at its column. -/
def joined (c : Comment) (l : List Comment) : Comment :=
  let texts := l.map fun d =>
    String.ofList (List.replicate ((d.start.map (·.column)).getD 0) ' ') ++ d.text
  { c with text := String.join (c.text :: texts) }

end Comment

namespace Comments

def ofBehind (c : Comment) : Comments := ⟨some c, [], none⟩

def shown (c : Comments) : String :=
  let before :=
    if c.before.isEmpty then "None"
    else
      let items := ", ".intercalate (c.before.map Comment.shown)
      s!"[{items}]"
  let rest :=
    match c.colon with
    | some d => ["None", "None", Comment.shownOption d]
    | none => []
  let parts := ", ".intercalate ([Comment.shownOption c.behind, before] ++ rest)
  s!"[{parts}]"

/-- The same comments, but another one behind the token. -/
def withBehind (c : Comments) (d : Comment) : Comments := { c with behind := some d }

/-- The comments before a token besides those that it has. -/
def withBefore? (c : Option Comments) (l : List Comment) : Option Comments :=
  match c with
  | none => some ⟨none, l, none⟩
  | some c => if c.before.isEmpty then some { c with before := l } else none

/-- Both have a comment of the same place. -/
def overlaps (c d : Comments) : Bool :=
  (c.behind.isSome && d.behind.isSome) || (!c.before.isEmpty && !d.before.isEmpty)

/-- The comments of a token once those of an earlier one, perhaps a colon, have come to it. -/
def handedTo (c : Comments) (isColon : Bool) : Option Comments → Except Fault Comments
  | none => .ok (if isColon then { c with colon := some c.behind } else c)
  | some d =>
    if c.overlaps d then
      .error (.failed .comment s!"overlap in comment {c.shown} {d.shown}")
    else
      .ok { d with behind := c.behind <|> d.behind,
                   before := if c.before.isEmpty then d.before else c.before }

end Comments

end Sieve.Yaml
