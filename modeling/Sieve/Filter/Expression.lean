import Sieve.Filter.Basic
import Sieve.Text.Blank

/-!
Filters as they are typed. A title expression is a list of words between semicolons; a tag
expression joins groups by plus signs, and a group lists alternatives between commas. A minus
sign in front negates, for tags wherever in a group it stands. Every text is an expression:
pieces without content are passed over.
-/

namespace Sieve

open Text

/-- One piece of an expression. -/
inductive Token where
  | positive (word : String)
  | negative (word : String)
deriving DecidableEq, Repr

namespace Token

/-- What a piece says once the blanks around it are gone, if it says anything. -/
def ofPiece? (piece : List Char) : Option Token :=
  match trim piece with
  | [] => none
  | '-' :: r =>
    match trim r with
    | [] => none
    | w => some (.negative (String.ofList w))
  | w => some (.positive (String.ofList w))

def positive? : Token → Option String
  | positive w => some w
  | negative _ => none

def negative? : Token → Option String
  | positive _ => none
  | negative w => some w

/-- The tokens between separators. -/
def between (sep : Char) (l : List Char) : List Token := (splitOn sep l).filterMap ofPiece?

end Token

/-- The title filter that an expression spells. -/
def TitleFilter.ofExpression (expression : String) : TitleFilter :=
  let tokens := Token.between ';' expression.toList
  { words := tokens.filterMap Token.positive?, negated := tokens.filterMap Token.negative? }

/-- The tokens of each group of a tag expression. -/
def TagFilter.tokenGroups (expression : String) : List (List Token) :=
  (splitOn '+' expression.toList).map (Token.between ',')

/-- The tag filter that an expression spells. A group without an alternative is no group. -/
def TagFilter.ofExpression (expression : String) : TagFilter :=
  let groups := TagFilter.tokenGroups expression
  { groups := (groups.map (·.filterMap Token.positive?)).filter (!·.isEmpty)
    inverted := groups.flatMap (·.filterMap Token.negative?) }

/-- The filter of two expressions; one that is missing spells nothing. -/
def Filter.ofExpressions (title tags : Option String) : Filter :=
  { title := .ofExpression (title.getD ""), tags := .ofExpression (tags.getD "") }

end Sieve
