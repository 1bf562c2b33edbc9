import Sieve.Text.Blank
import Sieve.Yaml.Comment
import Sieve.Yaml.Cursor

/-!
Comments and empty lines of specs, with their texts.
-/

namespace Sieve.Yaml

/-- Breaks and blanks on empty lines. -/
def emptyLines : (fuel : Nat) → Cursor → List Char × Cursor
  | 0, c => ([], c)
  | k + 1, c =>
    if isBreak c.char then
      let (b, c) := c.lineBreak
      let (l, c) := emptyLines k c
      (b ++ l, c)
    else if c.char = ' ' || c.char = '\t' then
      let (l, c') := emptyLines k c.next
      (c.char :: l, c')
    else ([], c)

/-- Breaks that follow each other. -/
def breaksAt : (fuel : Nat) → Cursor → List Char × Cursor
  | 0, c => ([], c)
  | k + 1, c =>
    if isBreak c.char then
      let (b, c) := c.lineBreak
      let (l, c) := breaksAt k c
      (b ++ l, c)
    else ([], c)

def commentAt (text : List Char) (m : Mark) : Comment := ⟨String.ofList text, some m⟩

/-- A comment with its line end and the breaks behind it. -/
def lineComment (c : Cursor) : Comment × Cursor :=
  let line := c.rest.takeWhile (!c.dialect.isEnd ·)
  let c' := c.forward line.length
  if c'.rest.isEmpty then (commentAt (line ++ ['\n']) c.mark, c')
  else
    let (breaks, c'') := breaksAt (c'.rest.length + 1) c'.next
    (commentAt (line ++ c'.char :: breaks) c.mark, c'')

/-- Empty lines; the blanks before a comment on the next line do not count. -/
def emptyComment (c : Cursor) : Comment × Cursor :=
  let (text, c') := emptyLines (c.rest.length + 1) c
  let text := if c'.char = '#' then Text.dropEndWhile (· ≠ '\n') text else text
  (commentAt text c.mark, c')

end Sieve.Yaml
