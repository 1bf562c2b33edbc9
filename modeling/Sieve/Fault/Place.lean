/-!
Messages that say where something is wrong.
-/

namespace Sieve

/-- A place in a file, as far as it is known. -/
structure Place where
  file : Option String
  line : Option Int
  column : Option Int
deriving DecidableEq, Repr

namespace Place

def unknown : Place := ⟨none, none, none⟩

/-- The known parts of a place; a file without a name is not known. -/
def parts (p : Place) : List String :=
  ((p.file.filter (!·.isEmpty)).map fun f => s!"File: {f}").toList ++
    (p.line.map fun n => s!"Line: {n}").toList ++
    (p.column.map fun n => s!"Column: {n}").toList

/-- The message behind the place. -/
def locate (p : Place) (message : String) : String :=
  if p.parts.isEmpty then message else ", ".intercalate p.parts ++ ": " ++ message

end Place

end Sieve
