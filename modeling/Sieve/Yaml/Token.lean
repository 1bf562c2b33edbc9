import Sieve.Yaml.Comment

/-!
The tokens of a YAML text.
-/

namespace Sieve.Yaml

/-- How a scalar is written. -/
inductive Style where
  | plain
  | single
  | double
  | literal
  | folded
deriving DecidableEq, Repr

inductive Directive where
  | version (major minor : Nat)
  | tag (handle start : String)
  | other (name : String)
deriving DecidableEq, Repr

inductive Token.Kind where
  | streamStart
  | streamEnd
  | directive (d : Directive)
  | documentStart
  | documentEnd
  | blockSequenceStart
  | blockMappingStart
  | blockEnd
  | flowSequenceStart
  | flowSequenceEnd
  | flowMappingStart
  | flowMappingEnd
  | key
  | value
  | blockEntry
  | flowEntry
  | reference (name : String)
  | anchor (name : String)
  | tag (handle : Option String) (suffix : String)
  | scalar (text : String) (style : Style)
  /-- A comment, or empty lines, where these are kept. -/
  | comment (text : String)
deriving DecidableEq, Repr

structure Token where
  kind : Token.Kind
  start : Mark
  finish : Mark
  comments : Option Comments
deriving DecidableEq, Repr

/-- The name by which messages speak of a token. -/
def Token.Kind.label : Token.Kind → String
  | streamStart => "<stream start>"
  | streamEnd => "<stream end>"
  | directive _ => "<directive>"
  | documentStart => "<document start>"
  | documentEnd => "<document end>"
  | blockSequenceStart => "<block sequence start>"
  | blockMappingStart => "<block mapping start>"
  | blockEnd => "<block end>"
  | flowSequenceStart => "["
  | flowSequenceEnd => "]"
  | flowMappingStart => "\x7b"
  | flowMappingEnd => "\x7d"
  | key => "?"
  | value => ":"
  | blockEntry => "-"
  | flowEntry => ","
  | reference _ => "<alias>"
  | anchor _ => "<anchor>"
  | tag _ _ => "<tag>"
  | scalar _ _ => "<scalar>"
  | comment _ => "<comment>"

end Sieve.Yaml
