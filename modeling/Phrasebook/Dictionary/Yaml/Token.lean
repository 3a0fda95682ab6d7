/-!
# Tokens of YAML

The tokens of a document. Indentation is told by tokens too: a collection in block style has a token
where it begins and one where the indentation falls back.
-/

set_option autoImplicit false

namespace Phrasebook.Yaml

/-- A line at the head of a document that begins with a percent sign. -/
inductive Directive
  | version (major : Nat)
  /-- A handle, and what tags with it begin with. -/
  | tag (handle start : String)
  | other
  deriving DecidableEq, Repr

/-- A tag as it is written: a handle and a name, or a name alone. -/
structure TagText where
  handle : Option String
  name : String
  deriving DecidableEq, Repr

/-- A token. -/
inductive Token
  | directive (d : Directive)
  | documentStart
  | documentEnd
  | blockSequenceStart
  | blockMappingStart
  | blockEnd
  | flowSequenceStart
  | flowSequenceEnd
  | flowMappingStart
  | flowMappingEnd
  | blockEntry
  | flowEntry
  | key
  | value
  | alias (name : String)
  | anchor (name : String)
  | tag (t : TagText)
  /-- A scalar, with whether it stands without quotes. -/
  | scalar (text : List Char) (plain : Bool)
  deriving DecidableEq, Repr

end Phrasebook.Yaml
