import Phrasebook.Value

/-!
# Formatters of the program

A program can add formatters of its own. A formatter gets the value, the locale and perhaps a style,
and gives a text or fails in its own way.
-/

set_option autoImplicit false

namespace Phrasebook

/-- How a function of the program failed: the program's name for this kind of failure, and its
words. -/
structure CallFault where
  kind : String
  text : String
  deriving DecidableEq, Repr

/-- A formatter of the program. -/
structure Formatter where
  /-- The name that the program itself has for it. -/
  ownName : String
  /-- The text for a value in a locale, and in a style if one is asked for. -/
  format : Value → String → Option String → Except CallFault String

end Phrasebook
