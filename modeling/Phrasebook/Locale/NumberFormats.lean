import Phrasebook.Locale.Basic

/-!
# What a locale says about numbers
-/

set_option autoImplicit false

namespace Phrasebook

/-- The signs that a locale writes numbers with. -/
structure NumberSymbols where
  decimal : String
  group : String
  minusSign : String
  plusSign : String
  exponential : String
  infinity : String
  deriving DecidableEq, Repr

/-- The symbols and patterns of a locale. A currency without a symbol shows its code. -/
structure NumberFormats where
  symbols : NumberSymbols
  decimal : String
  percent : String
  currency : String
  currencySymbols : List (String × String) := []
  deriving DecidableEq, Repr

/-- Compact patterns by plural form and magnitude. -/
abbrev CompactPatterns := List (String × List (Nat × String))

end Phrasebook
