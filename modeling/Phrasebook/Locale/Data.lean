import Phrasebook.Locale.CalendarNames
import Phrasebook.Locale.NumberFormats
import Phrasebook.Locale.Plural

/-!
# The data of locales

All that differs from locale to locale comes from data that the library is given: it says how a
locale counts and how it writes numbers, lists, dates and distances in time. The library works with
any such data; `LocaleBook.tables` is the data that it is run with.
-/

set_option autoImplicit false

namespace Phrasebook

/-- How two texts are joined: what stands before, between and after them. -/
structure JoinPattern where
  before : String
  between : String
  after : String
  deriving DecidableEq, Repr

/-- What stands before and after an amount. -/
structure AmountPattern where
  before : String
  after : String
  deriving DecidableEq, Repr

/-- Amount patterns by plural form, for moments to come and for past ones. -/
structure RelativePatterns where
  future : List (String × AmountPattern)
  past : List (String × AmountPattern)
  deriving DecidableEq, Repr

/-- Join patterns by style of the list and place in it (`start`, `middle`, `end`, or `2` for a list
of two). -/
abbrev ListPatterns := List (String × List (String × JoinPattern))

/-- Amount patterns by unit, a unit name being followed by `-short` or `-narrow` for the shorter
styles. -/
abbrev UnitPatterns := List (String × RelativePatterns)

/-- What there is to know of a locale. -/
structure LocaleData where
  /-- The rules by which it counts and by which it ranks; without rules all numbers are alike. -/
  plurals : PluralKind → Plural.Rules
  numbers : NumberFormats
  /-- Compact patterns by length of the display. -/
  compact : List (String × CompactPatterns)
  lists : ListPatterns
  calendar : CalendarNames
  relative : UnitPatterns

/-- The data of every locale. -/
structure LocaleBook where
  data : Locale → LocaleData

end Phrasebook
