import Phrasebook.Locale.Basic

/-!
# What a locale says about dates
-/

set_option autoImplicit false

namespace Phrasebook

/-- Whether a name stands inside a date or alone. -/
inductive NameContext
  | format
  | standAlone
  deriving DecidableEq, Repr

/-- How long a name is. -/
inductive NameWidth
  | abbreviated
  | wide
  | narrow
  | short
  deriving DecidableEq, Repr

/-- When a day period holds, in seconds after midnight. -/
inductive PeriodTime
  | at (second : Nat)
  | span (first before : Nat)
  deriving DecidableEq, Repr

/-- A day period and the time that it names. -/
structure PeriodRule where
  period : String
  time : PeriodTime
  deriving DecidableEq, Repr

/-- How a locale counts weeks: the weekday that begins one, and the days that the first week of a
year has at least. -/
structure WeekRule where
  firstDay : Nat
  minDays : Nat
  deriving DecidableEq, Repr

/-- Where no other rule is known, a week begins on Monday and the week of 1 January is the first. -/
def WeekRule.standard : WeekRule := ⟨0, 1⟩

/-- Names by context and width, in their natural order. -/
abbrev NameTable := List ((NameContext × NameWidth) × List String)

/-- The date and time patterns and names of a locale; what is left out is not known. -/
structure CalendarNames where
  datePatterns : List (String × String) := []
  timePatterns : List (String × String) := []
  skeletons : List (String × String) := []
  months : NameTable := []
  days : NameTable := []
  quarters : NameTable := []
  eras : List (NameWidth × List String) := []
  dayPeriods : List ((NameContext × NameWidth) × List (String × String)) := []
  dayPeriodRules : List PeriodRule := []
  week : WeekRule := .standard
  deriving DecidableEq, Repr

end Phrasebook
