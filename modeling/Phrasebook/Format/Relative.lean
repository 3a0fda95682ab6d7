import Phrasebook.Format.Fault
import Phrasebook.Locale.PluralCategory
import Phrasebook.Value

/-!
# Relative time

The distance between two moments is told in one unit: the largest in which it is not small. The
ladder climbs from seconds to years, and each step rounds the already rounded amount of the step
below, halves upward for either sign. The ladder takes its rounding division as a parameter; the
library divides doubles, which agrees with exact division as long as doubles hold the amounts.
-/

set_option autoImplicit false

namespace Phrasebook

open Arithmetic Calendar

/-- A unit of relative time. -/
inductive TimeUnit
  | second
  | minute
  | hour
  | day
  | week
  | month
  | year
  deriving DecidableEq, Repr

namespace TimeUnit

def word : TimeUnit → String
  | .second => "second"
  | .minute => "minute"
  | .hour => "hour"
  | .day => "day"
  | .week => "week"
  | .month => "month"
  | .year => "year"

/-- The seconds of a unit, a month having 30 days and a year 365. -/
def seconds : TimeUnit → Nat
  | .second => 1
  | .minute => 60
  | .hour => 3600
  | .day => 86400
  | .week => 604800
  | .month => 2592000
  | .year => 31536000

end TimeUnit

/-- Why a number of seconds cannot be rounded. -/
inductive RelativeFault
  /-- The number is undefined. -/
  | undefined
  /-- The number is infinite, or too large for a double. -/
  | tooLarge
  /-- What was given is neither a whole number nor a double. -/
  | unsuitable
  deriving DecidableEq, Repr

/-- The fault in words. -/
def RelativeFault.message : RelativeFault → String
  | .unsuitable => "a whole number or a double was expected"
  | .undefined => "cannot convert float NaN to integer"
  | .tooLarge => "cannot convert float infinity to integer"

namespace Relative

/-- Exact division rounded to the nearest whole number, halves upward. -/
def divideExact (n : Int) (d : Nat) : Int :=
  (2 * n + d).fdiv (2 * d)

/-- A half as a double. -/
def half : Binary64 := .ofQuotient false 1 2

/-- A double rounded to the nearest whole number, halves upward, after the half is added as a
double. -/
def roundDouble (x : Binary64) : Except RelativeFault Int :=
  match x.add half with
  | .nan => .error .undefined
  | y =>
    match y.floor? with
    | some n => .ok n
    | none => .error .tooLarge

/-- Division of whole numbers as doubles, rounded to a whole number. -/
def divideDouble (n : Int) (d : Nat) : Except RelativeFault Int :=
  match Binary64.ofFraction false n d with
  | .infinite _ => .error .tooLarge
  | x => roundDouble x

/-- The amount and the unit for a whole number of seconds. -/
def ladder {m : Type → Type} [Monad m] (divide : Int → Nat → m Int) (seconds : Int) :
    m (Int × TimeUnit) := do
  if seconds.natAbs < 60 then return (seconds, .second)
  let minutes ← divide seconds 60
  if minutes.natAbs < 60 then return (minutes, .minute)
  let hours ← divide minutes 60
  if hours.natAbs < 24 then return (hours, .hour)
  let days ← divide hours 24
  if days.natAbs < 7 then return (days, .day)
  let weeks ← divide days 7
  if weeks.natAbs < 4 then return (weeks, .week)
  let months ← divide days 30
  if months.natAbs < 12 then return (months, .month)
  return (← divide days 365, .year)

/-- The amount and the unit for a distance in seconds, which is rounded to whole seconds first. -/
def select (seconds : Binary64) : Except RelativeFault (Int × TimeUnit) := do
  ladder divideDouble (← roundDouble seconds)

/-- The same for a distance given as a whole number or a double. A truth value is one or zero. -/
def selectValue : Value → Except RelativeFault (Int × TimeUnit)
  | .number (.integer n) =>
    match Binary64.ofInt n with
    | .infinite _ => .error .tooLarge
    | x => select x
  | .number (.binary x) => select x
  | .boolean b => select (.ofInt (if b then 1 else 0))
  | _ => .error .unsuitable

end Relative

namespace Format

/-- The patterns of a unit in a style, or in the long style where the locale has none of its own. -/
def unitPatterns (table : List (String × RelativePatterns)) (unit : TimeUnit) (style : String) :
    Option RelativePatterns :=
  (table.lookup (unit.word ++ "-" ++ style)).or (table.lookup unit.word)

/-- An amount of a unit in the locale's words. -/
def amount (data : LocaleData) (n : Int) (unit : TimeUnit) (style : String) :
    Except FormatFault String := do
  if style ∉ ["narrow", "short", "medium", "long"] then .error .invalidPattern
  let style := if style = "medium" then "long" else style
  let patterns ← need .missingData (unitPatterns data.relative unit style)
  let direction := if 0 ≤ n then patterns.future else patterns.past
  if direction.isEmpty then .error .missingData
  let category ← arith (Plural.ofFinite (data.plurals .cardinal) (.integer n.natAbs))
  match (direction.lookup category.word).or (direction.lookup "other") with
  | some p => return p.before ++ toString n.natAbs ++ p.after
  | none => return ""

/-- A distance in microseconds in the locale's words. -/
def distance (micros : Int) (tag style : String) (book : LocaleBook) :
    Except FormatFault String := do
  let (n, unit) ← (Relative.select (.ofFraction false micros 1000000)).mapError
    fun _ ↦ FormatFault.unsuitableValue
  amount (← dataOf tag book) n unit style

/-- The present as a moment sees it: in its own distance from UTC, or on the wall clock of UTC for a
moment without one. -/
def presentFor (clock m : Moment) : Option Moment :=
  match m.offset with
  | some o => clock.inOffset? o
  | none => (clock.inOffset? .utc).map fun p ↦ { p with offset := none }

/-- The time between a moment and the present. -/
def relative (m : Moment) (tag style : String) (clock : Moment) (book : LocaleBook) :
    Except FormatFault String := do
  let present ← need .outsideCalendar (presentFor clock m)
  distance (← need .unsuitableValue (m.difference? present)) tag style book

/-- The time between a value and the present, or another value that stands for the present. Two
dates are as far apart as their midnights. -/
def relativeTo (v : Value) (tag style : String) (clock : Moment) (at? : Option Value)
    (book : LocaleBook := .tables) : Except FormatFault String := do
  match v, at? with
  | .moment m, none => relative m tag style clock book
  | _, none => .error .notAMoment
  | .moment m, some (.moment p) =>
    distance (← need .unsuitableValue (m.difference? p)) tag style book
  | .date d, some (.date e) =>
    distance (((d.ordinal : Int) - e.ordinal) * 86400000000) tag style book
  | _, _ => .error .unsuitableValue

end Format

end Phrasebook
