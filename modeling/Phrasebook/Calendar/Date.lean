/-!
# Calendar dates

The proleptic Gregorian calendar from year 1 to year 9999. A date is counted from 1 January of year
1, which has ordinal 1 and was a Monday; weekdays are numbered from Monday, which is 0.
-/

set_option autoImplicit false

namespace Phrasebook.Calendar

-- an empty sum as the core library has it
attribute [local instance (high)] Zero.ofOfNat0

/-- Whether the year has a 29 February. -/
def isLeap (y : Nat) : Bool :=
  y % 4 == 0 && (y % 100 != 0 || y % 400 == 0)

/-- The number of days of a month. -/
def daysInMonth (y m : Nat) : Nat :=
  if m = 2 then (if isLeap y then 29 else 28)
  else if m = 4 ∨ m = 6 ∨ m = 9 ∨ m = 11 then 30
  else 31

/-- The number of days before 1 January of year `y`. -/
def daysBeforeYear (y : Nat) : Nat :=
  (y - 1) * 365 + (y - 1) / 4 - (y - 1) / 100 + (y - 1) / 400

/-- The number of days of the year before the first of month `m`. -/
def daysBeforeMonth (y m : Nat) : Nat :=
  ((List.range (m - 1)).map fun i ↦ daysInMonth y (i + 1)).sum

/-- What makes three numbers a date. -/
def ValidDate (year month day : Nat) : Prop :=
  1 ≤ year ∧ year ≤ 9999 ∧ 1 ≤ month ∧ month ≤ 12 ∧ 1 ≤ day ∧ day ≤ daysInMonth year month

instance (year month day : Nat) : Decidable (ValidDate year month day) :=
  inferInstanceAs (Decidable (_ ∧ _))

/-- A date of the calendar. -/
structure Date where
  year : Nat
  month : Nat
  day : Nat
  valid : ValidDate year month day
  deriving DecidableEq

namespace Date

/-- The date with these parts, if there is one. -/
def ofParts? (year month day : Nat) : Option Date :=
  if h : ValidDate year month day then some ⟨year, month, day, h⟩ else none

/-- 1 January of year 1. -/
def first : Date := ⟨1, 1, 1, by decide⟩

instance : Inhabited Date := ⟨first⟩

/-- The day of the year, from 1. -/
def dayOfYear (d : Date) : Nat :=
  daysBeforeMonth d.year d.month + d.day

/-- The day count from 1 January of year 1, which is day 1. -/
def ordinal (d : Date) : Nat :=
  daysBeforeYear d.year + d.dayOfYear

/-- The day of the week, from 0 for Monday. -/
def weekday (d : Date) : Nat :=
  (d.ordinal + 6) % 7

/-- The year that holds day `n`, by the lengths of 400, 100, 4 and 1 years. -/
def yearOfOrdinal (n : Nat) : Nat :=
  let d := n - 1
  let n400 := d / 146097
  let d := d % 146097
  let n100 := min (d / 36524) 3
  let d := d - n100 * 36524
  let n4 := d / 1461
  let d := d % 1461
  let n1 := min (d / 365) 3
  400 * n400 + 100 * n100 + 4 * n4 + n1 + 1

/-- The date with ordinal `n`, if it lies in the calendar. -/
def ofOrdinal? (n : Nat) : Option Date :=
  if n = 0 then none
  else
    let y := yearOfOrdinal n
    let rest := n - daysBeforeYear y
    let m := ((List.range 12).filter fun i ↦ decide (daysBeforeMonth y (i + 1) < rest)).length
    ofParts? y m (rest - daysBeforeMonth y m)

/-- The ordinal of the Monday that begins week 1 of a year: the week with its first Thursday. -/
def firstMonday (year : Nat) : Int :=
  let newYear : Int := daysBeforeYear year + 1
  let weekday := (newYear + 6) % 7
  if 3 < weekday then newYear - weekday + 7 else newYear - weekday

/-- The date of a weekday (1 for Monday to 7) in a numbered week of a year. -/
def ofWeek? (year week day : Nat) : Option Date :=
  let newYear : Int := daysBeforeYear year + 1
  let weekday := (newYear + 6) % 7
  let long := weekday = 3 ∨ (weekday = 2 ∧ isLeap year)
  if year = 0 ∨ week = 0 ∨ 53 < week ∨ (week = 53 ∧ ¬ long) ∨ day = 0 ∨ 7 < day then none
  else
    let n := firstMonday year + (week - 1) * 7 + day - 1
    if n ≤ 0 then none else ofOrdinal? n.toNat

end Date

end Phrasebook.Calendar
