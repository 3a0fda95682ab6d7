import Phrasebook.Arithmetic.Digits
import Phrasebook.Calendar.Date

/-!
# Moments

A moment is a date and a time of day, with or without the distance of its local time from UTC. Two
moments are comparable when both have that distance or neither has.
-/

set_option autoImplicit false

namespace Phrasebook.Calendar

open Arithmetic

/-- A time of day to the microsecond. -/
structure TimeOfDay where
  hour : Nat
  minute : Nat
  second : Nat
  microsecond : Nat
  valid : hour < 24 ∧ minute < 60 ∧ second < 60 ∧ microsecond < 1000000
  deriving DecidableEq

namespace TimeOfDay

/-- The time with these parts, if there is one. -/
def ofParts? (hour minute second microsecond : Nat) : Option TimeOfDay :=
  if h : hour < 24 ∧ minute < 60 ∧ second < 60 ∧ microsecond < 1000000 then
    some ⟨hour, minute, second, microsecond, h⟩
  else none

def midnight : TimeOfDay := ⟨0, 0, 0, 0, by decide⟩

instance : Inhabited TimeOfDay := ⟨midnight⟩

/-- Whole seconds since midnight. -/
def seconds (t : TimeOfDay) : Nat :=
  t.hour * 3600 + t.minute * 60 + t.second

/-- Microseconds since midnight. -/
def microseconds (t : TimeOfDay) : Nat :=
  t.seconds * 1000000 + t.microsecond

/-- The time so many microseconds after midnight, less whole days. -/
def ofMicroseconds (n : Nat) : TimeOfDay :=
  let s := n / 1000000 % 86400
  ⟨s / 3600, s / 60 % 60, s % 60, n % 1000000, by omega⟩

end TimeOfDay

/-- A distance from UTC in microseconds, less than a day either way. -/
structure Offset where
  microseconds : Int
  valid : microseconds.natAbs < 86400000000
  deriving DecidableEq

namespace Offset

def utc : Offset := ⟨0, by decide⟩

def ofMicroseconds? (n : Int) : Option Offset :=
  if h : n.natAbs < 86400000000 then some ⟨n, h⟩ else none

end Offset

/-- A date and time, with the distance of local time from UTC when it is known. -/
structure Moment where
  date : Date
  time : TimeOfDay
  offset : Option Offset
  deriving DecidableEq, Inhabited

/-- `n` in decimal with at least `width` digits. -/
def padded (width n : Nat) : String :=
  String.ofList (padZeros width (digits n))

/-- A date in ISO form. -/
def Date.isoText (d : Date) : String :=
  padded 4 d.year ++ "-" ++ padded 2 d.month ++ "-" ++ padded 2 d.day

/-- A time in ISO form, with a fraction only where one is needed. -/
def TimeOfDay.isoText (t : TimeOfDay) : String :=
  padded 2 t.hour ++ ":" ++ padded 2 t.minute ++ ":" ++ padded 2 t.second ++
    (if t.microsecond = 0 then "" else "." ++ padded 6 t.microsecond)

/-- A distance from UTC in ISO form, with seconds and a fraction only where these are needed. -/
def Offset.isoText (o : Offset) : String :=
  let n := o.microseconds.natAbs
  let s := n / 1000000
  let fraction := if n % 1000000 = 0 then "" else "." ++ padded 6 (n % 1000000)
  (if o.microseconds < 0 then "-" else "+") ++
    padded 2 (s / 3600) ++ ":" ++ padded 2 (s / 60 % 60) ++
    (if s % 60 = 0 ∧ n % 1000000 = 0 then "" else ":" ++ padded 2 (s % 60) ++ fraction)

namespace Moment

/-- The moment in ISO form. -/
def isoText (m : Moment) : String :=
  m.date.isoText ++ "T" ++ m.time.isoText ++ (m.offset.map Offset.isoText).getD ""

/-- Microseconds of the local clock since the start of the calendar. -/
def localMicroseconds (m : Moment) : Int :=
  (m.date.ordinal : Int) * 86400000000 + m.time.microseconds

/-- The time from `b` to `a` in microseconds, if both or neither know their distance from UTC. -/
def difference? (a b : Moment) : Option Int :=
  match a.offset, b.offset with
  | none, none => some (a.localMicroseconds - b.localMicroseconds)
  | some x, some y =>
    some ((a.localMicroseconds - x.microseconds) - (b.localMicroseconds - y.microseconds))
  | _, _ => none

/-- The moment so many microseconds of local time after the start of the calendar. -/
def ofLocalMicroseconds? (n : Int) (offset : Option Offset) : Option Moment :=
  if n < 0 then none
  else (Date.ofOrdinal? (n.toNat / 86400000000)).map fun d ↦
    ⟨d, .ofMicroseconds (n.toNat % 86400000000), offset⟩

/-- The same instant on the local clock of another distance from UTC. -/
def inOffset? (m : Moment) (o : Offset) : Option Moment :=
  let utc := m.localMicroseconds - (m.offset.map Offset.microseconds).getD 0
  ofLocalMicroseconds? (utc + o.microseconds) (some o)

end Moment

end Phrasebook.Calendar
