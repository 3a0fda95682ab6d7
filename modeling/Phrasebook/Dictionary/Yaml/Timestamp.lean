import Phrasebook.Arithmetic.Digits
import Phrasebook.Dictionary.LoadFault
import Phrasebook.Dictionary.Yaml.Cursor

/-!
# Dates and times in YAML

A date has a year, a month and a day. A time may follow after the letter `t` or after white space,
with a fraction of a second and a distance from UTC. Whether the parts are in their ranges shows
only once the value is made.
-/

set_option autoImplicit false

namespace Phrasebook.Yaml

open Arithmetic Calendar

-- powers as the core library has them
attribute [local instance (high)] instPowNat

/-- The parts of a date and time as they are written. -/
structure TimestampText where
  year : List Char
  month : List Char
  day : List Char
  /-- Hour, minute and second. -/
  clock : Option (List Char × List Char × List Char) := none
  fraction : List Char := []
  /-- The distance from UTC: the sign, and hours and minutes. Nothing stands for UTC itself. -/
  zone : Option (Option (Bool × List Char × List Char)) := none
  deriving Repr

namespace TimestampText

/-- From `least` to `most` digits, as many as there are. -/
def takeDigits (least most : Nat) (s : List Char) : Option (List Char × List Char) :=
  let ds := (s.take most).takeWhile Char.isDigit
  if ds.length < least then none else some (ds, s.drop ds.length)

/-- What follows a character. -/
def afterChar? (c : Char) : List Char → Option (List Char)
  | [] => none
  | d :: s => if c = d then some s else none

/-- A distance from UTC, if one stands here. -/
def readZone (s : List Char) : Option (Option (Option (Bool × List Char × List Char))) :=
  match s.dropWhile isSpace with
  | [] => if s.isEmpty then some none else none
  | ['Z'] => some (some none)
  | sign :: rest =>
    if sign = '+' ∨ sign = '-' then do
      let (hours, rest) ← takeDigits 1 2 rest
      match rest with
      | [] => return some (some (sign == '-', hours, []))
      | _ =>
        let (minutes, rest) ← takeDigits 2 2 (← afterChar? ':' rest)
        if rest.isEmpty then some (some (some (sign == '-', hours, minutes))) else none
    else none

/-- The parts of the date and time that a text is. -/
def read? (s : List Char) : Option TimestampText := do
  let (year, s) ← takeDigits 4 4 s
  let (month, s) ← takeDigits 1 2 (← afterChar? '-' s)
  let (day, s) ← takeDigits 1 2 (← afterChar? '-' s)
  if s.isEmpty then return { year, month, day }
  let s ←
    match s with
    | 'T' :: s => some s
    | 't' :: s => some s
    | c :: s => if isSpace c then some (s.dropWhile isSpace) else none
    | [] => none
  let (hour, s) ← takeDigits 1 2 s
  let (minute, s) ← takeDigits 2 2 (← afterChar? ':' s)
  let (second, s) ← takeDigits 2 2 (← afterChar? ':' s)
  let (fraction, s) := match s with
    | '.' :: s => (s.takeWhile Char.isDigit, s.dropWhile Char.isDigit)
    | _ => ([], s)
  let zone ← readZone s
  return { year, month, day, clock := some (hour, minute, second), fraction, zone }

/-- Whether a scalar without quotes is a date or time: a date alone needs two digits for its month
and two for its day. -/
def isPlain (t : TimestampText) : Bool :=
  t.clock.isSome || (t.month.length == 2 && t.day.length == 2)

/-- The number that digits spell. -/
def number (ds : List Char) : Nat :=
  ofDigits (ds.map fun c ↦ c.toNat - 0x30)

/-- The date, whose parts must be in their ranges. -/
def date (t : TimestampText) : Except ScalarFault Date :=
  let (year, month, day) := (number t.year, number t.month, number t.day)
  match Date.ofParts? year month day with
  | some d => .ok d
  | none =>
    .error <| .outOfRange <|
      if year = 0 then .year 0 else if month = 0 ∨ 12 < month then .month else .day

/-- The time of a clock reading, whose parts must be in their ranges. Digits of the fraction beyond
the sixth do not count. -/
def timeOfDay (clock : List Char × List Char × List Char) (fraction : List Char) :
    Except ScalarFault TimeOfDay :=
  let (hour, minute, second) := (number clock.1, number clock.2.1, number clock.2.2)
  let places := fraction.take 6
  match TimeOfDay.ofParts? hour minute second (number places * 10 ^ (6 - places.length)) with
  | some t => .ok t
  | none =>
    .error <| .outOfRange <| if 23 < hour then .hour else if 59 < minute then .minute else .second

/-- The distance from UTC, which must be less than a day. -/
def offset (sign : Bool × List Char × List Char) : Except ScalarFault Offset :=
  let n : Int := number sign.2.1 * 3600 + number sign.2.2 * 60
  let seconds := if sign.1 then -n else n
  match Offset.ofMicroseconds? (seconds * 1000000) with
  | some o => .ok o
  | none => .error (.farFromUtc seconds)

/-- The date, or the date and time, in ISO form. -/
def isoText (t : TimestampText) : Except ScalarFault String :=
  match t.clock with
  | none => t.date.map Date.isoText
  | some clock => do
    let offset ← match t.zone with
      | none => pure none
      | some none => pure (some Offset.utc)
      | some (some sign) => (offset sign).map some
    let date ← t.date
    let time ← timeOfDay clock t.fraction
    return (Moment.mk date time offset).isoText

end TimestampText

end Phrasebook.Yaml
