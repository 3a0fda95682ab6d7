import Phrasebook.Format.Fault
import Phrasebook.Locale.DatePattern
import Phrasebook.Locale.Tables
import Phrasebook.Value

/-!
# Dates and times as a locale writes them

A date or a time is written by a pattern: one of the locale's four, the one that fits a skeleton
best, or a pattern of the caller. A pattern that asks for a part that is not there fails.
-/

set_option autoImplicit false

namespace Phrasebook

open Arithmetic Calendar

-- powers as the core library has them
attribute [local instance (high)] instPowNat

namespace Format

/-- What a date pattern is applied to: a date, a time, or both. -/
structure Occasion where
  date : Option Date
  time : Option TimeOfDay

/-- `n` in decimal with at least `width` digits. -/
def zeroPadded (width : Nat) (n : Nat) : List Char :=
  padZeros width (digits n)

namespace Occasion

def theDate (o : Occasion) : Except FormatFault Date :=
  need .unsuitableValue o.date

def theTime (o : Occasion) : Except FormatFault TimeOfDay :=
  need .unsuitableValue o.time

end Occasion

/-- The number of the week that day `day` of a period lies in, if the day is `weekday`. Days before
the first full week of the period are in week zero. -/
def weekNumber (r : WeekRule) (day weekday : Nat) : Nat :=
  let first := (((weekday : Int) - r.firstDay - day + 1) % 7).toNat
  (day + first - 1) / 7 + (if r.minDays ≤ 7 - first then 1 else 0)

/-- The weekday of 1 January of a year, if the calendar reaches it. -/
def newYearWeekday (year : Nat) : Except FormatFault Nat :=
  (need .unsuitableValue (Date.ofParts? year 1 1)).map Date.weekday

/-- The number of the week of the year. The days before week 1 are in the last week of the year
before, and the last days of a year may be in week 1 of the next. -/
def weekOfYear (r : WeekRule) (d : Date) : Except FormatFault Nat := do
  let week := weekNumber r d.dayOfYear d.weekday
  if week = 0 then
    let last ← need .unsuitableValue (Date.ofParts? (d.year - 1) 12 31)
    return weekNumber r last.dayOfYear last.weekday
  else if 52 < week then
    let weekday ← newYearWeekday (d.year + 1)
    let lead := (((weekday : Int) - r.firstDay) % 7).toNat
    return if weekNumber r 1 weekday = 1 ∧ 32 - lead ≤ d.day then 1 else week
  else return week

/-- The year, or the year that the week belongs to. -/
def writeYear (names : CalendarNames) (d : Date) (letter : Char) (n : Nat) :
    Except FormatFault (List Char) := do
  let year ←
    if letter ≠ 'Y' then pure d.year
    else if d.month = 1 ∧ d.day < 7 then do
      let week ← weekOfYear names.week d
      pure (if 52 ≤ week then d.year - 1 else d.year)
    else if d.month = 12 ∧ 25 < d.day then do
      let week ← weekOfYear names.week d
      pure (if week ≤ 2 then d.year + 1 else d.year)
    else pure d.year
  let text := zeroPadded n year
  return if n = 2 then text.drop (text.length - 2) else text

/-- The width of names for a run of the given length, at least three. -/
def nameWidth (n : Nat) : NameWidth :=
  if n ≤ 3 then .abbreviated else if n = 4 then .wide else if n = 5 then .narrow else .short

/-- The `i`-th name of a table. -/
def nameAt (table : NameTable) (context : NameContext) (width : NameWidth) (i : Nat) :
    Except FormatFault (List Char) := do
  let names ← need .missingData (table.lookup (context, width))
  return (← need .missingData names[i]?).toList

/-- The day period of a time: one that holds at just this second, else one whose span holds it, else
the half of the day. -/
def periodOf (rules : List PeriodRule) (second : Nat) : String :=
  let exactly := rules.find? fun r ↦ r.time == .at second
  let within := rules.find? fun r ↦ match r.time with
    | .at _ => false
    | .span first before => decide (first ≤ second) && decide (second < before)
  match exactly, within with
  | some r, _ => r.period
  | none, some r => r.period
  | none, none => if second < 43200 then "am" else "pm"

/-- The name of a day period, in the width asked for or else in any width that has one. -/
def writePeriod (names : CalendarNames) (context : NameContext) (n : Nat) (period : String) :
    Except FormatFault (List Char) := do
  let name (width : NameWidth) : Except FormatFault (Option String) := do
    return (← need .missingData (names.dayPeriods.lookup (context, width))).lookup period
  match ← name (nameWidth n) with
  | some s => return s.toList
  | none =>
    match ← name .wide with
    | some s => return s.toList
    | none =>
      match ← name .narrow with
      | some s => return s.toList
      | none => return (← need .missingData (← name .abbreviated)).toList

/-- The fraction of a second, rounded as a double to the number of digits. -/
def writeFraction (t : TimeOfDay) (n : Nat) : Except FormatFault (List Char) := do
  let rounded := (Binary64.ofQuotient false t.microsecond 1000000).roundPlaces n
  match Binary64.ofInt (10 ^ n : Nat) with
  | .infinite _ => .error .unsuitableValue
  | ten =>
    let whole ← need .unsuitableValue (rounded.mul ten).truncate?
    return zeroPadded n whole.toNat

/-- One part of a date or time. -/
def writeField (names : CalendarNames) (o : Occasion) (letter : Char) (n : Nat) :
    Except FormatFault (List Char) := do
  if letter = 'G' then
    let _ ← o.theDate
    let eras ← need .missingData (names.eras.lookup (nameWidth n))
    return (← need .missingData eras[1]?).toList
  else if letter = 'y' ∨ letter = 'Y' ∨ letter = 'u' then writeYear names (← o.theDate) letter n
  else if letter = 'Q' ∨ letter = 'q' then
    let quarter := ((← o.theDate).month - 1) / 3
    if n ≤ 2 then return zeroPadded n (quarter + 1)
    nameAt names.quarters (if letter = 'Q' then .format else .standAlone) (nameWidth n) quarter
  else if letter = 'M' ∨ letter = 'L' then
    let month := (← o.theDate).month
    if n ≤ 2 then return zeroPadded n month
    nameAt names.months (if letter = 'M' then .format else .standAlone) (nameWidth n) (month - 1)
  else if letter = 'w' then
    return zeroPadded n (← weekOfYear names.week (← o.theDate))
  else if letter = 'W' then
    let d ← o.theDate
    return digits (weekNumber names.week d.day d.weekday)
  else if letter = 'd' then return zeroPadded n (← o.theDate).day
  else if letter = 'D' then return zeroPadded n (← o.theDate).dayOfYear
  else if letter = 'F' then return digits (((← o.theDate).day - 1) / 7 + 1)
  else if letter = 'E' ∨ letter = 'e' ∨ letter = 'c' then
    let weekday := (← o.theDate).weekday
    if n < 3 ∧ letter ≠ 'E' then
      let first := names.week.firstDay
      return zeroPadded n ((7 - first + weekday) % 7 + 1)
    nameAt names.days (if letter = 'c' then .standAlone else .format) (nameWidth n) weekday
  else if letter = 'a' then
    writePeriod names .format n (if (← o.theTime).hour < 12 then "am" else "pm")
  else if letter = 'b' ∨ letter = 'B' then
    let period := periodOf names.dayPeriodRules (← o.theTime).seconds
    writePeriod names (if letter = 'B' then .format else .standAlone) n period
  else if letter = 'h' then
    let hour := (← o.theTime).hour % 12
    return zeroPadded n (if hour = 0 then 12 else hour)
  else if letter = 'H' then return zeroPadded n (← o.theTime).hour
  else if letter = 'K' then return zeroPadded n ((← o.theTime).hour % 12)
  else if letter = 'k' then
    let hour := (← o.theTime).hour
    return zeroPadded n (if hour = 0 then 24 else hour)
  else if letter = 'm' then return zeroPadded n (← o.theTime).minute
  else if letter = 's' then return zeroPadded n (← o.theTime).second
  else if letter = 'S' then writeFraction (← o.theTime) n
  else if letter = 'A' then return zeroPadded n ((← o.theTime).microseconds / 1000)
  -- the other letters name time zones, of which the library has no names
  else .error .missingData

/-- All pieces of a pattern. -/
def writeTokens (names : CalendarNames) (o : Occasion) : List DateToken →
    Except FormatFault (List Char)
  | [] => .ok []
  | .text s :: rest => (writeTokens names o rest).map (s ++ ·)
  | .field c n :: rest => do
    let s ← writeField names o c n
    return s ++ (← writeTokens names o rest)

/-- The pieces of a pattern, whose runs of letters must have lengths that mean something. -/
def readPattern (pattern : String) : Except FormatFault (List DateToken) :=
  let tokens := DateToken.ofPattern pattern.toList
  if tokens.all DateToken.isValid then .ok tokens else .error .invalidPattern

/-- A date or time in a pattern. -/
def writePattern (names : CalendarNames) (o : Occasion) (pattern : String) :
    Except FormatFault String := do
  return String.ofList (← writeTokens names o (← readPattern pattern))

namespace Skeleton

/-- The length of the last run of a letter, or zero. -/
def lengthOf (tokens : List DateToken) (c : Char) : Nat :=
  tokens.foldl (fun n t ↦ match t with
    | .field d m => if d = c then m else n
    | .text _ => n) 0

/-- The distance of two lengths of a letter; none if only one of the skeletons has the letter. A
month as a number is far from a month as a name. -/
def letterDistance (c : Char) (a b : Nat) : Option Nat :=
  if a = b then some 0
  else if a = 0 ∨ b = 0 then none
  else if c = 'M' ∧ ((2 < a ∧ b ≤ 2) ∨ (a ≤ 2 ∧ 2 < b)) then some 256
  else some (if a < b then b - a else a - b)

/-- The distance of two skeletons with the same letters. -/
def distance (a b : List DateToken) : Option Nat :=
  DateToken.letters.foldl (fun total l ↦ do
    let n ← total
    return n + (← letterDistance l.1 (lengthOf a l.1) (lengthOf b l.1))) (some 0)

/-- The first of the nearest skeletons. -/
def nearest (wanted : List DateToken) : List String → Option (Nat × String)
  | [] => none
  | s :: rest =>
    let best := nearest wanted rest
    match distance wanted (DateToken.ofPattern s.toList) with
    | none => best
    | some n =>
      match best with
      | some (m, t) => if n ≤ m then some (n, s) else some (m, t)
      | none => some (n, s)

/-- Replaces a letter that no skeleton of the locale has. -/
def replaceUnknown (known : List String) (c : Char) (substitute s : List Char) : List Char :=
  if known.any fun k ↦ k.toList.contains c then s
  else s.flatMap fun d ↦ if d = c then substitute else [d]

/-- The skeleton of the locale that is nearest to the one that is wanted. -/
def choose (known : List String) (wanted : List Char) : Option String :=
  let known := (known.filter fun k ↦ !k.isEmpty).mergeSort fun a b ↦ decide (a ≤ b)
  let wanted := replaceUnknown known 'z' ['v'] wanted
  let wanted := replaceUnknown known 'k' ['H'] wanted
  let wanted := replaceUnknown known 'K' ['h'] wanted
  let wanted := replaceUnknown known 'a' [] wanted
  let wanted := replaceUnknown known 'b' [] wanted
  (nearest (DateToken.ofPattern wanted) known).map Prod.snd

end Skeleton

/-- The pattern of a skeleton, or of the nearest one that the locale has. -/
def skeletonPattern (names : CalendarNames) (skeleton : String) : Except FormatFault String := do
  match names.skeletons.lookup skeleton with
  | some pattern => return pattern
  | none =>
    let known := names.skeletons.map Prod.fst
    let chosen ← need .missingData (Skeleton.choose known skeleton.toList)
    need .missingData (names.skeletons.lookup chosen)

/-- The pattern of a style: one of the locale's, or the style itself. -/
def patternOf (patterns : List (String × String)) (style : String) : Except FormatFault String :=
  if style ∈ ["full", "long", "medium", "short"] then need .missingData (patterns.lookup style)
  else .ok style

/-- The style to use; nothing and the empty text mean the medium one. -/
def styleOr (style : Option String) : String :=
  match style with
  | some s => if s = "" then "medium" else s
  | none => "medium"

/-- The whole seconds since the epoch that a number or a truth value is. -/
def wholeSeconds? : Value → Option Int
  | .number (.integer n) => some n
  | .number (.binary x) => x.truncate?
  | .boolean b => some (if b then 1 else 0)
  | _ => none

/-- Whether the year that so many seconds since the epoch lead to fits 32 bits as a number of years
since 1900. Only counts that fit 64 bits lead to a year at all. -/
def hasYear (seconds : Int) : Bool :=
  let fits := decide (-(2 ^ (63 : Nat)) ≤ seconds) && decide (seconds < 2 ^ (63 : Nat))
  !fits || (decide (-67768040609740800 ≤ seconds) && decide (seconds ≤ 67768036191676799))

/-- The moment in UTC that a number of seconds since the epoch is. -/
def momentOfSeconds (v : Value) : Except FormatFault Moment := do
  let seconds ← need .unsuitableValue (wholeSeconds? v)
  if !hasYear seconds then .error .outsideClock
  need .unsuitableValue <| match v with
    | .number (.binary x) => Moment.ofSeconds? x
    | _ => Moment.ofSeconds? (.ofInt seconds)

/-- Both date and time of a value; a date stands for its midnight and a number for epoch seconds. -/
def bothOf (v : Value) : Except FormatFault Occasion :=
  match v with
  | .moment m => .ok ⟨some m.date, some m.time⟩
  | .date d => .ok ⟨some d, some .midnight⟩
  | _ => (momentOfSeconds v).map fun m ↦ ⟨some m.date, some m.time⟩

/-- The time of day of a value; a number stands for epoch seconds. -/
def timeOf (v : Value) : Except FormatFault TimeOfDay :=
  match v with
  | .moment m => .ok m.time
  | _ => (momentOfSeconds v).map Moment.time

/-- A date and time in the pattern of a skeleton. -/
def writeSkeleton (names : CalendarNames) (v : Value) (skeleton : String) :
    Except FormatFault String := do
  let pattern ← skeletonPattern names skeleton
  writePattern names (← bothOf v) pattern

/-- A date in a style, or by a skeleton, which counts when it is not empty. -/
def date (v : Value) (tag : String) (style skeleton : Option String)
    (book : LocaleBook := .tables) : Except FormatFault String := do
  let names := (← dataOf tag book).calendar
  match skeleton with
  | some s =>
    if s ≠ "" then writeSkeleton names v s else plain names
  | none => plain names
where
  plain (names : CalendarNames) : Except FormatFault String := do
    let pattern ← patternOf names.datePatterns (styleOr style)
    let tokens ← readPattern pattern
    let d ← match v with
      | .moment m => pure m.date
      | .date d => pure d
      | _ => .error .notADate
    return String.ofList (← writeTokens names ⟨some d, none⟩ tokens)

/-- A time in a style, or by a skeleton, which counts when it is not empty. -/
def time (v : Value) (tag : String) (style skeleton : Option String)
    (book : LocaleBook := .tables) : Except FormatFault String := do
  let names := (← dataOf tag book).calendar
  match skeleton with
  | some s =>
    if s ≠ "" then writeSkeleton names v s else plain names
  | none => plain names
where
  plain (names : CalendarNames) : Except FormatFault String := do
    let t ← timeOf v
    writePattern names ⟨none, some t⟩ (← patternOf names.timePatterns (styleOr style))

end Format

end Phrasebook
