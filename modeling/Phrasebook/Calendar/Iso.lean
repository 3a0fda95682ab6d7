import Phrasebook.Calendar.Moment
import Phrasebook.Text.Character

/-!
# Reading moments in ISO 8601 form

A date is given by month and day or by week and weekday, with hyphens or without. Any one character
may stand before the time, which may stop after the hour or the minute, may leave out its colons,
and may end with a fraction and a distance from UTC. Lengths are measured in UTF-8, because the
place of the time is found by counting.
-/

set_option autoImplicit false

namespace Phrasebook.Calendar

open Arithmetic Text

-- powers as the core library has them
attribute [local instance (high)] instPowNat

namespace Iso

/-- The number that exactly `n` ASCII digits spell, and what follows them. -/
def takeNumber (n : Nat) (s : List Char) : Option (Nat × List Char) :=
  let ds := s.take n
  if ds.length = n ∧ ds.all Char.isDigit then
    some (ofDigits (ds.map fun c ↦ c.toNat - 48), s.drop n)
  else none

/-- One character for every byte of the text in UTF-8. -/
def bytes (s : List Char) : List Char :=
  s.flatMap fun c ↦ List.replicate c.utf8Size c

/-- Where a date in this text would end. A week may be followed by a weekday, so it needs a look at
what comes after it. -/
def dateLength (s : List Char) : Nat :=
  let digitAt (i : Nat) : Bool := (s[i]?.map Char.isDigit).getD false
  if s.length = 7 then 7
  else if s[4]? = some '-' then
    if s[5]? = some 'W' then
      if s[8]? = some '-' then
        if digitAt 10 then 8 else 10
      else 8
    else 10
  else if s[4]? = some 'W' then
    let run := 7 + ((s.drop 7).takeWhile Char.isDigit).length
    if run < 9 then run else if run % 2 = 0 then 7 else 8
  else 8

/-- What follows the hyphen before a part of a date, in a date with hyphens; other dates have
none. -/
def afterHyphen? (hyphens : Bool) (s : List Char) : Option (List Char) :=
  if !hyphens then some s
  else if s.head? = some '-' then some s.tail
  else none

/-- The date in the first `length` characters of the text. -/
def readDate? (s : List Char) (length : Nat) : Option Date := do
  let (year, rest) ← takeNumber 4 s
  let hyphens := rest.head? = some '-'
  let rest := if hyphens then rest.tail else rest
  if rest.head? = some 'W' then
    let (week, rest) ← takeNumber 2 rest.tail
    if s.length - rest.length < length then
      let rest ← afterHyphen? hyphens rest
      let (day, _) ← takeNumber 1 rest
      Date.ofWeek? year week day
    else Date.ofWeek? year week 1
  else
    let (month, rest) ← takeNumber 2 rest
    let rest ← afterHyphen? hyphens rest
    let (day, rest) ← takeNumber 2 rest
    if s.length - rest.length = length then Date.ofParts? year month day else none

/-- Hour, minute, second and microsecond as written, not yet checked for their ranges. -/
structure Fields where
  hour : Nat := 0
  minute : Nat := 0
  second : Nat := 0
  microsecond : Nat := 0

/-- Reads the digits of a fraction. Digits beyond the sixth are skipped; the flag tells whether
something else follows. -/
def readFraction? (f : Fields) (s : List Char) (followed : Bool) : Option (Fields × Bool) := do
  let count := min 6 s.length
  let (n, rest) ← takeNumber count s
  let rest := rest.dropWhile Char.isDigit
  some ({ f with microsecond := n * 10 ^ (6 - count) }, !rest.isEmpty || followed)

/-- Reads two digits at a time into the fields left in `todo`. `colons` is known after the hour. The
flag of the result tells whether something follows the time, be it in this text or after it. -/
def readFields? (f : Fields) (colons : Option Bool) (s : List Char) (followed : Bool) :
    List (Nat → Fields → Fields) → Option (Fields × Bool)
  | [] => readFraction? f s followed
  | set :: todo => do
    let (n, rest) ← takeNumber 2 s
    let f := set n f
    match rest with
    | [] => some (f, followed)
    | [_] => some (f, true)
    | c :: more =>
      let colons := colons.getD (c == ':')
      if colons && c == ':' then readFields? f (some colons) more followed todo
      else if c = '.' ∨ c = ',' then readFraction? f more followed
      else if !colons then readFields? f (some colons) rest followed todo
      else none

/-- Reads a time of day or a distance from UTC. -/
def readClock? (s : List Char) (followed : Bool) : Option (Fields × Bool) :=
  readFields? {} none s followed
    [fun n f ↦ { f with hour := n }, fun n f ↦ { f with minute := n },
      fun n f ↦ { f with second := n }]

/-- Reads a distance from UTC: `Z`, or a sign and a clock reading. -/
def readOffset? : List Char → Option Offset
  | 'Z' :: rest => if rest.isEmpty then some .utc else none
  | sign :: rest => do
    let (f, more) ← readClock? rest false
    if more then none
    else
      let seconds := f.hour * 3600 + f.minute * 60 + f.second
      -- a distance without whole seconds is no distance
      if seconds = 0 then some .utc
      else
        let n : Int := seconds * 1000000 + f.microsecond
        Offset.ofMicroseconds? (if sign = '-' then -n else n)
  | [] => none

/-- Reads the time of day and the distance from UTC that may follow it. -/
def readTime? (s : List Char) : Option (TimeOfDay × Option Offset) := do
  let isZone (c : Char) : Bool := c == '+' || c == '-' || c == 'Z'
  let clock := s.takeWhile fun c ↦ !isZone c
  let zone := s.dropWhile fun c ↦ !isZone c
  let (f, more) ← readClock? clock (!zone.isEmpty)
  let offset ← if zone.isEmpty then (if more then none else some none)
    else (readOffset? zone).map some
  let time ← TimeOfDay.ofParts? f.hour f.minute f.second f.microsecond
  some (time, offset)

end Iso

/-- The moment that a text gives in ISO 8601 form. -/
def Moment.ofIso? (s : List Char) : Option Moment := do
  let s := Iso.bytes s
  if s.length < 7 then none
  else
    let length := Iso.dateLength s
    let date ← Iso.readDate? s length
    let rest := s.drop length
    if rest.isEmpty then some ⟨date, .midnight, none⟩
    else
      let (time, offset) ← Iso.readTime? (rest.drop ((rest.head?.map Char.utf8Size).getD 1))
      some ⟨date, time, offset⟩

/-- The date that a text gives in ISO 8601 form. -/
def Date.ofIso? (s : List Char) : Option Date :=
  Iso.readDate? s s.length

end Phrasebook.Calendar
