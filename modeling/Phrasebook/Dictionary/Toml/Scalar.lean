import Phrasebook.Calendar.Iso
import Phrasebook.Dictionary.Basic
import Phrasebook.Dictionary.LoadFault

/-!
# Numbers, dates and words in TOML

Numbers may have single underscores between their digits. A date, a time of day, or both together
are values of their own.
-/

set_option autoImplicit false

namespace Phrasebook.Toml

open Calendar Text

-- powers as the core library has them
attribute [local instance (high)] instPowNat

/-! ## Numbers -/

/-- Digits after a first one, which single underscores may separate, and what follows them. -/
def moreDigits (isDigit : Char → Bool) : List Char → List Char × List Char
  | '_' :: c :: s =>
    if isDigit c then
      let r := moreDigits isDigit s
      (c :: r.1, r.2)
    else ([], '_' :: c :: s)
  | c :: s =>
    if isDigit c then
      let r := moreDigits isDigit s
      (c :: r.1, r.2)
    else ([], c :: s)
  | [] => ([], [])

/-- Digits, which single underscores may separate, if there are any, and what follows them. -/
def digits? (isDigit : Char → Bool) : List Char → Option (List Char × List Char)
  | [] => none
  | c :: s =>
    if isDigit c then
      let r := moreDigits isDigit s
      some (c :: r.1, r.2)
    else none

/-- A whole number in a base, after the mark of the base. -/
def inBase? (base : Nat) (s : List Char) : Option (Entry × List Char) := do
  let (ds, rest) ← digits? (fun c ↦ (hexValue? c).any (· < base)) s
  let n := (ds.filterMap hexValue?).foldl (fun n d ↦ n * base + d) 0
  return (.number (.integer n), rest)

/-- An optional sign as it is written, and what follows it. -/
def sign (s : List Char) : List Char × List Char :=
  match s with
  | '+' :: s => ([], s)
  | '-' :: s => (['-'], s)
  | _ => ([], s)

/-- The fraction that may follow the whole part of a number. -/
def fraction (s : List Char) : List Char × List Char :=
  match s with
  | '.' :: t =>
    match digits? Char.isDigit t with
    | some (ds, rest) => ('.' :: ds, rest)
    | none => ([], s)
  | _ => ([], s)

/-- The exponent that may end a number. -/
def exponent (s : List Char) : List Char × List Char :=
  match s with
  | e :: t =>
    let (negative, u) := sign t
    match digits? Char.isDigit u with
    | some (ds, rest) => if e = 'e' ∨ e = 'E' then (e :: negative ++ ds, rest) else ([], s)
    | none => ([], s)
  | [] => ([], s)

/-- The fraction and the exponent that may follow the whole part of a number. -/
def numberTail (s : List Char) : List Char × List Char :=
  let (places, s) := fraction s
  let (power, s) := exponent s
  (places ++ power, s)

/-- The whole part of a decimal number: zero, or digits of which the first one is no zero. -/
def whole? (s : List Char) : Option (List Char × List Char) :=
  match s with
  | '0' :: rest => some (['0'], rest)
  | _ => digits? Char.isDigit s

/-- A decimal number. -/
def readDecimal (s : List Char) : Except LoadFault (Entry × List Char) :=
  let (negative, body) := sign s
  match whole? body with
  | none => .error .invalidToml
  | some (whole, rest) =>
    let (tail, after) := numberTail rest
    if tail.isEmpty then do
      (LongNumeral.check whole).mapError (LoadFault.scalar ∘ .longNumeral)
      match readInt? (negative ++ whole) with
      | some n => return (.number (.integer n), rest)
      | none => throw .invalidToml
    else
      match Binary64.ofText? (negative ++ whole ++ tail) with
      | some x => .ok (.number (.binary x), after)
      | none => .error .invalidToml

/-- The words that stand for numbers, without their signs. -/
def namedNumber? (s : List Char) : Option (Entry × List Char) :=
  let (negative, body) := sign s
  let infinity := (after? ['i', 'n', 'f'] body).map
    ((Entry.number (.binary (.infinite (!negative.isEmpty))), ·))
  infinity.or ((after? ['n', 'a', 'n'] body).map ((Entry.number (.binary .nan), ·)))

/-! ## Dates and times -/

/-- The number that two digits spell, from `least` to `most`. -/
def twoDigits? (least most : Nat) (s : List Char) : Option (Nat × List Char) := do
  let (n, s) ← Iso.takeNumber 2 s
  if least ≤ n ∧ n ≤ most then some (n, s) else none

/-- The microseconds of a fraction of a second, if there is one. Digits beyond the sixth do not
count. -/
def readMicroseconds (s : List Char) : Nat × List Char :=
  match s with
  | '.' :: t =>
    let ds := t.takeWhile Char.isDigit
    match Iso.takeNumber (min 6 ds.length) t with
    | some (n, _) =>
      if ds.isEmpty then (0, s) else (n * 10 ^ (6 - min 6 ds.length), t.dropWhile Char.isDigit)
    | none => (0, s)
  | _ => (0, s)

/-- A time of day; its seconds may be left out. -/
def readTime? (s : List Char) : Option (TimeOfDay × List Char) := do
  let (hour, s) ← twoDigits? 0 23 s
  let (minute, s) ← twoDigits? 0 59 (← after? [':'] s)
  let ((second, microsecond), s) :=
    match (after? [':'] s).bind (twoDigits? 0 59) with
    | some (second, s) =>
      let r := readMicroseconds s
      ((second, r.1), r.2)
    | none => ((0, 0), s)
  return (← TimeOfDay.ofParts? hour minute second microsecond, s)

/-- The distance from UTC that may follow a time. -/
def readOffset? (s : List Char) : Option (Offset × List Char) :=
  match s with
  | c :: rest =>
    if c = 'Z' ∨ c = 'z' then some (.utc, rest)
    else if c = '+' ∨ c = '-' then do
      let (hours, rest) ← twoDigits? 0 23 rest
      let (minutes, rest) ← twoDigits? 0 59 (← after? [':'] rest)
      let n : Int := (hours * 3600 + minutes * 60) * 1000000
      return (← Offset.ofMicroseconds? (if c = '-' then -n else n), rest)
    else none
  | [] => none

/-- The time that may follow a date, with its distance from UTC. -/
def timeAfterDate? (s : List Char) : Option ((TimeOfDay × Option Offset) × List Char) :=
  match s with
  | c :: rest =>
    if c = 'T' ∨ c = 't' ∨ c = ' ' then do
      let (time, rest) ← readTime? rest
      match readOffset? rest with
      | some (offset, rest) => return ((time, some offset), rest)
      | none => return ((time, none), rest)
    else none
  | [] => none

/-- What has the form of a date, and a time if one follows; the day may be one that there is not. -/
def readDate? (s : List Char) : Option (Except LoadFault Entry × List Char) := do
  let (year, s) ← Iso.takeNumber 4 s
  let (month, s) ← twoDigits? 1 12 (← after? ['-'] s)
  let (day, s) ← twoDigits? 1 31 (← after? ['-'] s)
  let made (text : Date → String) : Except LoadFault Entry :=
    match Date.ofParts? year month day with
    | some d => .ok (.foreign (text d))
    | none => .error .invalidToml
  match timeAfterDate? s with
  | some ((time, offset), s) => return (made fun d ↦ (Moment.mk d time offset).isoText, s)
  | none => return (made Date.isoText, s)

/-! ## Scalars -/

/-- A truth value, a date, a time or a number. -/
def readScalar (s : List Char) : Except LoadFault (Entry × List Char) :=
  match after? ['t', 'r', 'u', 'e'] s, after? ['f', 'a', 'l', 's', 'e'] s with
  | some rest, _ => .ok (.boolean true, rest)
  | _, some rest => .ok (.boolean false, rest)
  | none, none =>
    match readDate? s, readTime? s with
    | some (d, rest), _ => d.map (·, rest)
    | none, some (t, rest) => .ok (.foreign t.isoText, rest)
    | none, none =>
      let based := match s with
        | '0' :: 'x' :: s => inBase? 16 s
        | '0' :: 'o' :: s => inBase? 8 s
        | '0' :: 'b' :: s => inBase? 2 s
        | _ => none
      match based.or (namedNumber? s) with
      | some r => .ok r
      | none => readDecimal s

end Phrasebook.Toml
