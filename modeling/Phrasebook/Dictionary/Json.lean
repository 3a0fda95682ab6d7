import Phrasebook.Dictionary.Basic
import Phrasebook.Dictionary.LoadFault
import Phrasebook.Text.Hexadecimal

/-!
# Dictionaries in JSON

The reader follows the grammar of JSON, and also takes the numbers `NaN`, `Infinity` and
`-Infinity`. Of two members with one key the later value counts, at the place of the earlier one.
-/

set_option autoImplicit false

namespace Phrasebook.Json

open Text

/-- White space between tokens. -/
def isSpace (c : Char) : Bool :=
  c == ' ' || c == '\t' || c == '\n' || c == '\r'

def skipSpace (s : List Char) : List Char :=
  s.dropWhile isSpace

/-- The value of four hexadecimal digits. -/
def hex4? (s : List Char) : Option (Nat × List Char) :=
  (hexRun? 4 s).map (·, s.drop 4)

/-- The character for code units: a pair of surrogates is one character. -/
def escapedChar? (s : List Char) : Option (Char × List Char) := do
  let (high, s) ← hex4? s
  if 0xD800 ≤ high ∧ high < 0xDC00 then
    match s with
    | '\\' :: 'u' :: t =>
      match hex4? t with
      | some (low, t) =>
        if 0xDC00 ≤ low ∧ low < 0xE000 then
          return (Char.ofNat (0x10000 + (high - 0xD800) * 0x400 + (low - 0xDC00)), t)
      | none => pure ()
    | _ => pure ()
  return (if 0xD800 ≤ high ∧ high < 0xE000 then '\uFFFD' else Char.ofNat high, s)

/-- The characters that a backslash and a letter stand for. -/
def escapes : List (Char × Char) :=
  [('"', '"'), ('\\', '\\'), ('/', '/'), ('b', '\x08'), ('f', '\x0c'), ('n', '\n'), ('r', '\r'),
    ('t', '\t')]

/-- The rest of a string after its opening quote. -/
def readString : Nat → List Char → Option (List Char × List Char)
  | 0, _ => none
  | fuel + 1, s =>
    match s with
    | [] => none
    | '"' :: s => some ([], s)
    | '\\' :: 'u' :: s => do
      let (c, s) ← escapedChar? s
      let (cs, s) ← readString fuel s
      return (c :: cs, s)
    | '\\' :: c :: s => do
      let c ← escapes.lookup c
      let (cs, s) ← readString fuel s
      return (c :: cs, s)
    | c :: s =>
      if c.toNat < 0x20 then none
      else (readString fuel s).map fun r ↦ (c :: r.1, r.2)

/-- A run of ASCII digits. -/
def digitRun (s : List Char) : List Char × List Char :=
  (s.takeWhile Char.isDigit, s.dropWhile Char.isDigit)

/-- The part of a number after its whole part: fraction and exponent, as far as they are
complete. -/
def numberTail (s : List Char) : List Char × List Char :=
  let (fraction, s) :=
    match s with
    | '.' :: t =>
      if (digitRun t).1.isEmpty then ([], s) else ('.' :: (digitRun t).1, (digitRun t).2)
    | _ => ([], s)
  let (exponent, s) :=
    match s with
    | e :: t =>
      if e = 'e' ∨ e = 'E' then
        let (sign, u) :=
          match t with
          | c :: u => if c = '+' ∨ c = '-' then ([c], u) else ([], t)
          | [] => ([], t)
        if (digitRun u).1.isEmpty then ([], s) else (e :: sign ++ (digitRun u).1, (digitRun u).2)
      else ([], s)
    | [] => ([], s)
  (fraction ++ exponent, s)

/-- What was read, or the fault of a text that is not in the format. -/
def orInvalid {α : Type} : Option α → Except LoadFault α
  | some a => .ok a
  | none => .error .invalidJson

/-- A number. -/
def readNumber (s : List Char) : Except LoadFault (Number × List Char) := do
  let (sign, body) := match s with
    | '-' :: t => (['-'], t)
    | _ => ([], s)
  let (whole, rest) := match body with
    | '0' :: t => (['0'], t)
    | _ => digitRun body
  if whole.isEmpty then throw .invalidJson
  let (tail, rest) := numberTail rest
  if tail.isEmpty then
    (LongNumeral.check whole).mapError (LoadFault.scalar ∘ .longNumeral)
    return (.integer (← orInvalid (readInt? (sign ++ whole))), rest)
  return (.binary (← orInvalid (Binary64.ofText? (sign ++ whole ++ tail))), rest)

/-- The words that stand for values. -/
def words : List (String × Entry) :=
  [("null", .absent), ("true", .boolean true), ("false", .boolean false),
    ("NaN", .number (.binary .nan)), ("Infinity", .number (.binary (.infinite false))),
    ("-Infinity", .number (.binary (.infinite true)))]

mutual

/-- A value at the start of a text. -/
def readValue : Nat → List Char → Except LoadFault (Entry × List Char)
  | 0, _ => .error .invalidJson
  | fuel + 1, s =>
    match s with
    | '"' :: s => (orInvalid (readString fuel s)).map fun r ↦ (.text (String.ofList r.1), r.2)
    | '{' :: s =>
      match skipSpace s with
      | '}' :: s => .ok (.branch [], s)
      | s => (readMembers fuel [] s).map fun r ↦ (.branch r.1, r.2)
    | '[' :: s =>
      match skipSpace s with
      | ']' :: s => .ok (.list [], s)
      | s => (readItems fuel s).map fun r ↦ (.list r.1, r.2)
    | _ =>
      match words.findSome? fun w ↦ (after? w.1.toList s).map (w.2, ·) with
      | some r => .ok r
      | none => (readNumber s).map fun r ↦ (.number r.1, r.2)

/-- The items of an array from one of them on, and the closing bracket. -/
def readItems : Nat → List Char → Except LoadFault (List Entry × List Char)
  | 0, _ => .error .invalidJson
  | fuel + 1, s => do
    let (item, s) ← readValue fuel (skipSpace s)
    match skipSpace s with
    | ']' :: s => return ([item], s)
    | ',' :: s =>
      let (items, s) ← readItems fuel s
      return (item :: items, s)
    | _ => throw .invalidJson

/-- The members of an object from one of them on, after those read before, and the closing brace. -/
def readMembers : Nat → Dictionary → List Char → Except LoadFault (Dictionary × List Char)
  | 0, _, _ => .error .invalidJson
  | fuel + 1, before, s => do
    let (key, s) ← match skipSpace s with
      | '"' :: s => orInvalid (readString fuel s)
      | _ => throw LoadFault.invalidJson
    let s ← orInvalid (after? [':'] (skipSpace s))
    let (value, s) ← readValue fuel (skipSpace s)
    let members := before.put (Key.text (String.ofList key)) value
    match skipSpace s with
    | '}' :: s => return (members, s)
    | ',' :: s => readMembers fuel members s
    | _ => throw .invalidJson

end

/-- The value that a text spells. -/
def read (s : List Char) : Except LoadFault Entry := do
  let (e, rest) ← readValue (2 * s.length + 2) (skipSpace s)
  if (skipSpace rest).isEmpty then return e else throw .invalidJson

end Phrasebook.Json
