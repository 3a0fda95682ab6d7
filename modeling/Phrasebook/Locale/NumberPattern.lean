import Phrasebook.Decimal.Arithmetic
import Phrasebook.Locale.NumberFormats

/-!
# Number patterns

A pattern such as `#,##0.00` shows how a number is written: the digits that are always there, those
that are there when needed, where groups are set off, and the texts around the number, which may
differ for negative numbers. A part after `E` asks for scientific notation and `@` counts
significant digits.
-/

set_option autoImplicit false

namespace Phrasebook

open Arithmetic

/-- The least and the greatest number of digits in a part of a number. -/
structure DigitRange where
  min : Nat
  max : Nat
  deriving DecidableEq, Repr

/-- The exponent part of a scientific pattern: its digits, and whether a plus sign is written. -/
structure ExponentPattern where
  digits : DigitRange
  plus : Bool
  deriving DecidableEq, Repr

/-- A number pattern. The texts before and after the number come for positive and for negative
numbers. Digits are grouped from the right: the first group has `primary` digits and the others
`secondary`. -/
structure NumberPattern where
  source : List Char
  number : List Char
  before : List Char × List Char
  after : List Char × List Char
  primary : Nat
  secondary : Nat
  whole : DigitRange
  places : DigitRange
  exponent : Option ExponentPattern
  deriving DecidableEq, Repr

namespace NumberPattern

/-- The characters that the number part of a pattern is made of. -/
def isNumberPart (c : Char) : Bool :=
  c.isDigit || c ∈ ['@', '#', '.', ',', 'E', '+']

/-- The characters that cannot stand before the number. -/
def startsNumber (c : Char) : Bool :=
  c.isDigit || c ∈ ['@', '#', '.', ',']

/-- Splits off a quoted text, its quotes included, if there is a closing quote. -/
def takeQuoted? (s : List Char) : Option (List Char × List Char) :=
  match s with
  | '\'' :: rest =>
    match rest.span (· ≠ '\'') with
    | (inner, q :: more) => some ('\'' :: inner ++ [q], more)
    | (_, []) => none
  | _ => none

/-- Splits off the text before the number, in which quoted texts may hold anything. `limit` bounds
the pieces and is at least the length of the text. -/
def takeBefore : Nat → List Char → List Char × List Char
  | 0, s => ([], s)
  | limit + 1, s =>
    match takeQuoted? s with
    | some (piece, rest) =>
      let r := takeBefore limit rest
      (piece ++ r.1, r.2)
    | none =>
      match s with
      | c :: rest =>
        if startsNumber c then ([], s)
        else
          let r := takeBefore limit rest
          (c :: r.1, r.2)
      | [] => ([], [])

/-- The text before the number, the number and the text after it up to the end of the line. -/
def parts (s : List Char) : List Char × List Char × List Char :=
  let (before, rest) := takeBefore s.length s
  let (number, rest) := rest.span isNumberPart
  (before, number, rest.takeWhile (· ≠ '\n'))

/-- The digits that a part of a pattern asks for. Commas are skipped and anything else ends the
count. -/
def digitRange : List Char → DigitRange
  | [] => ⟨0, 0⟩
  | c :: cs =>
    if c = '0' ∨ c = '@' then let r := digitRange cs; ⟨r.min + 1, r.max + 1⟩
    else if c = '#' then let r := digitRange cs; ⟨r.min, r.max + 1⟩
    else if c = ',' then digitRange cs
    else ⟨0, 0⟩

/-- The group size of a pattern without commas, larger than any number that is written. -/
def noGrouping : Nat := 1000

/-- The two group sizes that the whole part of a pattern shows by its last commas. -/
def groupSizes (whole : List Char) : Nat × Nat :=
  match whole.reverse.span (· ≠ ',') with
  | (_, []) => (noGrouping, noGrouping)
  | (last, _ :: rest) =>
    match rest.span (· ≠ ',') with
    | (_, []) => (last.length, last.length)
    | (next, _) => (last.length, next.length)

/-- Splits at the last point. -/
def splitPoint (s : List Char) : List Char × List Char :=
  match s.reverse.span (· ≠ '.') with
  | (_, []) => (s, [])
  | (places, _ :: whole) => (whole.reverse, places.reverse)

/-- Reads a pattern. Significant digits exclude digits after a point. -/
def ofText? (s : List Char) : Option NumberPattern :=
  let (positive, negative?) := match s.span (· ≠ ';') with
    | (p, _ :: n) => (p, some n)
    | (p, []) => (p, none)
  let (before, number, after) := parts positive
  let (negBefore, negAfter) := match negative? with
    | some n => let (b, _, a) := parts n; (b, a)
    | none => ('-' :: before, after)
  let (number, power) := match number.span (· ≠ 'E') with
    | (n, _ :: p) => (n, p)
    | (n, []) => (n, [])
  if '@' ∈ number ∧ '.' ∈ number ∧ '0' ∈ number then none
  else
    let (whole, places) := splitPoint number
    let (primary, secondary) := groupSizes whole
    some {
      source := s
      number
      before := (before, negBefore)
      after := (after, negAfter)
      primary
      secondary
      whole := digitRange whole
      places := digitRange places
      exponent :=
        if power.isEmpty then none
        else some ⟨digitRange (power.dropWhile (· = '+')), power.head? == some '+'⟩ }

/-- The power of ten that a percent or per mille sign around the number asks for. -/
def scale (p : NumberPattern) : Nat :=
  let around := p.before.1 ++ p.before.2 ++ p.after.1 ++ p.after.2
  if '%' ∈ around then 2 else if '‰' ∈ around then 3 else 0

/-- Sets off groups in a row of digits, given from its right end. -/
def groupReversed (symbol : List Char) (next : Nat) : Nat → Nat → List Char → List Char
  | 0, _, s => s
  | limit + 1, size, s =>
    if size < s.length then
      let chunk := if size = 0 then s else s.take size
      let rest := if size = 0 then [] else s.drop size
      chunk ++ symbol.reverse ++ groupReversed symbol next limit next rest
    else s

/-- The whole part of a number, padded with zeros and grouped. -/
def writeWhole (p : NumberPattern) (y : NumberSymbols) (least : Nat) (ds : List Char) : List Char :=
  let ds := padZeros least ds
  (groupReversed y.group.toList p.secondary ds.length p.primary ds.reverse).reverse

/-- Removes zeros at the end of a row of digits as long as it has more than `least` digits. -/
def dropZeros (least : Nat) (ds : List Char) : List Char :=
  ds.take least ++ ((ds.drop least).reverse.dropWhile (· = '0')).reverse

/-- The fraction of a number with its point, or nothing when it has no digit to show. -/
def writePlaces (y : NumberSymbols) (range : DigitRange) (ds : List Char) : List Char :=
  let ds := ds ++ List.replicate (range.min - ds.length) '0'
  if range.max = 0 ∨ (range.min = 0 ∧ ds.all (· = '0')) then []
  else y.decimal.toList ++ dropZeros range.min ds

/-- Splits the positional text of a number at its point. -/
def splitText (s : List Char) : List Char × List Char :=
  match s.span (· ≠ '.') with
  | (whole, _ :: places) => (whole, places)
  | (whole, []) => (whole, [])

/-- A nonnegative number rounded to the places of the pattern. -/
def writeRounded (p : NumberPattern) (y : NumberSymbols) (range : DigitRange) (d : Decimal) :
    Except Decimal.Fault (List Char) := do
  if d.isInfinite then return y.infinity.toList
  let rounded ← d.quantize Decimal.defaultPrecision .toEven (-(range.max : Int))
  let (whole, places) := splitText rounded.positional
  let places := if places.isEmpty then ['0'] else places
  return p.writeWhole y p.whole.min whole ++ writePlaces y range places

/-- A nonnegative number rounded to significant digits, as whole part and fraction. -/
def significant (range : DigitRange) (d : Decimal) : Except Decimal.Fault (List Char) := do
  let k := d.leadingExponent
  let scale := (range.max : Int) - 1 - k
  let ds := (← (← d.shift scale).quantize Decimal.defaultPrecision .toEven 0).positional
  if scale ≤ 0 then return ds ++ List.replicate (-scale).toNat '0'
  let whole := ds.take (ds.length - scale.toNat)
  let i := whole.length
  let j := i + (range.min - i)
  let extra := ((ds.drop j).reverse.dropWhile (· = '0')).reverse
  let text := (if whole.isEmpty then ['0'] else whole) ++ '.' ::
    List.replicate (-(k + 1)).toNat '0' ++ (ds.take j).drop i ++ extra
  return (text.reverse.dropWhile (· = '.')).reverse

/-- The fraction digits that a number needs. -/
def naturalPlaces (d : Decimal) : Except Decimal.Fault Nat := do
  match ← d.normalize with
  | .finite _ _ e => return (-e).toNat
  | _ => return 0

/-- A range of digits that has room for the fraction digits of a number. -/
def widen (range : DigitRange) (d : Decimal) : Except Decimal.Fault DigitRange :=
  (naturalPlaces d).map fun n ↦ ⟨range.min, max range.max n⟩

/-- The number as the pattern writes it, without the texts around it. -/
def writeNumber (p : NumberPattern) (y : NumberSymbols) (places : DigitRange) (natural : Bool)
    (d : Decimal) : Except Decimal.Fault (List Char) := do
  match p.exponent with
  | some x =>
    let k := d.leadingExponent - ((max 1 (min p.whole.min p.whole.max) : Nat) - 1 : Int)
    let mantissa ← d.shift (-k)
    let places ← if natural || places == ⟨0, 0⟩ then widen places mantissa else pure places
    let sign := if k < 0 then y.minusSign else if x.plus then y.plusSign else ""
    return (← p.writeRounded y places mantissa) ++ y.exponential.toList ++ sign.toList ++
      p.writeWhole y x.digits.min (digits k.natAbs)
  | none =>
    let places ← if natural then widen places d else pure places
    if '@' ∈ p.source then
      let (whole, places) := splitText (← significant p.whole d)
      return p.writeWhole y 0 whole ++
        (if places.isEmpty then [] else y.decimal.toList ++ places)
    else p.writeRounded y places d

/-- Takes the quotes off quoted texts; a quoted text that is empty is one quote. -/
def unquote : Nat → List Char → List Char
  | 0, s => s
  | _, [] => []
  | limit + 1, c :: rest =>
    if c = '\'' then
      match rest.span (· ≠ '\'') with
      | (inner, _ :: more) => (if inner.isEmpty then ['\''] else inner) ++ unquote limit more
      | (_, []) => c :: rest
    else c :: unquote limit rest

/-- How an amount of money is written: the currency's symbol, and its number of places if the
currency decides it. -/
structure Money where
  symbol : String
  places : Option Nat

/-- A number in the pattern. `natural` shows all fraction digits of the number, where the pattern
would round them away. -/
def apply (p : NumberPattern) (y : NumberSymbols) (money : Option Money) (natural : Bool)
    (d : Decimal) : Except Decimal.Fault String := do
  let d ← d.shift p.scale
  let negative := d.isNegative
  let d ← (← d.abs).normalize
  let places := match money.bind Money.places with
    | some n => ⟨n, n⟩
    | none => p.places
  let number ← p.writeNumber y places natural d
  let text := (if negative then p.before.2 else p.before.1) ++
    (if p.number.isEmpty then [] else number) ++ (if negative then p.after.2 else p.after.1)
  let text := match money with
    | some m => text.flatMap fun c ↦ if c = '¤' then m.symbol.toList else [c]
    | none => text
  return String.ofList (unquote text.length text)

end NumberPattern

end Phrasebook
