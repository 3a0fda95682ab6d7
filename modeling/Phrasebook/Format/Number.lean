import Phrasebook.Format.Fault
import Phrasebook.Locale.Currency
import Phrasebook.Locale.NumberPattern
import Phrasebook.Locale.PluralCategory
import Phrasebook.Message.NumberOptions
import Phrasebook.Value

/-!
# Numbers as a locale writes them

A number is rounded half away from zero to the digits that will be shown, before the locale's
pattern is applied to it. Compact notation rounds first and picks the unit of the rounded number, so
that a number just below a unit is shown as one of that unit.
-/

set_option autoImplicit false

namespace Phrasebook

open Arithmetic

-- powers as the core library has them
attribute [local instance (high)] instPowNat

namespace Decimal

/-- The exponent of the last digit of a number with `places` fraction digits. A step that is too
great or much too small has none, `precision` being the digits that there is room for. -/
def stepExponent (places : Int) (precision : Nat) : Except Fault Int :=
  if 2 * (maxExponent + precision) < places.natAbs then .error .invalidOperation
  else if maxExponent < -places then .error .overflow
  else .ok (-places)

/-- The number rounded half away from zero to `places` fraction digits, at a precision that has room
for all digits of the result. Infinities and undefined numbers stay as they are, and so do numbers
that have no digits to be rounded away. A number whose leading digit lies beyond the range of
exponents is refused. -/
def roundPlaces (d : Decimal) (places : Int) : Except Fault Decimal := do
  match d with
  | .finite s c e =>
    let precision := max defaultPrecision (d.leadingExponent + places + 2).toNat
    let step ← stepExponent places precision
    if c ≠ 0 ∧ maxExponent < d.leadingExponent then throw .invalidOperation
    if step ≤ e ∨ c = 0 then return .finite s c e else d.quantize precision .awayFromZero step
  | d => return d

/-- Whether the number is less than a whole number; undefined numbers have no order. -/
def lessThan (d : Decimal) (n : Nat) : Except Fault Bool :=
  match d.compare? (.ofInt n) with
  | some o => .ok (o == .lt)
  | none => .error .invalidOperation

end Decimal

namespace Compact

open Format

/-- The exponent of the step that a number with leading digit at `k` is rounded to, and the number
of fraction digits that are shown: one while a single digit stands before the point. -/
def stepOf (k : Nat) : Nat × Nat :=
  let places := if k % 3 = 0 then 1 else 0
  (k - k % 3 - places, places)

/-- Rounds a number of at least a thousand to the step of its own magnitude. A number with more
digits before its point than are read has no such step. -/
def roundOnce (d : Decimal) : Except Decimal.Fault (Decimal × Nat) := do
  let k := (← d.abs).leadingExponent.toNat
  if Text.LongNumeral.limit ≤ k then throw .invalidOperation
  let (step, places) := stepOf k
  let q ← (← d.divide 1 step).quantize Decimal.defaultPrecision .awayFromZero 0
  return (← q.scale 1 step, places)

/-- A number rounded the way compact notation shows it, with the fraction digits to show. A rounding
can carry into the next unit, so the unit is picked again after it. -/
def round (d : Decimal) : Except Decimal.Fault (Decimal × Nat) := do
  let a ← d.abs
  if ← a.lessThan 1000 then
    return (d, if ← a.lessThan 10 then 1 else 0)
  if d.isInfinite then .error .invalidOperation
  let (once, _) ← roundOnce d
  roundOnce once

/-- The entry for the greatest magnitude that the number reaches. -/
def magnitudeFor (a : Decimal) (patterns : List (Nat × String)) : Option (Nat × String) :=
  (patterns.mergeSort fun x y ↦ decide (y.1 ≤ x.1)).find? fun r ↦
    match a.compare? (.ofInt r.1) with
    | some o => o != .lt
    | none => false

/-- The number to show and its pattern. A pattern without a text leaves the number undivided, and
the number one may have a pattern of its own. A form without a pattern for the magnitude uses the
general one. -/
def choose (rules : Plural.Rules) (patterns : CompactPatterns) (d : Decimal) (places : Nat) :
    Except FormatFault (Option (Decimal × String)) := do
  let other ← need .missingData (patterns.lookup "other")
  match magnitudeFor (← arith d.abs) other with
  | none => return none
  | some (magnitude, pattern) =>
    if pattern = "0" then return some (d, pattern)
    let zeros := pattern.toList.count '0'
    let q ← arith (d.divide (magnitude / 10 ^ (zeros - 1)) 0)
    let rounded ← arith (q.quantize Decimal.defaultPrecision .toEven (-(places : Int)))
    let category ← arith (Plural.ofFinite rules (.decimal (← arith q.abs)))
    let form := if (patterns.lookup category.word).isSome then category.word else "other"
    let isOne := q.compare? (.ofInt 1) = some .eq
    let form := if isOne ∧ (patterns.lookup "1").isSome then "1" else form
    let special := (patterns.lookup form).bind fun p ↦ p.lookup magnitude
    let pattern := special.getD pattern
    return some (rounded, pattern)

end Compact

namespace Format

/-- A number in a pattern with the locale's symbols. -/
def applyPattern (f : NumberFormats) (pattern : List Char) (money : Option NumberPattern.Money)
    (natural : Bool) (d : Decimal) : Except FormatFault String := do
  let p ← need .invalidPattern (NumberPattern.ofText? pattern)
  arith (p.apply f.symbols money natural d)

/-- The decimal number of a value that should be written as a number. -/
def decimalOf (v : Value) : Except FormatFault Decimal :=
  need .unsuitableValue v.toDecimal?

/-- An amount of money. -/
def money (f : NumberFormats) (code : String) (v : Value) : Except FormatFault String := do
  let symbol := (f.currencySymbols.lookup code).getD code
  let places := if code = "" then none else some (currencyPlaces code)
  applyPattern f f.currency.toList (some ⟨symbol, places⟩) false (← decimalOf v)

/-- An amount of money in a currency. Where no currency is named, the sign that stands for any
currency is left in its place. -/
def currency (v : Value) (code : Option String) (tag : String) (book : LocaleBook := .tables) :
    Except FormatFault String := do
  let f := (← dataOf tag book).numbers
  match code with
  | some code => money f code v
  | none => applyPattern f f.currency.toList none false (← decimalOf v)

/-- A number in compact notation by the data of a locale. -/
def compactIn (data : LocaleData) (v : Value) (display : CompactDisplay) :
    Except FormatFault String := do
  let d ← decimalOf v
  let (rounded, places) ← arith (Compact.round d)
  let patterns ← need .missingData (data.compact.lookup display.word)
  let f := data.numbers
  match ← Compact.choose (data.plurals .cardinal) patterns rounded places with
  | some (shown, pattern) => applyPattern f pattern.toList none true shown
  | none => applyPattern f f.decimal.toList none true rounded

/-- A number in compact notation. -/
def compact (v : Value) (tag : String) (display : CompactDisplay) (book : LocaleBook := .tables) :
    Except FormatFault String := do
  compactIn (← dataOf tag book) v display

/-- A number with the options of a skeleton. -/
def numberWith (data : LocaleData) (v : Value) (o : NumberOptions) : Except FormatFault String := do
  let f := data.numbers
  match o.style with
  | .compact => compactIn data v (o.compactDisplay.getD .short)
  | .currency =>
    let code := o.currency.getD ""
    money f (if code = "" then defaultCurrency else code) v
  | .percent =>
    let rounded ← arith ((← decimalOf v).roundPlaces (o.maximum 0 + 2))
    applyPattern f (o.pattern 0 ++ ['%']) none false rounded
  | .decimal =>
    let rounded ← arith ((← decimalOf v).roundPlaces (o.maximum 3))
    applyPattern f (o.pattern 3) none false rounded

/-- A number in a named style, or in a pattern. -/
def numberIn (f : NumberFormats) (v : Value) (style : String) : Except FormatFault String := do
  if style = "" ∨ style = "decimal" then
    applyPattern f f.decimal.toList none false (← arith ((← decimalOf v).roundPlaces 3))
  else if style = "integer" then
    applyPattern f ['#', ',', '#', '#', '0'] none false (← arith ((← decimalOf v).roundPlaces 0))
  else if style = "percent" then
    let rounded ← arith ((← decimalOf v).roundPlaces 2)
    applyPattern f f.percent.toList none false rounded
  else if style = "currency" then money f defaultCurrency v
  else applyPattern f style.toList none false (← decimalOf v)

/-- A number in a style or with options, of which the options count. -/
def number (v : Value) (tag : String) (style : Option String) (options : Option NumberOptions)
    (book : LocaleBook := .tables) : Except FormatFault String := do
  let data ← dataOf tag book
  match options with
  | some o => numberWith data v o
  | none => numberIn data.numbers v (style.getD "")

end Format

end Phrasebook
