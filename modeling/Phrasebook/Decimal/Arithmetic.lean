import Phrasebook.Decimal.Basic

/-!
# Arithmetic on decimal numbers

Each operation computes the exact result and then fits it to the working precision, ties to the even
digit. A result that cannot be fitted is a fault: an operation without a defined answer, or a number
beyond the exponent range.
-/

set_option autoImplicit false

namespace Phrasebook

open Arithmetic

-- powers as the core library has them
attribute [local instance (high)] instPowNat

namespace Decimal

/-- Why an operation has no result. -/
inductive Fault
  | invalidOperation
  | overflow
  deriving DecidableEq, Repr

/-- The digits that a result keeps unless an operation says otherwise. -/
def defaultPrecision : Nat := 28

/-- The greatest exponent that a leading digit may have. -/
def maxExponent : Int := 999999

/-- The least exponent that a leading digit may have before digits are given up. -/
def minExponent : Int := -999999

/-- Gives up the last `count` digits of `c`. -/
def dropDigits (tie : Tie) (c count : Nat) : Nat :=
  roundQuotient tie c (10 ^ count)

/-- Fits a finite number to `precision` digits and to the exponent range. -/
def fit (precision : Nat) (negative : Bool) (c : Nat) (e : Int) : Except Fault Decimal :=
  let least := minExponent - precision + 1
  if c = 0 then .ok (.finite negative 0 (max least (min e maxExponent)))
  else
    let excess := max (decimalLength c - precision : Nat) (least - e).toNat
    -- a number far below the range keeps no digit
    let excess := min excess (decimalLength c + 1)
    let kept := dropDigits .toEven c excess
    let (kept, e') :=
      if precision < decimalLength kept then (kept / 10, e + excess + 1) else (kept, e + excess)
    if kept = 0 then .ok (.finite negative 0 (max least e'))
    else if maxExponent < e' + decimalLength kept - 1 then .error .overflow
    else .ok (.finite negative kept e')

/-- An undefined operand: quiet ones are passed on, signaling ones are an invalid operation. -/
def passNaN (negative signaling : Bool) (payload : Nat) : Except Fault Decimal :=
  if signaling then .error .invalidOperation else .ok (.nan negative false payload)

/-- The absolute value, fitted to the working precision. -/
def abs : Decimal → Except Fault Decimal
  | .nan s signaling payload => passNaN s signaling payload
  | .infinite _ => .ok (.infinite false)
  | .finite _ c e => fit defaultPrecision false c e

/-- Brings two finite terms to one exponent. A term too small to reach a digit that is kept is
replaced by a single digit just below these, or by a zero if it is none, so that no power of ten
grows with the exponents. -/
def align (precision : Nat) (c : Nat) (e : Int) (c' : Nat) (e' : Int) : Nat × Nat × Int :=
  let low := e + min (-1) ((decimalLength c : Int) - precision - 2)
  let (c', e') :=
    if c ≠ 0 ∧ e' + decimalLength c' - 1 < low then (min 1 c', low) else (c', e')
  let base := min e e'
  (c * 10 ^ (e - base).toNat, c' * 10 ^ (e' - base).toNat, base)

/-- Addition. A zero sum is negative only when both terms are. -/
def add : Decimal → Decimal → Except Fault Decimal
  | .nan s signaling payload, .nan t signaling' payload' =>
    if signaling || signaling' then .error .invalidOperation
    else if signaling' && !signaling then passNaN t signaling' payload'
    else passNaN s signaling payload
  | .nan s signaling payload, _ => passNaN s signaling payload
  | _, .nan s signaling payload => passNaN s signaling payload
  | .infinite s, .infinite t => if s = t then .ok (.infinite s) else .error .invalidOperation
  | .infinite s, .finite .. => .ok (.infinite s)
  | .finite .., .infinite t => .ok (.infinite t)
  | .finite s c e, .finite t c' e' =>
    let (a, b, base) :=
      if e' ≤ e then align defaultPrecision c e c' e'
      else
        let (b, a, base) := align defaultPrecision c' e' c e
        (a, b, base)
    let sum : Int := (if s then -(a : Int) else a) + (if t then -(b : Int) else b)
    fit defaultPrecision (if sum = 0 then s && t else decide (sum < 0)) sum.natAbs base

/-- The number with its sign turned. -/
def neg : Decimal → Decimal
  | .nan s signaling payload => .nan (!s) signaling payload
  | .infinite s => .infinite !s
  | .finite s c e => .finite (!s) c e

/-- Subtraction of an integer. -/
def subInt (d : Decimal) (n : Int) : Except Fault Decimal :=
  d.add (ofInt n).neg

/-- Multiplication of a number by a finite positive one `c * 10 ^ e`. -/
def scale (d : Decimal) (c : Nat) (e : Int) : Except Fault Decimal :=
  match d with
  | .nan s signaling payload => passNaN s signaling payload
  | .infinite s => .ok (.infinite s)
  | .finite s c' e' => fit defaultPrecision s (c' * c) (e' + e)

/-- Multiplication by a power of ten. -/
def shift (d : Decimal) (places : Int) : Except Fault Decimal :=
  d.scale 1 places

/-- Division by a finite positive number `c * 10 ^ e`. An exact quotient keeps the exponent that is
nearest to the difference of the exponents; an inexact one has a digit beyond the precision that is
neither zero nor five when digits were cut off. -/
def divide (d : Decimal) (c : Nat) (e : Int) : Except Fault Decimal :=
  match d with
  | .nan s signaling payload => passNaN s signaling payload
  | .infinite s => .ok (.infinite s)
  | .finite s c' e' =>
    if c = 0 then .error .invalidOperation
    else if c' = 0 then fit defaultPrecision s 0 (e' - e)
    else
      let places : Int := (decimalLength c : Int) - decimalLength c' + defaultPrecision + 1
      let num := c' * 10 ^ places.toNat
      let den := c * 10 ^ (-places).toNat
      let q := num / den
      if num % den ≠ 0 then
        fit defaultPrecision s (if q % 5 = 0 then q + 1 else q) (e' - e - places)
      else
        let r := stripTens q places.toNat
        fit defaultPrecision s r.1 (e' - e - places + r.2)

/-- Rounds to a whole multiple of `10 ^ e` with at most `precision` digits. -/
def quantize (precision : Nat) (tie : Tie) (d : Decimal) (e : Int) : Except Fault Decimal :=
  match d with
  | .nan s signaling payload => passNaN s signaling payload
  | .infinite _ => .error .invalidOperation
  | .finite s c e' =>
    if e < minExponent - precision + 1 ∨ maxExponent < e then .error .invalidOperation
    else if c = 0 then .ok (.finite s 0 e)
    else
      let k := e' + decimalLength c - 1
      if maxExponent < k ∨ (precision : Int) < k - e + 1 then .error .invalidOperation
      else
        let kept :=
          if e ≤ e' then c * 10 ^ (e' - e).toNat
          -- a number below a tenth of the step has no digit left to round by
          else dropDigits tie c (min (e - e').toNat (decimalLength c + 1))
        if precision < decimalLength kept ∨ maxExponent < e + decimalLength kept - 1 then
          .error .invalidOperation
        else .ok (.finite s kept e)

/-- The number fitted to the working precision, without trailing zeros. -/
def normalize : Decimal → Except Fault Decimal
  | .nan s signaling payload => passNaN s signaling payload
  | .infinite s => .ok (.infinite s)
  | .finite s c e =>
    match fit defaultPrecision s c e with
    | .ok (.finite s c e) =>
      if c = 0 then .ok (.finite s 0 0)
      else
        let r := stripTens c (decimalLength c)
        .ok (.finite s r.1 (e + r.2))
    | r => r

/-- The remainder of a nonnegative finite number by a positive whole number. The whole quotient must
fit the working precision. -/
def modNat (c : Nat) (e : Int) (d : Nat) : Except Fault (Nat × Int) :=
  if c = 0 then .ok (0, min e 0)
  else if (defaultPrecision : Int) + decimalLength d < e + decimalLength c then
    .error .invalidOperation
  else if 0 ≤ e then
    let n := c * 10 ^ e.toNat
    if defaultPrecision < decimalLength (n / d) then .error .invalidOperation
    else .ok (n % d, 0)
  else
    let m := d * 10 ^ (-e).toNat
    if defaultPrecision < decimalLength (c / m) then .error .invalidOperation
    else .ok (c % m, e)

end Decimal

end Phrasebook
