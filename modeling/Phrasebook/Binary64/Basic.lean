import Phrasebook.Arithmetic.Rounding

/-!
# Double-precision numbers

A double is its sign, its significand and its exponent, and every operation on doubles is the exact
operation on rationals followed by one rounding to nearest, ties to even (`Binary64.ofQuotient`).
The type holds each double once: a significand below `2^53` that is at least `2^52` unless the
exponent is the least one.
-/

set_option autoImplicit false

namespace Phrasebook

open Arithmetic

-- powers as the core library has them
attribute [local instance (high)] instPowNat

namespace Binary64

/-- The significands and exponents that name a double, each once. -/
def Canonical (significand : Nat) (exponent : Int) : Prop :=
  significand < 2 ^ (53 : Nat) ∧ -1074 ≤ exponent ∧ exponent ≤ 971 ∧
    (2 ^ (52 : Nat) ≤ significand ∨ exponent = -1074)

instance (significand : Nat) (exponent : Int) : Decidable (Canonical significand exponent) :=
  inferInstanceAs (Decidable (_ ∧ _))

end Binary64

/-- A double-precision number. The finite ones are `± significand * 2 ^ exponent`. -/
inductive Binary64
  | nan
  | infinite (negative : Bool)
  | finite (negative : Bool) (significand : Nat) (exponent : Int)
      (canonical : Binary64.Canonical significand exponent)
  deriving DecidableEq

namespace Binary64

/-- The zero of either sign. -/
def zero (negative : Bool) : Binary64 :=
  .finite negative 0 (-1074) (by decide)

instance : Inhabited Binary64 := ⟨zero false⟩

/-- `± significand * 2 ^ exponent`, or the infinity when no double has that name. -/
def ofParts (negative : Bool) (significand : Nat) (exponent : Int) : Binary64 :=
  if h : Canonical significand exponent then .finite negative significand exponent h
  else .infinite negative

/-- `a * 2 ^ e` as a fraction of natural numbers, the exponent taken to either side. -/
def scaled (a : Nat) (e : Int) : Nat × Nat :=
  (a * 2 ^ e.toNat, 2 ^ (-e).toNat)

/-- The exponent at which the quotient `n / d` of positive numbers has a significand of 53 bits, or
the least exponent when that lies below it. -/
def exponentOf (n d : Nat) : Int :=
  let guess : Int := (n.log2 : Int) - d.log2 - 52
  let (num, den) := scaled n (-guess)
  max (-1074) (if num < 2 ^ (52 : Nat) * (den * d) then guess - 1 else guess)

/-- The double nearest to `± n / d`, ties to even; an overflow gives the infinity. -/
def ofQuotient (negative : Bool) (n d : Nat) : Binary64 :=
  if n = 0 then zero negative
  else
    let e := exponentOf n d
    let (num, den) := scaled n (-e)
    let m := roundQuotient .toEven num (den * d)
    if m = 2 ^ (53 : Nat) then ofParts negative (2 ^ (52 : Nat)) (e + 1)
    else ofParts negative m e

/-- The double nearest to an integer; an overflow gives the infinity. -/
def ofInt (n : Int) : Binary64 :=
  ofQuotient (decide (n < 0)) n.natAbs 1

/-- Whether the number is neither infinite nor undefined. -/
def isFinite : Binary64 → Bool
  | .finite .. => true
  | _ => false

def isNaN : Binary64 → Bool
  | .nan => true
  | _ => false

/-- The sign bit; the undefined number has none. -/
def isNegative : Binary64 → Bool
  | .nan => false
  | .infinite s => s
  | .finite s .. => s

/-- A finite double as an exact fraction of an integer and a positive natural number. -/
def quotient? : Binary64 → Option (Int × Nat)
  | .finite s m e _ =>
    let (num, den) := scaled m e
    some (if s then -(num : Int) else num, den)
  | _ => none

/-- Negation, which only turns the sign. -/
def neg : Binary64 → Binary64
  | .nan => .nan
  | .infinite s => .infinite !s
  | .finite s m e h => .finite (!s) m e h

/-- The absolute value. -/
def abs : Binary64 → Binary64
  | .nan => .nan
  | .infinite _ => .infinite false
  | .finite _ m e h => .finite false m e h

/-- The nearest double to an exact fraction; a zero takes the sign `zeroSign`. -/
def ofFraction (zeroSign : Bool) (n : Int) (d : Nat) : Binary64 :=
  ofQuotient (if n = 0 then zeroSign else decide (n < 0)) n.natAbs d

/-- Addition. A sum of zero is negative only when both terms are. -/
def add (x y : Binary64) : Binary64 :=
  match x, y with
  | .nan, _ => .nan
  | _, .nan => .nan
  | .infinite s, .infinite t => if s = t then .infinite s else .nan
  | .infinite s, _ => .infinite s
  | _, .infinite t => .infinite t
  | _, _ =>
    match x.quotient?, y.quotient? with
    | some (a, b), some (c, d) =>
      ofFraction (x.isNegative && y.isNegative) (a * d + c * b) (b * d)
    | _, _ => .nan

/-- Subtraction. -/
def sub (x y : Binary64) : Binary64 :=
  x.add y.neg

/-- Multiplication. -/
def mul (x y : Binary64) : Binary64 :=
  let s := x.isNegative != y.isNegative
  match x, y with
  | .nan, _ => .nan
  | _, .nan => .nan
  | .finite _ m e _, .finite _ m' e' _ =>
    let (num, den) := scaled (m * m') (e + e')
    ofQuotient s num den
  | .infinite _, .finite _ m _ _ => if m = 0 then .nan else .infinite s
  | .finite _ m _ _, .infinite _ => if m = 0 then .nan else .infinite s
  | .infinite _, .infinite _ => .infinite s

/-- Division by a positive whole number. -/
def divNat (x : Binary64) (d : Nat) : Binary64 :=
  match x with
  | .finite s m e _ =>
    let (num, den) := scaled m e
    ofQuotient s num (den * d)
  | x => x

/-- The greatest integer that is not above a finite double. -/
def floor? (x : Binary64) : Option Int :=
  x.quotient?.map fun q ↦ q.1.fdiv q.2

/-- The integer next to a finite double in the direction of zero. -/
def truncate? (x : Binary64) : Option Int :=
  x.quotient?.map fun q ↦ q.1.tdiv q.2

/-- The integer that a double is, if it is one. -/
def toInt? (x : Binary64) : Option Int :=
  match x.quotient? with
  | some (n, d) => if n % d = 0 then some (n / d) else none
  | none => none

/-- The fraction `n / d` rounded to nearest with `places` decimals, ties to even, and read back as a
double. -/
def roundPlaces (x : Binary64) (places : Nat) : Binary64 :=
  match x with
  | .finite s m e _ =>
    let (num, den) := scaled m e
    ofQuotient s (roundQuotient .toEven (num * 10 ^ places) den) (10 ^ places)
  | x => x

end Binary64

end Phrasebook
