import Phrasebook.Arithmetic.Digits
import Phrasebook.Arithmetic.Rounding
import Phrasebook.Binary64.Shortest

/-!
# Decimal numbers

The numbers of General Decimal Arithmetic: a sign, a coefficient and an exponent, so that `1.0` and
`1.00` are two numbers of one value, together with the infinities and the undefined numbers.
-/

set_option autoImplicit false

namespace Phrasebook

open Arithmetic

-- powers as the core library has them
attribute [local instance (high)] instPowNat

/-- A decimal number. The finite ones are `± coefficient * 10 ^ exponent`. -/
inductive Decimal
  | nan (negative signaling : Bool) (payload : Nat)
  | infinite (negative : Bool)
  | finite (negative : Bool) (coefficient : Nat) (exponent : Int)
  deriving DecidableEq, Repr, Inhabited

namespace Decimal

def ofInt (n : Int) : Decimal :=
  .finite (decide (n < 0)) n.natAbs 0

/-- The decimal number that a double's shortest text spells. -/
def ofBinary64 : Binary64 → Decimal
  | .nan => .nan false false 0
  | .infinite s => .infinite s
  | .finite s m e _ =>
    if m = 0 then .finite s 0 (-1)
    else
      let (c, g) := Binary64.shortest m e
      if 0 ≤ g ∧ g + decimalLength c - 1 < 16 then .finite s (c * 10 ^ (g.toNat + 1)) (-1)
      else .finite s c g

def isInfinite : Decimal → Bool
  | .infinite _ => true
  | _ => false

def isNaN : Decimal → Bool
  | .nan .. => true
  | _ => false

/-- The sign bit, which zeros and undefined numbers have too. -/
def isNegative : Decimal → Bool
  | .nan s _ _ => s
  | .infinite s => s
  | .finite s _ _ => s

/-- The exponent of the leading digit; zero for the numbers that have none. -/
def leadingExponent : Decimal → Int
  | .finite _ c e => e + decimalLength c - 1
  | _ => 0

/-- The order of two finite magnitudes. Numbers with leading digits at different exponents are told
apart by these alone. -/
def compareMagnitudes (c : Nat) (e : Int) (c' : Nat) (e' : Int) : Ordering :=
  if c = 0 then (if c' = 0 then .eq else .lt)
  else if c' = 0 then .gt
  else
    let k := e + decimalLength c
    let k' := e' + decimalLength c'
    if k < k' then .lt
    else if k' < k then .gt
    else
      let low := min e e'
      compare (c * 10 ^ (e - low).toNat) (c' * 10 ^ (e' - low).toNat)

/-- The order of two numbers by value, if both are defined. -/
def compare? : Decimal → Decimal → Option Ordering
  | .nan .., _ => none
  | _, .nan .. => none
  | .infinite s, .infinite t => some (if s = t then .eq else if s then .lt else .gt)
  | .infinite s, .finite .. => some (if s then .lt else .gt)
  | .finite .., .infinite t => some (if t then .gt else .lt)
  | .finite s c e, .finite t c' e' =>
    some <|
      if c = 0 ∧ c' = 0 then .eq
      else if c = 0 then (if t then .gt else .lt)
      else if c' = 0 then (if s then .lt else .gt)
      else match s, t with
        | false, false => compareMagnitudes c e c' e'
        | true, true => compareMagnitudes c' e' c e
        | true, false => .lt
        | false, true => .gt

/-- The double nearest to the number, ties to even; an overflow gives the infinity. -/
def toBinary64 : Decimal → Binary64
  | .nan .. => .nan
  | .infinite s => .infinite s
  | .finite s c e =>
    if c = 0 then .zero s
    else
      let k := e + decimalLength c
      if 310 < k then .infinite s
      else if k < -330 then .zero s
      else if 0 ≤ e then .ofQuotient s (c * 10 ^ e.toNat) 1
      else .ofQuotient s c (10 ^ (-e).toNat)

/-- The number in positional notation, without an exponent. -/
def positional : Decimal → List Char
  | .nan s signaling payload =>
    (if s then ['-'] else []) ++ (if signaling then ['s'] else []) ++ ['N', 'a', 'N'] ++
      (if payload = 0 then [] else digits payload)
  | .infinite s => (if s then ['-'] else []) ++ "Infinity".toList
  | .finite s c e =>
    let ds := digits c
    let body :=
      if 0 ≤ e then (if c = 0 then ds else ds ++ List.replicate e.toNat '0')
      else
        let ds := padZeros ((-e).toNat + 1) ds
        let point := ds.length - (-e).toNat
        ds.take point ++ '.' :: ds.drop point
    (if s then ['-'] else []) ++ body

/-- The text of a number: positional while the exponent is not positive and at most five zeros
follow the point before the first digit, else scientific. -/
def text : Decimal → String
  | .finite s c e =>
    let k := e + decimalLength c - 1
    if e ≤ 0 ∧ -6 ≤ k then String.ofList (positional (.finite s c e))
    else
      let mantissa := match digits c with
        | [] => []
        | [d] => [d]
        | d :: rest => d :: '.' :: rest
      let power :=
        if k = 0 then [] else 'E' :: (if k < 0 then '-' else '+') :: digits k.natAbs
      String.ofList ((if s then ['-'] else []) ++ mantissa ++ power)
  | d => String.ofList (positional d)

end Decimal

end Phrasebook
