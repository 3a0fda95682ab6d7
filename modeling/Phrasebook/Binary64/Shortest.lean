import Phrasebook.Arithmetic.Digits
import Phrasebook.Binary64.Basic

/-!
# The shortest decimal text of a double

A double is written with the fewest digits that read back as the same double, and of those with the
digits nearest to its exact value. All arithmetic is exact: the doubles on both sides bound the
interval of numbers that round to `x`, and the two neighbours of `x` on each decimal grid are tested
against it, from the coarsest grid to the finest.
-/

set_option autoImplicit false

namespace Phrasebook

open Arithmetic

-- powers as the core library has them
attribute [local instance (high)] instPowNat

namespace Binary64

/-- The bounds of the numbers that round to the positive double `m * 2 ^ e`, and the double itself,
as multiples of `2 ^ (e - 2)`. -/
def roundingInterval (m : Nat) (e : Int) : Nat × Nat × Nat :=
  (if m = 2 ^ (52 : Nat) ∧ e ≠ -1074 then 4 * m - 1 else 4 * m - 2, 4 * m, 4 * m + 2)

/-- The exponent of the leading decimal digit of the positive fraction `n / d`. -/
def leadingExponent (n d : Nat) : Int :=
  if d ≤ n then (decimalLength (n / d) : Int) - 1
  else -(decimalLength ((d + n - 1) / n - 1) : Int)

/-- The multiple of `10 ^ g` that is nearest to `m * 2 ^ e` among those that read back as it, if its
two neighbours on that grid have one. -/
def onGrid (m : Nat) (e g : Int) : Option Nat :=
  let (low, value, high) := roundingInterval m e
  -- every quantity is multiplied by `4 / 2 ^ e` and by `10 ^ -g`, as far as these are positive
  let ten := 10 ^ (-g).toNat * 2 ^ (e - 2).toNat
  let unit := 10 ^ g.toNat * 2 ^ (2 - e).toNat
  let below := value * ten / unit
  let above := below + 1
  let inside (c : Nat) : Bool :=
    if m % 2 = 0 then decide (low * ten ≤ c * unit) && decide (c * unit ≤ high * ten)
    else decide (low * ten < c * unit) && decide (c * unit < high * ten)
  if inside below then
    if inside above then
      let rest := value * ten - below * unit
      if 2 * rest < unit then some below
      else if unit < 2 * rest then some above
      else if below % 2 = 0 then some below else some above
    else some below
  else if inside above then some above
  else none

/-- The first grid with a hit, over `count` further grids, each ten times finer than the last. -/
def searchGrids (m : Nat) (e : Int) : Nat → Int → Nat × Int
  | 0, g => ((onGrid m e g).getD 0, g)
  | count + 1, g =>
    match onGrid m e g with
    | some c => (c, g)
    | none => searchGrids m e count (g - 1)

/-- The shortest coefficient and exponent with `coefficient * 10 ^ exponent` nearest to the positive
double `m * 2 ^ e`. Seventeen digits always suffice. -/
def shortest (m : Nat) (e : Int) : Nat × Int :=
  let (n, d) := scaled m e
  let r := searchGrids m e 16 (leadingExponent n d)
  let s := stripTens r.1 20
  (s.1, r.2 + s.2)

/-- The exponent part of a number in scientific notation: a sign and at least two digits. -/
def exponentText (k : Int) : List Char :=
  'e' :: (if k < 0 then '-' else '+') :: padZeros 2 (digits k.natAbs)

/-- A positive number `c * 10 ^ g`: positional when its leading digit has an exponent from -4 to 15,
with a zero after the point for whole numbers, and scientific otherwise. -/
def digitsText (c : Nat) (g : Int) : List Char :=
  let ds := digits c
  let k := g + ds.length - 1
  if -4 ≤ k ∧ k < 16 then
    if 0 ≤ g then ds ++ List.replicate g.toNat '0' ++ ['.', '0']
    else if 0 ≤ k then ds.take (k + 1).toNat ++ '.' :: ds.drop (k + 1).toNat
    else '0' :: '.' :: List.replicate (-k - 1).toNat '0' ++ ds
  else
    match ds with
    | [] => []
    | [d] => d :: exponentText k
    | d :: rest => d :: '.' :: rest ++ exponentText k

/-- The text of a double. -/
def text : Binary64 → String
  | .nan => "nan"
  | .infinite s => if s then "-inf" else "inf"
  | .finite s m e _ =>
    let body :=
      if m = 0 then ['0', '.', '0'] else let (c, g) := shortest m e; digitsText c g
    String.ofList (if s then '-' :: body else body)

end Binary64

end Phrasebook
