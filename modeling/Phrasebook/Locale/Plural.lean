import Phrasebook.Locale.Basic
import Phrasebook.Number

/-!
# Plural categories

Every locale sorts numbers into at most six categories by rules over a few operands: the number
itself, its whole part, and the digits after its point with and without trailing zeros. The rules
are tried in order and the first that holds names the category.
-/

set_option autoImplicit false

namespace Phrasebook

open Arithmetic

-- powers as the core library has them
attribute [local instance (high)] instPowNat

/-- A plural category. -/
inductive Plural
  | zero
  | one
  | two
  | few
  | many
  | other
  deriving DecidableEq, Repr

/-- The word by which messages select a category. -/
def Plural.word : Plural → String
  | .zero => "zero"
  | .one => "one"
  | .two => "two"
  | .few => "few"
  | .many => "many"
  | .other => "other"

/-- Whether numbers count things or give ranks. -/
inductive PluralKind
  | cardinal
  | ordinal
  deriving DecidableEq, Repr

namespace PluralKind

def word : PluralKind → String
  | .cardinal => "cardinal"
  | .ordinal => "ordinal"

/-- Everything but `ordinal` asks for counting. -/
def ofWord (s : String) : PluralKind :=
  if s = "ordinal" then .ordinal else .cardinal

end PluralKind

namespace Plural

/-- The operands of plural rules: the number `n`, its whole part `i`, the number `v` and value `f`
of its fraction digits, the same without trailing zeros `w` and `t`, and its compact exponent
`e`. -/
inductive Operand
  | n
  | i
  | v
  | w
  | f
  | t
  | e
  deriving DecidableEq, Repr

/-- The operand, perhaps reduced by a modulus, lies in one of the ranges, or in none of them. -/
structure Relation where
  operand : Operand
  modulus : Option Nat
  negated : Bool
  ranges : List (Nat × Nat)
  deriving DecidableEq, Repr

/-- Categories with their conditions, each a disjunction of conjunctions. -/
abbrev Rules := List (Plural × List (List Relation))

/-- The operands of one number. The number itself is `coefficient * 10 ^ exponent`, with an exponent
of zero for whole numbers that are exact. -/
structure Operands where
  coefficient : Nat
  exponent : Int
  i : Nat
  v : Nat
  w : Nat
  f : Nat
  t : Nat
  deriving DecidableEq, Repr

/-- The operands of a whole number. -/
def Operands.ofNat (n : Nat) : Operands :=
  ⟨n, 0, n, 0, 0, 0, 0⟩

/-- The operands of a decimal number. Its fraction digits are the last digits of its coefficient,
which may have fewer digits than the exponent asks for. -/
def Operands.ofDecimal (c : Nat) (e : Int) : Operands :=
  let i := if 0 ≤ e then c * 10 ^ e.toNat else c / 10 ^ (-e).toNat
  if 0 ≤ e then ⟨c, e, i, 0, 0, 0, 0⟩
  else
    let v := min (-e).toNat (decimalLength c)
    let f := c % 10 ^ v
    let s := stripTens f v
    if f = 0 then ⟨c, e, i, v, 0, 0, 0⟩ else ⟨c, e, i, v, v - s.2, f, s.1⟩

/-- Whether the number `c * 10 ^ e` is whole and lies in one of the ranges. -/
def inRanges (c : Nat) (e : Int) (ranges : List (Nat × Nat)) : Bool :=
  let whole (n : Nat) := ranges.any fun r ↦ decide (r.1 ≤ n) && decide (n ≤ r.2)
  if 0 ≤ e then whole (c * 10 ^ e.toNat)
  else c % 10 ^ (-e).toNat == 0 && whole (c / 10 ^ (-e).toNat)

/-- Whether a relation holds. Only the remainder of a decimal number can fail. -/
def Relation.holds (r : Relation) (o : Operands) : Except Decimal.Fault Bool :=
  let small (x : Nat) : Bool :=
    inRanges (match r.modulus with | some m => x % m | none => x) 0 r.ranges
  let answer : Except Decimal.Fault Bool :=
    match r.operand with
    | .n =>
      match r.modulus with
      | none => .ok (inRanges o.coefficient o.exponent r.ranges)
      | some m =>
        if o.exponent = 0 then .ok (small o.coefficient)
        else (Decimal.modNat o.coefficient o.exponent m).map fun q ↦ inRanges q.1 q.2 r.ranges
    | .i => .ok (small o.i)
    | .v => .ok (small o.v)
    | .w => .ok (small o.w)
    | .f => .ok (small o.f)
    | .t => .ok (small o.t)
    | .e => .ok (small 0)
  answer.map fun b ↦ b != r.negated

/-- Whether all relations hold, tried in order. -/
def allHold (o : Operands) : List Relation → Except Decimal.Fault Bool
  | [] => .ok true
  | r :: rs => do
    if ← r.holds o then allHold o rs else return false

/-- Whether one of the conjunctions holds, tried in order. -/
def anyHolds (o : Operands) : List (List Relation) → Except Decimal.Fault Bool
  | [] => .ok false
  | c :: cs => do
    if ← allHold o c then return true else anyHolds o cs

/-- The category of the first rule that holds. -/
def Rules.select (o : Operands) : Rules → Except Decimal.Fault Plural
  | [] => .ok .other
  | r :: rs => do
    if ← anyHolds o r.2 then return r.1 else Rules.select o rs

end Plural

end Phrasebook
