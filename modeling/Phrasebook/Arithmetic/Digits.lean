/-!
# Decimal digits of natural numbers
-/

set_option autoImplicit false

namespace Phrasebook.Arithmetic

/-- The number of decimal digits of `n`; zero has one digit. -/
def decimalLength (n : Nat) : Nat :=
  if n < 10 then 1 else decimalLength (n / 10) + 1

/-- The decimal digits of `n`, most significant first. -/
def digits (n : Nat) : List Char :=
  Nat.toDigits 10 n

/-- The number that a row of digit values spells, most significant first. -/
def ofDigits (ds : List Nat) : Nat :=
  ds.foldl (fun n d ↦ 10 * n + d) 0

/-- The digit row `s`, with zeros in front until it has `width` digits. -/
def padZeros (width : Nat) (s : List Char) : List Char :=
  List.replicate (width - s.length) '0' ++ s

/-- Removes the factors of ten from `n` and counts them, at most `limit` of them. -/
def stripTens (n : Nat) : Nat → Nat × Nat
  | 0 => (n, 0)
  | limit + 1 =>
    if n ≠ 0 ∧ n % 10 = 0 then
      let r := stripTens (n / 10) limit
      (r.1, r.2 + 1)
    else (n, 0)

end Phrasebook.Arithmetic
