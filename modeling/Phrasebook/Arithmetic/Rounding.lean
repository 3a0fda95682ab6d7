/-!
# Rounding a quotient to a whole number

All rounding in this library rounds an exact quotient of natural numbers, so the only question is
what happens to a tie: it goes to the even neighbour, or away from zero.
-/

set_option autoImplicit false

namespace Phrasebook.Arithmetic

/-- Which neighbour a tie goes to. -/
inductive Tie
  | toEven
  | awayFromZero
  deriving DecidableEq, Repr

/-- The whole number nearest to `n / d`; of two that are equally near, the one that `tie` names. -/
def roundQuotient (tie : Tie) (n d : Nat) : Nat :=
  if 2 * (n % d) < d then n / d
  else if d < 2 * (n % d) then n / d + 1
  else match tie with
    | .toEven => if n / d % 2 = 0 then n / d else n / d + 1
    | .awayFromZero => n / d + 1

/-- A quotient without a remainder is its own rounding. -/
theorem roundQuotient_of_dvd (tie : Tie) {n d : Nat} (hd : 0 < d) (h : d ∣ n) :
    roundQuotient tie n d = n / d := by
  simp [roundQuotient, Nat.mod_eq_zero_of_dvd h, hd]

/-- The rounding is one of the two whole numbers around the quotient. -/
theorem roundQuotient_mem (tie : Tie) (n d : Nat) :
    roundQuotient tie n d = n / d ∨ roundQuotient tie n d = n / d + 1 := by
  unfold roundQuotient
  repeat' split
  all_goals simp

end Phrasebook.Arithmetic
