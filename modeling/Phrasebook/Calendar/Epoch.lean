import Phrasebook.Calendar.Moment
import Phrasebook.Number

/-!
# Epoch time

A number given where a moment is wanted counts milliseconds since 1970 in UTC. The count is a
double, and its fraction of a second is rounded to the nearest microsecond, ties to even.
-/

set_option autoImplicit false

namespace Phrasebook.Calendar

open Arithmetic

/-- The ordinal of 1 January 1970. -/
def epochOrdinal : Nat := 719163

/-- A nonnegative double rounded to a whole number, ties to even. -/
def roundToEven (x : Binary64) : Nat :=
  match x.quotient? with
  | some (n, d) => roundQuotient .toEven n.natAbs d
  | none => 0

/-- The moment so many seconds after the epoch, if it lies in the calendar. The whole seconds and
the fraction are split toward zero, and the fraction is scaled to microseconds as a double. -/
def Moment.ofSeconds? (x : Binary64) : Option Moment :=
  match x with
  | .finite negative m e _ =>
    let (num, den) := Binary64.scaled m e
    let whole := num / den
    let fraction := (Binary64.ofQuotient false (num % den) den).mul (.ofInt 1000000)
    let micro : Int := roundToEven fraction
    let total : Int := (whole : Int) * 1000000 + micro
    Moment.ofLocalMicroseconds?
      ((epochOrdinal : Int) * 86400000000 + (if negative then -total else total)) (some .utc)
  | _ => none

/-- The moment that a number of milliseconds since the epoch gives. -/
def Moment.ofEpoch? (n : Number) : Option Moment :=
  match n.toBinary64 with
  | .ok x => Moment.ofSeconds? (x.divNat 1000)
  | .error _ => none

end Phrasebook.Calendar
