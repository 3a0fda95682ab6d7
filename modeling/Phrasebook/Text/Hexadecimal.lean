/-!
# Hexadecimal digits

Characters are named by their codes in base sixteen, both where texts are shown to the author and
in the documents that dictionaries are read from.
-/

set_option autoImplicit false

namespace Phrasebook.Text

/-- The lower-case hexadecimal digit of value `n < 16`. -/
def hexDigit (n : Nat) : Char :=
  if n < 10 then Char.ofNat (0x30 + n) else Char.ofNat (0x57 + n)

/-- The last `width` hexadecimal digits of `n`. -/
def hex : Nat → Nat → List Char
  | 0, _ => []
  | width + 1, n => hex width (n / 16) ++ [hexDigit (n % 16)]

/-- The value of a hexadecimal digit in either case. -/
def hexValue? (c : Char) : Option Nat :=
  if '0' ≤ c ∧ c ≤ '9' then some (c.toNat - 0x30)
  else if 'a' ≤ c ∧ c ≤ 'f' then some (c.toNat - 0x57)
  else if 'A' ≤ c ∧ c ≤ 'F' then some (c.toNat - 0x37)
  else none

/-- The value of the `count` hexadecimal digits that a text begins with. -/
def hexRun? (count : Nat) (s : List Char) : Option Nat :=
  if s.length < count then none
  else ((s.take count).mapM hexValue?).map fun ds ↦ ds.foldl (fun n d ↦ n * 16 + d) 0

end Phrasebook.Text
