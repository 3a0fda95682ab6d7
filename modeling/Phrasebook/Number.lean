import Phrasebook.Decimal.Arithmetic
import Phrasebook.Decimal.Numeral

/-!
# The numbers of a message

A message can be given a whole number of any size, a double, or a decimal number. The three kinds
compare by exact value, and each has its own text.
-/

set_option autoImplicit false

namespace Phrasebook

open Arithmetic

-- powers as the core library has them
attribute [local instance (high)] instPowNat

/-- A number of one of the three kinds. -/
inductive Number
  | integer (n : Int)
  | binary (x : Binary64)
  | decimal (d : Decimal)
  deriving DecidableEq

namespace Number

/-- Why an operation on numbers has no result. -/
inductive Fault
  /-- A whole number had to become a double and is too large for one. -/
  | tooLarge
  /-- An undefined number that signals had to become a double. -/
  | signalingNaN
  /-- A decimal operation failed. -/
  | decimal (fault : Decimal.Fault)
  /-- A whole number has more digits than are written. -/
  | overlong
  deriving DecidableEq

/-- The text of a number in its own notation. -/
def text : Number → String
  | .integer n => toString n
  | .binary x => x.text
  | .decimal d => d.text

/-- The plain text of a number inside a message: a double that is whole is written as a whole
number. -/
def plainText : Number → String
  | .binary x =>
    match x.toInt? with
    | some n => toString n
    | none => x.text
  | n => n.text

/-- Whether a number is a whole number with more digits than are read or written. -/
def isOverlong : Number → Bool
  | .integer n => decide (10 ^ Text.LongNumeral.limit ≤ n.natAbs)
  | _ => false

def isNaN : Number → Bool
  | .integer _ => false
  | .binary x => x.isNaN
  | .decimal d => d.isNaN

/-- Zero of either sign. -/
def isZero : Number → Bool
  | .integer n => n == 0
  | .binary x => x.toInt? == some 0
  | .decimal (.finite _ c _) => c == 0
  | .decimal _ => false

/-- The double that is a whole number, if it fits one. -/
def ofIntExact (n : Int) : Except Fault Binary64 :=
  match Binary64.ofInt n with
  | .infinite _ => .error .tooLarge
  | x => .ok x

/-- The nearest double. -/
def toBinary64 : Number → Except Fault Binary64
  | .integer n => ofIntExact n
  | .binary x => .ok x
  | .decimal (.nan _ true _) => .error .signalingNaN
  | .decimal d => .ok d.toBinary64

/-- The decimal number that the text of this number spells. -/
def toDecimal : Number → Decimal
  | .integer n => .ofInt n
  | .binary x => .ofBinary64 x
  | .decimal d => d

/-- The number lowered by a whole number. -/
def lower (n : Number) (offset : Int) : Except Fault Number :=
  match n with
  | .integer n => .ok (.integer (n - offset))
  | .binary x => (ofIntExact offset).map fun y ↦ .binary (x.sub y)
  | .decimal d =>
    match d.subInt offset with
    | .ok d => .ok (.decimal d)
    | .error e => .error (.decimal e)

end Number

/-- The exact decimal value of a double. -/
def Decimal.ofBinary64Exact : Binary64 → Decimal
  | .nan => .nan false false 0
  | .infinite s => .infinite s
  | .finite s m e _ =>
    if 0 ≤ e then .finite s (m * 2 ^ e.toNat) 0
    else .finite s (m * 5 ^ (-e).toNat) e

namespace Number

/-- Whether a double has exactly the value of the number. -/
def equalsBinary (x : Binary64) : Number → Bool
  | .integer n => decide (x.toInt? = some n)
  | .binary y => decide (Decimal.compare? (.ofBinary64Exact x) (.ofBinary64Exact y) = some .eq)
  | .decimal d => decide (Decimal.compare? (.ofBinary64Exact x) d = some .eq)

end Number

end Phrasebook
