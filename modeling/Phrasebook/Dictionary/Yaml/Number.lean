import Phrasebook.Dictionary.LoadFault
import Phrasebook.Number
import Phrasebook.Text.Case
import Phrasebook.Text.Hexadecimal

/-!
# Numbers in YAML

A whole number is written in base two, eight, ten, sixteen or sixty, and a number with a point in
base ten or sixty. Underscores may stand anywhere. A node that is said to be a number is read by the
same rules, but may turn out to be none.
-/

set_option autoImplicit false

namespace Phrasebook.Yaml

open Arithmetic Text

-- powers and empty sums as the core library has them
attribute [local instance (high)] instPowNat Zero.ofOfNat0

/-- The letter that says after a zero that a base follows. -/
def baseMarks (base : Nat) : List Char :=
  if base = 2 then ['b', 'B']
  else if base = 8 then ['o', 'O']
  else if base = 16 then ['x', 'X']
  else []

/-- A text without the mark of its base. -/
def dropBaseMark (base : Nat) : List Char → List Char
  | '0' :: c :: s => if (baseMarks base).contains c then s else '0' :: c :: s
  | s => s

/-- The value of a digit in a base; decimal digits may be of any script. -/
def baseDigit? (base : Nat) (c : Char) : Option Nat :=
  ((digitValue? c).or (hexValue? c)).filter (· < base)

/-- The whole number that a text is in a base, with a sign and white space around it. In base ten
there is a limit to the number of digits. -/
def wholeIn (base : Nat) (s : List Char) : Except ScalarFault Int := do
  let (negative, body) := takeSign (trim s)
  let body := dropBaseMark base body
  let ds := (body.takeWhile fun c ↦ (baseDigit? base c).isSome)
  if base = 10 then (LongNumeral.check ds).mapError .longNumeral
  if ds.isEmpty || ds.length != body.length then throw (.notWhole base (String.ofList s))
  let n := (ds.filterMap (baseDigit? base)).foldl (fun n d ↦ n * base + d) 0
  return if negative then -n else n

/-- A whole number without its sign. -/
def natural (s : List Char) : Except ScalarFault Int :=
  match s with
  | ['0'] => .ok 0
  | '0' :: 'b' :: ds => wholeIn 2 ds
  | '0' :: 'x' :: ds => wholeIn 16 ds
  | '0' :: _ => wholeIn 8 s
  | [] => .error .noNumber
  | _ =>
    if s.contains ':' then do
      -- the first part that is no number counts, so the parts are read in their order
      let parts ← (s.splitOn ':').mapM (wholeIn 10)
      return (parts.reverse.zipIdx.map fun p ↦ p.1 * 60 ^ p.2).sum
    else wholeIn 10 s

/-- The sign of a number, and what follows it. -/
def readSign (s : List Char) : Except ScalarFault (Bool × List Char) :=
  if s.isEmpty then .error .noNumber else .ok (takeSign s)

/-- The whole number that a scalar is. -/
def readInteger (s : List Char) : Except ScalarFault Int := do
  let (negative, body) ← readSign (s.filter (· ≠ '_'))
  let n ← natural body
  return if negative then -n else n

/-- The number that a text spells as a double. -/
def double (s : List Char) : Except ScalarFault Binary64 :=
  match Binary64.ofText? s with
  | some x => .ok x
  | none => .error (.notNumber (String.ofList s))

/-- A number with a point without its sign. -/
def magnitude (s : List Char) : Except ScalarFault Binary64 :=
  if s = ['.', 'i', 'n', 'f'] then .ok (.infinite false)
  else if s = ['.', 'n', 'a', 'n'] then .ok .nan
  else if s.contains ':' then do
    let parts ← (s.splitOn ':').mapM double
    return (parts.reverse.zipIdx.foldl
      (fun sum p ↦ sum.add (p.1.mul (.ofInt (60 ^ p.2)))) (.zero false))
  else double s

/-- The number with a point that a scalar is. -/
def readFloat (s : List Char) : Except ScalarFault Binary64 := do
  let (negative, body) ← readSign (Text.lower (s.filter (· ≠ '_')))
  let x ← magnitude body
  return if negative then x.neg else x

end Phrasebook.Yaml
