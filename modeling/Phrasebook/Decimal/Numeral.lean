import Phrasebook.Decimal.Basic
import Phrasebook.Text.Character

/-!
# Reading numbers from text

A numeral has an optional sign, digits of any script with an optional point among them, and an
optional power of ten. Doubles and decimal numbers share it and differ in what may stand between the
digits and in the names of the special numbers.
-/

set_option autoImplicit false

namespace Phrasebook

open Arithmetic

namespace Text

/-- The digit values at the start of a text, and what follows them. -/
def takeDigits : List Char → List Nat × List Char
  | [] => ([], [])
  | c :: s =>
    match digitValue? c with
    | some d => let r := takeDigits s; (d :: r.1, r.2)
    | none => ([], c :: s)

/-- An optional sign, and what follows it. -/
def takeSign : List Char → Bool × List Char
  | '-' :: s => (true, s)
  | '+' :: s => (false, s)
  | s => (false, s)

/-- The integer that a text spells: an optional minus sign and digits of any script. -/
def readInt? (s : List Char) : Option Int :=
  let (negative, body) := match s with
    | '-' :: r => (true, r)
    | _ => (false, s)
  match takeDigits body with
  | ([], _) => none
  | (ds, []) => some (if negative then -(ofDigits ds : Int) else ofDigits ds)
  | _ => none

/-- A whole number that is written with more digits than are read. -/
structure LongNumeral where
  digits : Nat
  deriving DecidableEq, Repr

namespace LongNumeral

/-- The most digits of a whole number that are read. -/
def limit : Nat := 4300

/-- Refuses a row of digits that is too long. -/
def check (ds : List Char) : Except LongNumeral Unit :=
  if limit < ds.length then .error ⟨ds.length⟩ else .ok ()

/-- The fault in words. -/
def message (f : LongNumeral) : String :=
  "Exceeds the limit (" ++ toString limit ++ " digits) for integer string conversion: value has " ++
    toString f.digits ++ " digits; use sys.set_int_max_str_digits() to increase the limit"

end LongNumeral

/-- The power of ten that ends a numeral; nothing stands for the power zero. -/
def readPower? : List Char → Option Int
  | [] => some 0
  | c :: s =>
    if c = 'e' ∨ c = 'E' then
      let (negative, body) := takeSign s
      match takeDigits body with
      | ([], _) => none
      | (ds, []) => some (if negative then -(ofDigits ds : Int) else ofDigits ds)
      | _ => none
    else none

/-- The coefficient and exponent of an unsigned numeral. -/
def readNumeral? (s : List Char) : Option (Nat × Int) :=
  let (whole, rest) := takeDigits s
  let (places, rest) := match rest with
    | '.' :: r => takeDigits r
    | r => ([], r)
  if whole.isEmpty && places.isEmpty then none
  else (readPower? rest).map fun k ↦ (ofDigits (whole ++ places), k - places.length)

/-- Removes underscores, each of which must stand between two digits. -/
def joinDigits? : Option Char → List Char → Option (List Char)
  | before, [] => if before = some '_' then none else some []
  | before, c :: s =>
    if c = '_' then
      if before.any isDigit then joinDigits? (some c) s else none
    else if before = some '_' ∧ isDigit c = false then none
    else (joinDigits? (some c) s).map (c :: ·)

/-- White space that may surround the text of a double. -/
def isPadding (c : Char) : Bool :=
  isBlank c && !(decide (0x1C ≤ c.toNat) && decide (c.toNat ≤ 0x1F))

/-- The text in lower-case ASCII letters. -/
def lowerAscii (s : List Char) : String :=
  String.ofList (s.map Char.toLower)

end Text

open Text

/-- The double that a text spells: a numeral, `inf`, `infinity` or `nan` in any case, with white
space around it. The nearest double is taken, so a numeral too large is an infinity. -/
def Binary64.ofText? (s : List Char) : Option Binary64 :=
  let s := ((s.dropWhile isPadding).reverse.dropWhile isPadding).reverse
  match joinDigits? none s with
  | none => none
  | some s =>
    let (negative, body) := takeSign s
    let name := lowerAscii body
    if name = "inf" ∨ name = "infinity" then some (.infinite negative)
    else if name = "nan" then some .nan
    else (readNumeral? body).map fun n ↦ (Decimal.finite negative n.1 n.2).toBinary64

/-- The decimal number that a text spells. Underscores are ignored, white space around the text too;
an undefined number may carry digits. -/
def Decimal.ofText? (s : List Char) : Option Decimal :=
  let s := (trim s).filter (· ≠ '_')
  let (negative, body) := takeSign s
  let name := lowerAscii body
  if name = "inf" ∨ name = "infinity" then some (.infinite negative)
  else
    let special (word : List Char) (signaling : Bool) : Option Decimal :=
      match after? word name.toList with
      | some rest =>
        match takeDigits rest with
        | (ds, []) => some (.nan negative signaling (ofDigits ds))
        | _ => none
      | none => none
    match special ['n', 'a', 'n'] false, special ['s', 'n', 'a', 'n'] true with
    | some d, _ => some d
    | none, some d => some d
    | none, none => (readNumeral? body).map fun n ↦ .finite negative n.1 n.2

end Phrasebook
