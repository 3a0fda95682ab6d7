import Phrasebook.Locale.Tables

/-!
# The plural category of a number

Numbers without a locale fall back to the distinction between one and more than one; infinities have
no operands and belong to the category `other` in every locale.
-/

set_option autoImplicit false

namespace Phrasebook

namespace Plural

/-- The operands of a finite number. Decimal numbers are fitted to the working precision first. -/
def Operands.ofNumber : Number → Except Decimal.Fault Operands
  | .integer n => .ok (.ofNat n.natAbs)
  | .binary x =>
    match x.toInt? with
    | some n => .ok (.ofNat n.natAbs)
    | none =>
      match Decimal.ofBinary64 x with
      | .finite _ c e => .ok (.ofDecimal c e)
      | _ => .ok (.ofNat 0)
  | .decimal d =>
    match d.abs with
    | .ok (.finite _ c e) => .ok (.ofDecimal c e)
    | .ok _ => .ok (.ofNat 0)
    | .error e => .error e

/-- The category of a finite number by rules. -/
def ofFinite (rules : Rules) (n : Number) : Except Decimal.Fault Plural := do
  rules.select (← Operands.ofNumber n)

/-- Whether the absolute value of a number is one, after fitting decimal numbers. -/
def isUnit : Number → Except Decimal.Fault Bool
  | .integer n => .ok (n.natAbs == 1)
  | .binary x => .ok (x.abs.toInt? == some 1)
  | .decimal d => d.abs.map fun a ↦ a.compare? (.ofInt 1) == some .eq

/-- The category of a number in the locale that a tag means. A whole number too large for a double
has none. -/
def ofNumber (n : Number) (tag : String) (kind : PluralKind) (book : LocaleBook := .tables) :
    Except Number.Fault Plural := do
  let x ← n.toBinary64
  if !x.isFinite then return .other
  let answer : Except Decimal.Fault Plural :=
    match Locale.ofTag? tag with
    | some locale => ofFinite ((book.data locale).plurals kind) n
    | none =>
      match kind with
      | .ordinal => .ok .other
      | .cardinal => (isUnit n).map fun b ↦ if b then .one else .other
  answer.mapError .decimal

end Plural

end Phrasebook
