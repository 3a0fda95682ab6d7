import Phrasebook.Calendar.Epoch
import Phrasebook.Calendar.Iso
import Phrasebook.Decimal.Numeral

/-!
# Values of message variables

A message is rendered with values of a few kinds. Every value has a plain text, which does not
depend on the locale, and some values can be read as a number or as a moment.
-/

set_option autoImplicit false

namespace Phrasebook

open Calendar Text

/-- What a variable of a message can stand for. -/
inductive Value
  | absent
  | boolean (b : Bool)
  | number (n : Number)
  | text (s : String)
  | date (d : Date)
  | moment (m : Moment)
  | list (items : List Value)
  deriving Inhabited

/-- The values of the variables of a message. -/
inductive Values
  /-- Each variable has its value; one without a value is absent. -/
  | named (value : String → Value)
  /-- Something without names was given, so no variable can be asked for. -/
  | nameless

namespace Value

mutual

/-- The plain text of a value. -/
def plainText : Value → String
  | .absent => ""
  | .boolean b => if b then "true" else "false"
  | .number n => n.plainText
  | .text s => s
  | .date d => d.isoText
  | .moment m => m.isoText
  | .list items => ",".intercalate (plainTexts items)

/-- The plain texts of several values. -/
def plainTexts : List Value → List String
  | [] => []
  | v :: vs => plainText v :: plainTexts vs

end

/-- The texts of several values are the text of each. -/
@[simp]
theorem plainTexts_eq_map (vs : List Value) : plainTexts vs = vs.map plainText := by
  induction vs with
  | nil => rfl
  | cons v vs ih => simp [plainTexts, ih]

mutual

/-- Whether the plain text of a value has a whole number in it that is too long to be written. -/
def isOverlong : Value → Bool
  | .number n => n.isOverlong
  | .list items => anyOverlong items
  | _ => false

/-- Whether one of several values is so. -/
def anyOverlong : List Value → Bool
  | [] => false
  | v :: vs => isOverlong v || anyOverlong vs

end

def isAbsent : Value → Bool
  | .absent => true
  | _ => false

/-- Whether a value counts as nothing: an absent one, falsehood, zero, an empty text or list. -/
def isNothing : Value → Bool
  | .absent => true
  | .boolean b => !b
  | .number n => n.isZero
  | .text s => s.isEmpty
  | .list items => items.isEmpty
  | _ => false

/-- The number that plural rules can select on: any number that is defined. -/
def number? : Value → Option Number
  | .number n => if n.isNaN then none else some n
  | _ => none

/-- The number that a value can be read as: a number, or a text that spells a double. -/
def readNumber? : Value → Option Number
  | .text s =>
    match Binary64.ofText? (trim s.toList) with
    | some .nan => none
    | some x => some (.binary x)
    | none => none
  | v => v.number?

/-- The text of a moment in ISO form without the white space around it, a final `Z` written out. -/
def isoForm (s : List Char) : List Char :=
  let s := trim s
  match s.reverse with
  | 'Z' :: r => r.reverse ++ ['+', '0', '0', ':', '0', '0']
  | _ => s

/-- The moment that a value can be read as: a moment, the midnight of a date, a number of
milliseconds since the epoch, or a text in ISO form. -/
def readMoment? : Value → Option Moment
  | .moment m => some m
  | .date d => some ⟨d, .midnight, none⟩
  | .text s => Moment.ofIso? (isoForm s.toList)
  | v => v.number?.bind Moment.ofEpoch?

/-- The decimal number that the text of a number, or a text, spells. -/
def toDecimal? : Value → Option Decimal
  | .number n => if n.isOverlong then none else some n.toDecimal
  | .text s => Decimal.ofText? s.toList
  | _ => none

end Value

/-- The values that a list of pairs gives; of two pairs with one name the first counts. -/
def Values.ofList (pairs : List (String × Value)) : Values :=
  .named fun name ↦ (pairs.lookup name).getD .absent

/-- No values at all. -/
def Values.none : Values :=
  .ofList []

end Phrasebook
