import Phrasebook.Locale.Data
import Phrasebook.Number

/-!
# Why a value has no localized text
-/

set_option autoImplicit false

namespace Phrasebook

/-- Why a value cannot be written the way a locale writes it. -/
inductive FormatFault
  /-- The tag means no known locale. -/
  | unknownLocale
  /-- The locale has no pattern or name of the kind that was asked for. -/
  | missingData
  /-- The pattern or style is not one. -/
  | invalidPattern
  /-- The value is not of the kind that is written so, or lacks a part that the pattern asks for. -/
  | unsuitableValue
  /-- The number cannot be brought to the digits that are asked for. -/
  | invalidOperation
  /-- The number lies beyond the range of decimal arithmetic. -/
  | overflow
  /-- What should be written as a date is neither a date nor a moment. -/
  | notADate
  /-- What should be compared with the present is not a moment. -/
  | notAMoment
  /-- The present lies outside the calendar for the offset of the moment it is compared with. -/
  | outsideCalendar
  /-- The years of a number of seconds are more than a system counts. -/
  | outsideClock
  deriving DecidableEq, Repr

namespace FormatFault

/-- Whether the caller should show the plain text of the value instead. The other faults are errors
of the call and not of the data. -/
def isRecoverable : FormatFault → Bool
  | .overflow => false
  | .notADate => false
  | .notAMoment => false
  | .outsideCalendar => false
  | .outsideClock => false
  | _ => true

def ofDecimal : Decimal.Fault → FormatFault
  | .invalidOperation => .invalidOperation
  | .overflow => .overflow

end FormatFault

namespace Format

/-- The result of an arithmetic step of a format. -/
def arith {α : Type} (x : Except Decimal.Fault α) : Except FormatFault α :=
  x.mapError FormatFault.ofDecimal

/-- What a look-up found, or the fault that stands for not finding it. -/
def need {α : Type} (fault : FormatFault) (x : Option α) : Except FormatFault α :=
  match x with
  | some a => .ok a
  | none => .error fault

/-- The data of the locale that a tag means. -/
def dataOf (tag : String) (book : LocaleBook) : Except FormatFault LocaleData :=
  (need .unknownLocale (Locale.ofTag? tag)).map book.data

theorem dataOf_of_ofTag? {tag : String} {locale : Locale} (h : Locale.ofTag? tag = some locale)
    (book : LocaleBook) : dataOf tag book = .ok (book.data locale) := by
  rw [dataOf, h]
  rfl

theorem exists_of_dataOf {tag : String} {book : LocaleBook} {data : LocaleData}
    (h : dataOf tag book = .ok data) :
    ∃ locale, Locale.ofTag? tag = some locale ∧ data = book.data locale := by
  unfold dataOf need at h
  cases hlocale : Locale.ofTag? tag with
  | none => simp [hlocale, Except.map] at h
  | some locale =>
    rw [hlocale] at h
    exact ⟨locale, rfl, (Except.ok.inj h).symm⟩

end Format

end Phrasebook
