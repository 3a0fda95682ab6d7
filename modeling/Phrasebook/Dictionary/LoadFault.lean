import Phrasebook.Calendar.Moment
import Phrasebook.Decimal.Numeral
import Phrasebook.Text.Quoted

/-!
# Why a dictionary cannot be loaded

A file may be missing, or be no document of its format. A document may also hold a scalar that says
what kind of value it is and then is none; such a scalar has a fault of its own.
-/

set_option autoImplicit false

namespace Phrasebook

open Calendar Text

/-- A part of a date or time that is out of range. -/
inductive DatePart
  | year (n : Nat)
  | month
  | day
  | hour
  | minute
  | second
  deriving DecidableEq, Repr

namespace DatePart

/-- What is wrong with the part, in words. -/
def message : DatePart → String
  | .year n => "year " ++ toString n ++ " is out of range"
  | .month => "month must be in 1..12"
  | .day => "day is out of range for month"
  | .hour => "hour must be in 0..23"
  | .minute => "minute must be in 0..59"
  | .second => "second must be in 0..59"

end DatePart

/-- Why a scalar is not the value that it should be. -/
inductive ScalarFault
  | longNumeral (fault : LongNumeral)
  /-- A whole number in a base that is none. -/
  | notWhole (base : Nat) (text : String)
  | notNumber (text : String)
  /-- A number without any character. -/
  | noNumber
  /-- A truth value that is no known word. -/
  | unknownWord (word : String)
  /-- A date or time in no known form. -/
  | notMoment
  | outOfRange (part : DatePart)
  /-- A distance from UTC of a day or more, in seconds. -/
  | farFromUtc (seconds : Int)
  /-- The number of a character that there is not. -/
  | noCharacter (code : Nat)
  deriving DecidableEq, Repr

namespace ScalarFault

/-- A span of time as days and the seconds beyond them, of which the seconds are left out if there
are none. -/
def spanText (seconds : Int) : String :=
  let rest := seconds % 86400
  "datetime.timedelta(days=" ++ toString (seconds / 86400) ++
    (if rest = 0 then "" else ", seconds=" ++ toString rest) ++ ")"

/-- The fault in words. -/
def message : ScalarFault → String
  | .longNumeral f => f.message
  | .notWhole base text =>
    "invalid literal for int() with base " ++ toString base ++ ": " ++ quoted text
  | .notNumber text => "could not convert string to float: " ++ quoted text
  | .noNumber => "string index out of range"
  | .unknownWord word => word
  | .notMoment => "The text is no date or time"
  | .outOfRange part => part.message
  | .farFromUtc seconds =>
    "offset must be a timedelta strictly between -timedelta(hours=24) and timedelta(hours=24), not "
      ++ spanText seconds ++ "."
  | .noCharacter _ => "chr() arg not in range(0x110000)"

end ScalarFault

/-- Why a dictionary cannot be loaded. -/
inductive LoadFault
  | notFound (file : String)
  | unknownFormat (suffix : String)
  /-- The bytes are no text. -/
  | encoding
  | invalidJson
  | invalidYaml
  | invalidToml
  /-- A scalar in a document is not the value that it should be. -/
  | scalar (fault : ScalarFault)
  /-- What was read or given is no dictionary. -/
  | notADictionary
  /-- Files were to be loaded with nobody to do it. -/
  | noWorkers
  deriving DecidableEq, Repr

namespace LoadFault

/-- The fault in words. -/
def message : LoadFault → String
  | .notFound file => "Locale file not found: " ++ file
  | .unknownFormat suffix =>
    "Unsupported file format: " ++ suffix ++ ". Supported formats: .json, .yaml, .yml, .toml"
  | .encoding => "The file is not text in UTF-8"
  | .invalidJson => "The file is not JSON"
  | .invalidYaml => "The file is not YAML"
  | .invalidToml => "The file is not TOML"
  | .scalar fault => fault.message
  | .notADictionary => "A dictionary was expected"
  | .noWorkers => "max_workers must be greater than 0"

end LoadFault

end Phrasebook
