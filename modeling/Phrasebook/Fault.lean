import Phrasebook.Format.Fault
import Phrasebook.Notice

/-!
# Faults and answers

A call either gives its result or fails, and what it reported before stands in both cases.
-/

set_option autoImplicit false

namespace Phrasebook

/-- What was given where something of another kind is needed. -/
inductive Misuse
  /-- Values without names. -/
  | namelessValues
  /-- Phrases that are not sorted by locale. -/
  | unsortedPhrases
  /-- A phrase that is no text. -/
  | phraseWithoutText
  /-- A locale that is a value but no text. -/
  | valueAsLocale
  /-- A locale that is a table. -/
  | tableAsLocale
  deriving DecidableEq, Repr

/-- The misuse in words. -/
def Misuse.message : Misuse → String
  | .namelessValues => "The values have no names"
  | .unsortedPhrases => "The phrases are not sorted by locale"
  | .phraseWithoutText => "The phrase is no text"
  | .valueAsLocale => "The locale is no text"
  | .tableAsLocale => "The locale is a table"

/-- Why a call fails. -/
inductive Fault
  /-- The template cannot be read. -/
  | template (fault : TemplateFault)
  /-- An operation on a number has no result. -/
  | number (fault : Number.Fault)
  /-- A value cannot be written, and no text can stand in for it. -/
  | format (fault : FormatFault)
  /-- A part of a message is no element. -/
  | unknownElement (kind : String)
  /-- An argument beyond the message format is of a kind that the library does not know. -/
  | unknownExtension (kind : String)
  /-- A function of the program failed. -/
  | call (fault : CallFault)
  /-- There are no phrases to choose from. -/
  | noPhrase (locale : String)
  /-- Something of the wrong kind was given. -/
  | misuse (what : Misuse)
  deriving DecidableEq

/-- The fault in words. -/
def Fault.message : Fault → String
  | .template fault => fault.message
  | .number .tooLarge => "The number is too large"
  | .number .signalingNaN => "cannot convert signaling NaN to float"
  | .number (.decimal _) => "The decimal operation has no result"
  | .number .overlong =>
    "Exceeds the limit (" ++ toString Text.LongNumeral.limit ++ " digits) for integer string " ++
      "conversion; use sys.set_int_max_str_digits() to increase the limit"
  | .format _ => "The value cannot be written"
  | .unknownElement kind => "Unsupported node type: " ++ kind
  | .unknownExtension kind => "Unsupported substitution kind: " ++ kind
  | .call fault => fault.text
  | .noPhrase locale => "No translation found for locale '" ++ locale ++ "'"
  | .misuse what => what.message

/-- The outcome of a call, with what it reported. -/
structure Answer (α : Type) where
  result : Except Fault α
  events : List Event := []

namespace Answer

variable {α β : Type}

/-- The answer with events that happened before. -/
def after (events : List Event) (a : Answer α) : Answer α :=
  { a with events := events ++ a.events }

/-- The answer with its result changed. -/
def map (f : α → β) (a : Answer α) : Answer β :=
  ⟨a.result.map f, a.events⟩

end Answer

end Phrasebook
