import Phrasebook.Locale.Plural
import Phrasebook.Message.NumberOptions

/-!
# Messages

A message is a row of elements. Plural and select elements own their branches, which are messages
again, so a message is a tree whose leaves are texts, arguments, number signs and formatted values.
-/

set_option autoImplicit false

namespace Phrasebook

/-- An element of a message. -/
inductive Element
  /-- Text that is rendered as it is. -/
  | literal (text : String)
  /-- The plain text of a variable. -/
  | argument (name : String)
  /-- The number of the plural element around it. -/
  | pound
  /-- A branch chosen by the number of a variable, less an offset. -/
  | plural (name : String) (kind : PluralKind) (offset : Int)
      (options : List (String × List Element))
  /-- A branch chosen by the text of a variable. -/
  | select (name : String) (options : List (String × List Element))
  /-- A number in a style or with the options of a skeleton. -/
  | number (name : String) (style : Option String) (options : Option NumberOptions)
  /-- A date in a style or by a skeleton. -/
  | date (name : String) (style skeleton : Option String)
  /-- A time in a style or by a skeleton. -/
  | time (name : String) (style skeleton : Option String)
  /-- Something that is no element, with the name of its kind; it cannot be rendered. -/
  | foreign (kind : String)
  deriving Inhabited, Repr

/-- A message: elements in order. -/
abbrev Message := List Element

namespace Message

/-- The message with text in front, joined to a text that it begins with. -/
def addText (text : List Char) : Message → Message
  | .literal t :: rest => .literal (String.ofList text ++ t) :: rest
  | rest => if text.isEmpty then rest else .literal (String.ofList text) :: rest

end Message

end Phrasebook
