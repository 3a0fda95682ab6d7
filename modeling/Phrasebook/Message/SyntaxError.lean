import Phrasebook.Decimal.Numeral
import Phrasebook.Text.Quoted

/-!
# Errors in templates
-/

set_option autoImplicit false

namespace Phrasebook

open Text

/-- Why a template is not a message. -/
inductive SyntaxReason
  | unmatchedBrace
  | expected (wanted : Char) (found : Option Char)
  | noArgumentName
  | noArgumentType
  | unknownType (name : String)
  | unterminated
  | braceInStyle
  | noStyle
  | invalidOffset
  | noSelector
  | duplicateSelector (selector : String)
  | noOption
  deriving DecidableEq, Repr

namespace SyntaxReason

/-- The reason in words. -/
def message : SyntaxReason → String
  | .unmatchedBrace => "unmatched closing brace"
  | .expected wanted found =>
    "expected " ++ quoted (String.singleton wanted) ++ " but found " ++
      quoted ((found.map String.singleton).getD "end of message")
  | .noArgumentName => "expected argument name"
  | .noArgumentType => "expected argument type"
  | .unknownType name => "invalid argument type " ++ quoted name
  | .unterminated => "unterminated argument"
  | .braceInStyle => "unexpected '\x7b' in argument style"
  | .noStyle => "expected argument style"
  | .invalidOffset => "invalid plural offset"
  | .noSelector => "expected option selector"
  | .duplicateSelector selector => "duplicate option selector " ++ quoted selector
  | .noOption => "expected at least one option"

end SyntaxReason

/-- A reason and the place where the template stops being a message, counted in characters. -/
structure SyntaxError where
  reason : SyntaxReason
  position : Nat
  template : String
  deriving DecidableEq, Repr

/-- The error in words, with the template. -/
def SyntaxError.message (e : SyntaxError) : String :=
  e.reason.message ++ " at position " ++ toString e.position ++ " in " ++ quoted e.template

/-- Why a template cannot be read. -/
inductive TemplateFault
  | notMessage (error : SyntaxError)
  /-- The offset of a plural argument has too many digits. -/
  | longOffset (fault : LongNumeral)
  deriving DecidableEq, Repr

/-- The fault in words. -/
def TemplateFault.message : TemplateFault → String
  | .notMessage error => error.message
  | .longOffset fault => fault.message

end Phrasebook
