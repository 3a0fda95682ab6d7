import Phrasebook.Formatter.Basic
import Phrasebook.Message.SyntaxError

/-!
# What the library reports on the way

Some troubles do not stop the library: it goes on and reports them. Reports go to the log, apart
from missing phrases, which go to a handler that the program can choose.
-/

set_option autoImplicit false

namespace Phrasebook

/-- A phrase that could not be served in the locale that was asked for. -/
structure MissingPhrase where
  requested : String
  /-- The locales that could have served it. -/
  available : List String
  key : Option String := none
  /-- The locale that served it instead. -/
  fallback : Option String := none
  deriving DecidableEq, Repr

/-- The warning in words. Empty keys and locales are passed over. -/
def MissingPhrase.message (w : MissingPhrase) : String :=
  let part (label : String) (name : Option String) : List String :=
    match name with
    | some s => if s = "" then [] else [label ++ "\"" ++ s ++ "\""]
    | none => []
  " | ".intercalate <|
    ["Missing translation for locale \"" ++ w.requested ++ "\""] ++
      part "key: " w.key ++ ["Available: [" ++ ", ".intercalate w.available ++ "]"] ++
      part "Using fallback: " w.fallback

/-- How much a line of the log matters. -/
inductive Level
  | debug
  | warning
  deriving DecidableEq, Repr

/-- What a line of the log tells. -/
inductive Notice
  /-- A word of a number skeleton was passed over. -/
  | passedOver (word : String)
  /-- A formatter failed for a variable. -/
  | formatterFailed (formatter variableName text : String)
  /-- A template was shown as it is, because it is no message. -/
  | invalidTemplate (template : String) (error : SyntaxError)
  /-- A phrase was missing. -/
  | missingPhrase (warning : MissingPhrase)
  /-- The program's handler of missing phrases failed. -/
  | handlerFailed (text : String)
  deriving DecidableEq, Repr

namespace Notice

def level : Notice → Level
  | .passedOver _ => .debug
  | _ => .warning

/-- The line of the log. -/
def message : Notice → String
  | .passedOver word => "Ignoring unsupported number skeleton token '" ++ word ++ "'"
  | .formatterFailed formatter variableName text =>
    "Error: formatter '" ++ formatter ++ "' failed for '" ++ variableName ++ "' - " ++ text
  | .invalidTemplate template error =>
    "Error: the template '" ++ template ++ "' is not valid ICU Message Format - " ++ error.message
  | .missingPhrase warning => warning.message
  | .handlerFailed text => "Error: missing translation handler failed - " ++ text

end Notice

/-- What happened during a call: a line for the log, or a warning for the program. -/
inductive Event
  | notice (n : Notice)
  | warning (w : MissingPhrase)
  deriving DecidableEq, Repr

end Phrasebook
