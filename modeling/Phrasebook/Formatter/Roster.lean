import Phrasebook.Formatter.Basic
import Phrasebook.Table
import Phrasebook.Text.Quoted

/-!
# The roster of formatters

Formatters are registered under names that templates use. A name is a word, and the words that the
library itself reads as types of arguments are reserved. Registering a name again replaces its
formatter and keeps its place.
-/

set_option autoImplicit false

namespace Phrasebook

open Text

/-- Why the roster refuses. -/
inductive RosterFault
  | reserved (name : String)
  | invalidName (name : String)
  | notAFormatter (name : String)
  | notRegistered (name : String)
  deriving DecidableEq, Repr

namespace RosterFault

/-- The refusal in words. -/
def message : RosterFault → String
  | .reserved name =>
    "'" ++ name ++ "' is a reserved ICU keyword and cannot be used as a formatter name"
  | .invalidName name => "Invalid formatter name: " ++ quoted name
  | .notAFormatter name => "Formatter '" ++ name ++ "' must be callable"
  | .notRegistered name => "Formatter '" ++ name ++ "' is not registered"

end RosterFault

namespace Roster

/-- The names that formatters cannot have. -/
def reservedNames : List String :=
  ["plural", "select", "selectordinal", "number", "date", "time", "relativeTime", "list",
    "currency", "compact", "compactLong", "p"]

/-- Whether a text can name a formatter: a word, perhaps with the end of a line after it. -/
def isName (name : String) : Bool :=
  let s := name.toList
  let rest := s.dropWhile isWord
  !(s.takeWhile isWord).isEmpty && (rest.isEmpty || rest == ['\n'])

theorem named_nil : ∀ name ∈ Table.keys ([] : Table String Formatter),
    name ∉ reservedNames ∧ isName name = true := by simp

end Roster

/-- Formatters under their names, in order of registration. -/
structure Roster where
  entries : Table String Formatter := []
  named : ∀ name ∈ entries.keys, name ∉ Roster.reservedNames ∧ Roster.isName name = true := by
    exact Roster.named_nil

namespace Roster

def names (r : Roster) : List String :=
  r.entries.keys

def get? (r : Roster) (name : String) : Option Formatter :=
  r.entries.lookup name

/-- Registers a formatter. What is registered may turn out to be no formatter at all, which is
looked at after the name. -/
def register (r : Roster) (name : String) (formatter? : Option Formatter) :
    Except RosterFault Roster :=
  if hr : reservedNames.contains name then .error (.reserved name)
  else if hn : !isName name then .error (.invalidName name)
  else
    match formatter? with
    | none => .error (.notAFormatter name)
    | some f => .ok ⟨r.entries.put name f, by
        intro other hother
        rcases Table.mem_keys_put hother with rfl | hother
        · exact ⟨by simpa using hr, by simpa using hn⟩
        · exact r.named other hother⟩

/-- The roster without a name, and whether the name was there. -/
def unregister (r : Roster) (name : String) : Roster × Bool :=
  (⟨r.entries.erase name, fun other h ↦ r.named other (Table.mem_keys_of_mem_keys_erase h)⟩,
    r.entries.has name)

/-- The roster that registering formatters one after the other makes. -/
def ofList (formatters : List (String × Option Formatter)) : Except RosterFault Roster :=
  formatters.foldlM (fun r f ↦ r.register f.1 f.2) {}

end Roster

end Phrasebook
