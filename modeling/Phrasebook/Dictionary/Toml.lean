import Phrasebook.Dictionary.Toml.Scalar
import Phrasebook.Dictionary.Toml.Tables
import Phrasebook.Dictionary.Toml.Text

/-!
# Dictionaries in TOML

A document is a row of lines: comments, headers of tables, and keys with values. A value is a
string, a number, a truth value, a date or time, an array, or an inline table.
-/

set_option autoImplicit false

namespace Phrasebook.Toml

open Text

/-- What was read, or the fault of a text that is not in the format. -/
def orInvalid {α : Type} : Option α → Except LoadFault α
  | some a => .ok a
  | none => .error .invalidToml

/-- A key and the sign after it, and what follows the white space after that. -/
def readKeySign (s : List Char) : Except LoadFault (Path × List Char) := do
  let (path, s) ← orInvalid (readKey (s.length + 1) s)
  let s ← orInvalid (after? ['='] s)
  return (path, skipSpace s)

mutual

/-- A value at the start of a text. -/
def readValue : Nat → List Char → Except LoadFault (Entry × List Char)
  | 0, _ => .error .invalidToml
  | fuel + 1, s =>
    match s with
    | '[' :: s => (readItems fuel s).map fun r ↦ (.list r.1, r.2)
    | '{' :: s => (readMembers fuel [] [] s).map fun r ↦ (.branch r.1, r.2)
    | c :: _ =>
      if c = '"' ∨ c = '\'' then
        (orInvalid (readString? s)).map fun r ↦ (.text (String.ofList r.1), r.2)
      else readScalar s
    | [] => .error .invalidToml

/-- The items of an array up to the closing bracket. -/
def readItems : Nat → List Char → Except LoadFault (List Entry × List Char)
  | 0, _ => .error .invalidToml
  | fuel + 1, s => do
    match ← orInvalid (skipLines s.length s) with
    | ']' :: s => return ([], s)
    | s =>
      let (item, s) ← readValue fuel s
      match ← orInvalid (skipLines s.length s) with
      | ']' :: s => return ([item], s)
      | ',' :: s =>
        let (items, s) ← readItems fuel s
        return (item :: items, s)
      | _ => throw .invalidToml

/-- The members of an inline table up to the closing brace, after those read before. -/
def readMembers : Nat → List Path → Dictionary → List Char →
    Except LoadFault (Dictionary × List Char)
  | 0, _, _, _ => .error .invalidToml
  | fuel + 1, complete, before, s => do
    match ← orInvalid (skipLines s.length s) with
    | '}' :: s => return (before, s)
    | s =>
      let (path, s) ← readKeySign s
      let (value, s) ← readValue fuel s
      if isComplete complete path then throw .invalidToml
      let members ← orInvalid (insert? value path before)
      match ← orInvalid (skipLines s.length s) with
      | '}' :: s => return (members, s)
      | ',' :: s => readMembers fuel (withComplete value path complete) members s
      | _ => throw .invalidToml

end

/-- What is left after the end of a line, or nothing at the end of the text. -/
def endOfLine? (s : List Char) : Option (List Char) := do
  match ← skipComment (skipSpace s) with
  | [] => some []
  | '\n' :: s => some s
  | _ => none

/-- The tables after one line, and what follows it. -/
def readLine (t : Tables) (s : List Char) : Except LoadFault (Tables × List Char) :=
  match s with
  | '[' :: '[' :: s => orInvalid do
    let (path, s) ← readKey (s.length + 1) (skipSpace s)
    let t ← t.append? path
    return (t, ← endOfLine? (← after? [']', ']'] s))
  | '[' :: s => orInvalid do
    let (path, s) ← readKey (s.length + 1) (skipSpace s)
    let t ← t.enter? path
    return (t, ← endOfLine? (← after? [']'] s))
  | s => do
    let (path, s) ← readKeySign s
    let (value, s) ← readValue (2 * s.length + 2) s
    let t ← orInvalid (t.add? path value)
    return (t, ← orInvalid (endOfLine? s))

/-- The tables after the lines of a document. -/
def readLines : Nat → Tables → List Char → Except LoadFault Tables
  | 0, _, _ => .error .invalidToml
  | fuel + 1, t, s => do
    match ← orInvalid (skipLines s.length s) with
    | [] => return t
    | s =>
      let (t, s) ← readLine t s
      readLines fuel t s

/-- A text with its ends of lines written in one way. -/
def plainLines : List Char → List Char
  | '\r' :: '\n' :: s => '\n' :: plainLines s
  | c :: s => c :: plainLines s
  | [] => []

/-- The dictionary that a document spells. -/
def read (s : List Char) : Except LoadFault Dictionary :=
  (readLines (s.length + 1) {} (plainLines s)).map Tables.root

end Phrasebook.Toml
