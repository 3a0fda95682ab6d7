import Phrasebook.Text.Character
import Phrasebook.Text.Hexadecimal

/-!
# Strings and keys in TOML

A string stands between double quotes, with escapes, or between single quotes, as it is. Three
quotes at its start make it one of several lines. A key has parts, which are strings on one line or
bare words.
-/

set_option autoImplicit false

namespace Phrasebook.Toml

open Text

/-- White space within a line. -/
def isSpace (c : Char) : Bool :=
  c == ' ' || c == '\t'

def skipSpace (s : List Char) : List Char :=
  s.dropWhile isSpace

/-- A character that strings and comments may have as it is. -/
def isPlainChar (c : Char) : Bool :=
  c == '\t' || (decide (0x20 ≤ c.toNat) && c.toNat != 0x7F)

/-- What is left after a comment, if one stands there. The end of the line stays. -/
def skipComment (s : List Char) : Option (List Char) :=
  match s with
  | '#' :: s =>
    if (s.takeWhile (· ≠ '\n')).all isPlainChar then some (s.dropWhile (· ≠ '\n')) else none
  | _ => some s

/-- What is left after white space, comments and ends of lines. -/
def skipLines : Nat → List Char → Option (List Char)
  | 0, s => some s
  | fuel + 1, s => do
    match ← skipComment (skipSpace s) with
    | '\n' :: s => skipLines fuel s
    | s => some s

/-- The character with a code, unless it is a surrogate or there is none. -/
def charOf? (n : Nat) : Option Char :=
  if h : n.isValidChar then some (Char.ofNatAux n h) else none

/-- The characters that a backslash and a letter stand for. -/
def escapes : List (Char × Char) :=
  [('"', '"'), ('\\', '\\'), ('b', '\x08'), ('e', '\x1b'), ('f', '\x0c'), ('n', '\n'), ('r', '\r'),
    ('t', '\t')]

/-- The letters after a backslash that a code follows, with the number of its digits. -/
def codeLengths : List (Char × Nat) :=
  [('x', 2), ('u', 4), ('U', 8)]

/-- What a backslash stands for, read from the place after it. In a string of several lines one at
the end of a line joins it to the next text. -/
def readEscape (long : Bool) (s : List Char) : Option (List Char × List Char) :=
  match s with
  | [] => none
  | c :: rest =>
    match escapes.lookup c, codeLengths.lookup c with
    | some d, _ => some ([d], rest)
    | none, some count => do
      let d ← charOf? (← hexRun? count rest)
      return ([d], rest.drop count)
    | none, none =>
      match long, skipSpace s with
      | true, '\n' :: rest => some ([], rest.dropWhile fun c ↦ isSpace c || c == '\n')
      | _, _ => none

/-- The rest of a string between double quotes, after those at its start. -/
def readBasic (long : Bool) : Nat → List Char → Option (List Char × List Char)
  | 0, _ => none
  | fuel + 1, s =>
    match s with
    | [] => none
    | '\\' :: s => do
      let (text, s) ← readEscape long s
      let (more, s) ← readBasic long fuel s
      return (text ++ more, s)
    | '"' :: s =>
      match long, s with
      | false, s => some ([], s)
      | true, '"' :: '"' :: s => some ([], s)
      | true, s => (readBasic long fuel s).map fun r ↦ ('"' :: r.1, r.2)
    | c :: s =>
      if isPlainChar c || (long && c == '\n') then
        (readBasic long fuel s).map fun r ↦ (c :: r.1, r.2)
      else none

/-- The rest of a string between single quotes, after those at its start. -/
def readLiteral (long : Bool) : List Char → Option (List Char × List Char)
  | [] => none
  | '\'' :: s =>
    match long, s with
    | false, s => some ([], s)
    | true, '\'' :: '\'' :: s => some ([], s)
    | true, s => (readLiteral long s).map fun r ↦ ('\'' :: r.1, r.2)
  | c :: s =>
    if isPlainChar c || (long && c == '\n') then
      (readLiteral long s).map fun r ↦ (c :: r.1, r.2)
    else none

/-- The text of a string of several lines with the quotes, two at most, that stand directly before
those at its end. -/
def withQuotes (quote : Char) (r : List Char × List Char) : List Char × List Char :=
  let more := (r.2.take 2).takeWhile (· == quote)
  (r.1 ++ more, r.2.drop more.length)

/-- A text without the end of a line at its start. -/
def dropFirstBreak : List Char → List Char
  | '\n' :: s => s
  | s => s

/-- A string. -/
def readString? (s : List Char) : Option (List Char × List Char) :=
  match s with
  | '"' :: '"' :: '"' :: s =>
    (readBasic true (s.length + 1) (dropFirstBreak s)).map (withQuotes '"')
  | '\'' :: '\'' :: '\'' :: s => (readLiteral true (dropFirstBreak s)).map (withQuotes '\'')
  | '"' :: s => readBasic false (s.length + 1) s
  | '\'' :: s => readLiteral false s
  | _ => none

/-- A character of a part of a key without quotes. -/
def isKeyChar (c : Char) : Bool :=
  isLetter c || c.isDigit || c == '_' || c == '-'

/-- One part of a key. -/
def readKeyPart (s : List Char) : Option (String × List Char) :=
  match s with
  | '"' :: s => (readBasic false (s.length + 1) s).map fun r ↦ (String.ofList r.1, r.2)
  | '\'' :: s => (readLiteral false s).map fun r ↦ (String.ofList r.1, r.2)
  | _ =>
    let name := s.takeWhile isKeyChar
    if name.isEmpty then none else some (String.ofList name, s.dropWhile isKeyChar)

/-- A key, whose parts points separate, and what follows the white space after it. -/
def readKey : Nat → List Char → Option (List String × List Char)
  | 0, _ => none
  | fuel + 1, s => do
    let (part, s) ← readKeyPart s
    match skipSpace s with
    | '.' :: s =>
      let (parts, s) ← readKey fuel (skipSpace s)
      return (part :: parts, s)
    | s => return ([part], s)

end Phrasebook.Toml
