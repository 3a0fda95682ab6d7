/-!
# Places in a YAML document

The reader of tokens goes through a document character by character. Where a token stands matters:
columns are indentation, and a simple key must be on one line and not be long. A document comes with
its ends of lines written in one way, so carriage returns are not among them.
-/

set_option autoImplicit false

namespace Phrasebook.Yaml

/-- The end of a line. -/
def isBreak (c : Char) : Bool :=
  c == '\n' || c == '\u0085' || c == '\u2028' || c == '\u2029'

/-- A space or a tab. -/
def isSpace (c : Char) : Bool :=
  c == ' ' || c == '\t'

/-- A space, a tab or the end of a line. -/
def isGap (c : Char) : Bool :=
  isSpace c || isBreak c

/-- Whether a gap, or the end of the document, stands here. -/
def isGapOrEnd : Option Char → Bool
  | some c => isGap c
  | none => true

/-- Whether a line ends here. -/
def isBreakOrEnd : Option Char → Bool
  | some c => isBreak c
  | none => true

/-- A character that a document may have. -/
def isPrintable (c : Char) : Bool :=
  c == '\t' || c == '\n' || c == '\u0085' ||
    (decide (0x20 ≤ c.toNat) && decide (c.toNat ≤ 0x7E)) ||
    (decide (0xA0 ≤ c.toNat) && decide (c.toNat ≤ 0xD7FF)) ||
    (decide (0xE000 ≤ c.toNat) && decide (c.toNat ≤ 0xFFFD)) ||
    decide (0x10000 ≤ c.toNat)

/-- The mark that may stand at the start of a document, and takes no column. -/
def byteOrderMark : Char := '\ufeff'

/-- A place in a document. -/
structure Cursor where
  /-- What stands from here on. -/
  rest : List Char
  /-- The number of characters before. -/
  index : Nat := 0
  line : Nat := 0
  column : Nat := 0
  deriving Repr

namespace Cursor

/-- The character here. -/
def peek (c : Cursor) : Option Char :=
  c.rest.head?

/-- The character `n` places on. -/
def ahead (c : Cursor) (n : Nat) : Option Char :=
  c.rest[n]?

/-- The place after the character here. -/
def next (c : Cursor) : Cursor :=
  match c.rest with
  | [] => c
  | ch :: rest =>
    if isBreak ch then ⟨rest, c.index + 1, c.line + 1, 0⟩
    else ⟨rest, c.index + 1, c.line, if ch = byteOrderMark then c.column else c.column + 1⟩

/-- The place after `n` characters. -/
def skip (c : Cursor) : Nat → Cursor
  | 0 => c
  | n + 1 => c.next.skip n

/-- The characters from here on that are of a class. -/
def run (c : Cursor) (p : Char → Bool) : List Char :=
  c.rest.takeWhile p

/-- The place after the characters of a class. -/
def skipRun (c : Cursor) (p : Char → Bool) : Cursor :=
  c.skip (c.run p).length

/-- The place after the spaces. -/
def skipSpaces (c : Cursor) : Cursor :=
  c.skipRun (· == ' ')

/-- The place at the end of the line. -/
def skipLine (c : Cursor) : Cursor :=
  c.skipRun fun ch ↦ !isBreak ch

/-- The end of a line here, if there is one, and the place after it. Most ends of lines read as the
plain one. -/
def lineBreak (c : Cursor) : Option Char × Cursor :=
  match c.peek with
  | some ch =>
    if !isBreak ch then (none, c)
    else (some (if ch = '\u2028' || ch = '\u2029' then ch else '\n'), c.next)
  | none => (none, c)

/-- Whether three of the character `mark` and a gap stand here. -/
def isMark (c : Cursor) (mark : Char) : Bool :=
  c.rest.take 3 == [mark, mark, mark] && isGapOrEnd (c.ahead 3)

/-- Whether a mark between documents stands here, which a scalar must not reach. -/
def isDocumentMark (c : Cursor) : Bool :=
  c.isMark '-' || c.isMark '.'

end Cursor

end Phrasebook.Yaml
