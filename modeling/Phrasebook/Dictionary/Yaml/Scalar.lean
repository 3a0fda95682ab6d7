import Phrasebook.Dictionary.LoadFault
import Phrasebook.Dictionary.Yaml.Cursor

/-!
# The text of scalars in YAML

A scalar stands without quotes, between quotes, or as a block of lines below its header. Ends of
lines within it are folded: a single one reads as a space, and of several in a row the first one is
dropped. Only a literal block keeps its lines as they are.
-/

set_option autoImplicit false

namespace Phrasebook.Yaml

/-- What an end of line and the empty lines after it read as. The ends of lines that are no plain
ones are never dropped. -/
def folded (first : Char) (more : List Char) : List Char :=
  if first ≠ '\n' then first :: more
  else if more.isEmpty then [' ']
  else more

/-! ## Scalars without quotes -/

/-- Whether a colon before `next` separates a key from its value. -/
def isSeparated (flow : Bool) (next : Option Char) : Bool :=
  isGapOrEnd next || (flow && next.any fun c ↦ ",[]\x7b\x7d".toList.contains c)

/-- The part of a scalar without quotes up to white space or to what cannot be in it. -/
def plainRun (flow : Bool) : List Char → List Char
  | [] => []
  | c :: s =>
    if isGap c || (c == ':' && isSeparated flow s.head?) ||
        (flow && ",?[]\x7b\x7d".toList.contains c) then []
    else c :: plainRun flow s

/-- White space in a scalar without quotes. -/
structure PlainGap where
  /-- What it reads as if the scalar goes on; nothing if it cannot. -/
  text : List Char
  /-- Whether a line ended. -/
  endedLine : Bool
  cursor : Cursor

/-- The ends of lines from the start of a line on, unless they lead to a mark between documents. -/
def plainBreaks : Nat → Cursor → Option (List Char) × Cursor
  | 0, c => (none, c)
  | fuel + 1, c =>
    if c.isDocumentMark then (none, c)
    else
      match c.skipSpaces.lineBreak with
      | (some b, c) =>
        let r := plainBreaks fuel c
        (r.1.map (b :: ·), r.2)
      | (none, c) => (some [], c)

/-- The white space at a place in a scalar without quotes. Tabs are not among it. -/
def plainGap (c : Cursor) : PlainGap :=
  let spaces := c.run (· == ' ')
  match c.skipSpaces.lineBreak with
  | (none, c) => ⟨spaces, false, c⟩
  | (some b, c) =>
    match plainBreaks (c.rest.length + 1) c with
    | (some breaks, c) => ⟨folded b breaks, true, c⟩
    | (none, c) => ⟨[], true, c⟩

/-- A scalar without quotes, and the place after the white space that follows it. -/
structure PlainScalar where
  text : List Char
  /-- Whether it is followed by the end of a line. -/
  endedLine : Bool
  cursor : Cursor

/-- Reads on in a scalar without quotes, after a gap that did or did not end a line. In block style
it goes on in lines that are indented by `indent` columns or more. -/
def readPlain (flow : Bool) (indent : Nat) : Nat → Bool → Cursor → PlainScalar
  | 0, ended, c => ⟨[], ended, c⟩
  | fuel + 1, ended, c =>
    let run := plainRun flow c.rest
    if c.peek = some '#' ∨ run.isEmpty then ⟨[], ended, c⟩
    else
      let gap := plainGap (c.skip run.length)
      if gap.text.isEmpty ∨ (!flow ∧ gap.cursor.column < indent) then
        ⟨run, gap.endedLine, gap.cursor⟩
      else
        let more := readPlain flow indent fuel gap.endedLine gap.cursor
        if more.text.isEmpty then ⟨run, more.endedLine, more.cursor⟩
        else { more with text := run ++ gap.text ++ more.text }

/-- Whether a scalar without quotes begins here. -/
def startsPlain (flow : Bool) (c : Cursor) : Bool :=
  match c.peek with
  | none => false
  | some ch =>
    if isGap ch then false
    else if ch = '-' then !isGapOrEnd (c.ahead 1)
    else if ch = '?' ∨ ch = ':' then !flow && !isGapOrEnd (c.ahead 1)
    else !",[]\x7b\x7d#&*!|>'\"%@\x60".toList.contains ch

/-! ## Scalars between quotes -/

/-- The ends of lines from the start of a line on, and the place after the white space around them.
A mark between documents must not stand there. -/
def quotedBreaks : Nat → Cursor → Except LoadFault (List Char × Cursor)
  | 0, _ => .error .invalidYaml
  | fuel + 1, c =>
    if c.isDocumentMark then .error .invalidYaml
    else
      match (c.skipRun isSpace).lineBreak with
      | (some b, c) => (quotedBreaks fuel c).map fun r ↦ (b :: r.1, r.2)
      | (none, c) => .ok ([], c)

/-- What the white space at a place between quotes reads as, and the place after it. -/
def quotedGap (c : Cursor) : Except LoadFault (List Char × Cursor) :=
  match (c.skipRun isSpace).lineBreak with
  | (some b, d) => (quotedBreaks (d.rest.length + 1) d).map fun r ↦ (folded b r.1, r.2)
  | (none, d) => .ok (c.run isSpace, d)

/-- The characters that a backslash and a letter stand for. -/
def escapes : List (Char × Char) :=
  [('0', '\x00'), ('a', '\x07'), ('b', '\x08'), ('t', '\t'), ('\t', '\t'), ('n', '\n'),
    ('v', '\x0b'), ('f', '\x0c'), ('r', '\r'), ('e', '\x1b'), (' ', ' '), ('"', '"'),
    ('\\', '\\'), ('/', '/'), ('N', '\u0085'), ('_', '\u00a0'), ('L', '\u2028'), ('P', '\u2029')]

/-- The letters after a backslash that a code follows, with the number of its digits. -/
def codeLengths : List (Char × Nat) :=
  [('x', 2), ('u', 4), ('U', 8)]

/-- The character with a code. A surrogate is no character, and reads as the one that stands for
such. -/
def charOfCode (n : Nat) : Except LoadFault Char :=
  if h : n.isValidChar then .ok (Char.ofNatAux n h)
  else if n < 0x110000 then .ok '\uFFFD'
  else .error (.scalar (.noCharacter n))

/-- What a backslash between double quotes stands for, read from the place after it. -/
def readEscape (c : Cursor) : Except LoadFault (List Char × Cursor) :=
  match c.peek with
  | none => .error .invalidYaml
  | some ch =>
    match escapes.lookup ch, codeLengths.lookup ch with
    | some d, _ => .ok ([d], c.next)
    | none, some count =>
      match Text.hexRun? count c.next.rest with
      | some n => (charOfCode n).map fun d ↦ ([d], c.next.skip count)
      | none => .error .invalidYaml
    | none, none =>
      match c.lineBreak with
      | (some _, c) => quotedBreaks (c.rest.length + 1) c
      | (none, _) => .error .invalidYaml

/-- The rest of a scalar after its opening quote, and the place after the closing one. Between
single quotes a quote is doubled; between double quotes a backslash begins an escape. -/
def readQuoted (double : Bool) : Nat → Cursor → Except LoadFault (List Char × Cursor)
  | 0, _ => .error .invalidYaml
  | fuel + 1, c => do
    let quote := if double then '"' else '\''
    match c.peek with
    | none => throw .invalidYaml
    | some ch =>
      let (text, d) ←
        if ch = quote then
          if !double ∧ c.ahead 1 = some quote then pure ([quote], c.skip 2) else return ([], c.next)
        else if isGap ch then quotedGap c
        else if double ∧ ch = '\\' then readEscape c.next
        else pure ([ch], c.next)
      let (more, d) ← readQuoted double fuel d
      return (text ++ more, d)

/-! ## Blocks -/

/-- What becomes of the ends of lines at the end of a block: none stays, the first one, or all. -/
inductive Chomping
  | strip
  | clip
  | keep
  deriving DecidableEq, Repr

/-- The chomping that a sign in the header stands for. -/
def Chomping.ofSign? : Option Char → Option Chomping
  | some '+' => some .keep
  | some '-' => some .strip
  | _ => none

/-- The indentation that a digit in the header stands for; there is none of zero columns. -/
def readIncrement (c : Cursor) : Except LoadFault (Option Nat × Cursor) :=
  match c.peek.filter Char.isDigit with
  | none => .ok (none, c)
  | some d => if d = '0' then .error .invalidYaml else .ok (some (d.toNat - 0x30), c.next)

/-- The header of a block, from the character after the one that begins it to the end of its line:
a sign and a digit in either order, and a comment. -/
def readHeader (c : Cursor) : Except LoadFault (Chomping × Option Nat × Cursor) := do
  let (sign, increment, c) ←
    match Chomping.ofSign? c.peek with
    | some sign =>
      let (increment, c) ← readIncrement c.next
      pure (sign, increment, c)
    | none =>
      let (increment, c) ← readIncrement c
      match increment, Chomping.ofSign? c.peek with
      | some _, some sign => pure (sign, increment, c.next)
      | _, _ => pure (.clip, increment, c)
  if c.peek = some '\t' ∨ !isGapOrEnd c.peek then throw .invalidYaml
  let c := c.skipSpaces
  let c := if c.peek = some '#' then c.skipLine else c
  if !isBreakOrEnd c.peek then throw .invalidYaml
  return (sign, increment, c.lineBreak.2)

/-- The empty lines from a place on, and the place in the line after them: at the column `indent`,
or before it if that line is indented less. -/
def blockBreaks (indent : Nat) : Nat → Cursor → List Char × Cursor
  | 0, c => ([], c)
  | fuel + 1, c =>
    match (c.skip (min (indent - c.column) (c.run (· == ' ')).length)).lineBreak with
    | (some b, c) =>
      let r := blockBreaks indent fuel c
      (b :: r.1, r.2)
    | (none, c) => ([], c)

/-- The empty lines before a block whose header gives no indentation, the greatest indentation
among them and the line after, and the place in that line. -/
def firstIndent : Nat → Nat → Cursor → List Char × Nat × Cursor
  | 0, most, c => ([], most, c)
  | fuel + 1, most, c =>
    let d := c.skipSpaces
    let most := if c.peek = some ' ' then max most d.column else most
    match d.lineBreak with
    | (some b, c) =>
      let r := firstIndent fuel most c
      (b :: r.1, r.2)
    | (none, c) => ([], most, c)

/-- The lines of a block. -/
structure BlockLines where
  text : List Char
  /-- The end of the last line with text. -/
  lastBreak : List Char := []
  /-- The ends of the empty lines after it. -/
  breaks : List Char
  cursor : Cursor

/-- Whether a line of a block goes on at this place. -/
def inBlock (indent : Nat) (c : Cursor) : Bool :=
  c.column == indent && c.peek.isSome

/-- The lines of a block from a place on, after some empty ones. In a folded block two lines that
both begin with text are joined. -/
def readLines (fold : Bool) (indent : Nat) : Nat → List Char → Cursor → BlockLines
  | 0, breaks, c => { text := [], breaks, cursor := c }
  | fuel + 1, breaks, c =>
    if !inBlock indent c then { text := [], breaks, cursor := c }
    else
      let line := c.run fun ch ↦ !isBreak ch
      let (lineBreak, d) := c.skipLine.lineBreak
      let (more, e) := blockBreaks indent (d.rest.length + 1) d
      let text := breaks ++ line
      if inBlock indent e then
        let isText (c : Cursor) : Bool := !c.peek.any isSpace
        let between :=
          if fold ∧ lineBreak = some '\n' ∧ isText c ∧ isText e then
            if more.isEmpty then [' '] else []
          else lineBreak.toList
        let rest := readLines fold indent fuel more e
        { rest with text := text ++ between ++ rest.text }
      else { text, lastBreak := lineBreak.toList, breaks := more, cursor := e }

/-- A block from the character that begins it on, inside a collection whose entries are indented by
less than `least` columns. -/
def readBlock (fold : Bool) (least : Nat) (c : Cursor) :
    Except LoadFault (List Char × Cursor) := do
  let (chomping, increment, c) ← readHeader c.next
  let fuel := c.rest.length + 1
  let (breaks, indent, c) := match increment with
    | some n =>
      let r := blockBreaks (least + n - 1) fuel c
      (r.1, least + n - 1, r.2)
    | none =>
      let r := firstIndent fuel 0 c
      (r.1, max least r.2.1, r.2.2)
  let lines := readLines fold indent fuel breaks c
  let ending := match chomping with
    | .strip => []
    | .clip => lines.lastBreak
    | .keep => lines.lastBreak ++ lines.breaks
  return (lines.text ++ ending, lines.cursor)

end Phrasebook.Yaml
