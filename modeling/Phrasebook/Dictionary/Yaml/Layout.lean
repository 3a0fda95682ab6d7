import Phrasebook.Dictionary.Yaml.Scalar
import Phrasebook.Dictionary.Yaml.Token

/-!
# The tokens of a YAML document

Most tokens begin with a character of their own. What indentation means depends on what came before:
the columns of the open collections are kept, and what stands further to the left closes them. A key
shows only at the colon after it, so the place of what may be a key is kept until then, and the
token for the key is put there afterwards.
-/

set_option autoImplicit false

namespace Phrasebook.Yaml

/-- What may turn out to be a key: it must end within its line and within 1024 characters. -/
structure PossibleKey where
  /-- The number of tokens before it. -/
  position : Nat
  /-- Whether nothing but a key can stand in its place. -/
  required : Bool
  index : Nat
  line : Nat
  column : Nat
  deriving Repr

/-- Whether what may be a key cannot be one any more at a place after it. -/
def PossibleKey.isStale (k : PossibleKey) (c : Cursor) : Bool :=
  k.line != c.line || decide (1024 < c.index - k.index)

/-- The tokens so far and what the next ones depend on. -/
structure Layout where
  cursor : Cursor
  /-- The tokens, the last one first. -/
  tokens : List Token := []
  /-- The number of tokens. -/
  count : Nat := 0
  /-- The tokens that belong in front of others, with the number of tokens before those. -/
  inserted : List (Nat × List Token) := []
  /-- The columns of the open collections in block style, the innermost first. -/
  columns : List Nat := []
  /-- What may be a key, one for the block style and one for each open collection in flow style,
  the innermost first. -/
  keys : List (Option PossibleKey) := [none]
  /-- Whether a key may stand here. -/
  keyAllowed : Bool := true

namespace Layout

/-- Whether the place is inside a collection in flow style. -/
def inFlow (l : Layout) : Bool :=
  decide (1 < l.keys.length)

/-- The least indentation of what belongs to the innermost collection in block style. -/
def least (l : Layout) : Nat :=
  match l.columns with
  | [] => 0
  | column :: _ => column + 1

/-- The layout with another token. -/
def push (l : Layout) (t : Token) : Layout :=
  { l with tokens := t :: l.tokens, count := l.count + 1 }

/-- The layout at another place. -/
def goTo (l : Layout) (c : Cursor) : Layout :=
  { l with cursor := c }

/-- Closes the collections in block style that are indented by more than a place. -/
def closeUntil (l : Layout) (isInside : Nat → Bool) : Layout :=
  if l.inFlow then l
  else
    let closed := l.columns.takeWhile isInside
    closed.foldl (fun l _ ↦ l.push .blockEnd) { l with columns := l.columns.dropWhile isInside }

/-- Closes all collections in block style. -/
def closeAll (l : Layout) : Layout :=
  l.closeUntil fun _ ↦ true

/-- Whether a collection in block style begins at a column. -/
def opens (l : Layout) (column : Nat) : Bool :=
  decide (l.least ≤ column)

/-- Opens a collection in block style at a column, unless it is open. -/
def openAt (l : Layout) (column : Nat) (t : Token) : Layout :=
  if l.opens column then { l.push t with columns := column :: l.columns } else l

/-- Gives up what may be a key in the innermost collection. -/
def dropKey (l : Layout) : Except LoadFault Layout :=
  match l.keys with
  | [] => .ok l
  | k :: rest =>
    if k.any (·.required) then .error .invalidYaml else .ok { l with keys := none :: rest }

/-- Gives up what cannot be a key any more. -/
def dropStaleKeys (l : Layout) : Except LoadFault Layout :=
  let isStale (k : Option PossibleKey) : Bool := k.any (·.isStale l.cursor)
  if l.keys.any fun k ↦ isStale k && k.any (·.required) then .error .invalidYaml
  else .ok { l with keys := l.keys.map fun k ↦ if isStale k then none else k }

/-- Keeps in mind that what begins here may be a key. -/
def saveKey (l : Layout) : Except LoadFault Layout :=
  if !l.keyAllowed then .ok l
  else do
    let l ← l.dropKey
    let c := l.cursor
    let required := !l.inFlow && l.columns.head? == some c.column
    return { l with keys := some ⟨l.count, required, c.index, c.line, c.column⟩ :: l.keys.tail }

/-- The layout after white space and comments. The end of a line allows a key in block style. -/
def skipIdle : Nat → Layout → Layout
  | 0, l => l
  | fuel + 1, l =>
    let c := l.cursor.skipSpaces
    let c := if c.peek = some '#' then c.skipLine else c
    match c.lineBreak with
    | (some _, c) => skipIdle fuel { l with cursor := c, keyAllowed := l.keyAllowed || !l.inFlow }
    | (none, c) => l.goTo c

/-! ## Tokens with a text -/

/-- A character of the name of an anchor, a handle or a directive. -/
def isNameChar (c : Char) : Bool :=
  c.isAlphanum || c == '-' || c == '_'

/-- A name, and the place after it. -/
def readName (c : Cursor) : Except LoadFault (List Char × Cursor) :=
  let name := c.run isNameChar
  if name.isEmpty then .error .invalidYaml else .ok (name, c.skip name.length)

/-- The name of an anchor or an alias. -/
def readAnchor (c : Cursor) : Except LoadFault (String × Cursor) := do
  let (name, c) ← readName c
  if isGapOrEnd c.peek || c.peek.any fun ch ↦ "?:,]\x7d%@\x60".toList.contains ch then
    return (String.ofList name, c)
  else throw .invalidYaml

/-- A character of a tag. -/
def isTagChar (c : Char) : Bool :=
  c.isAlphanum || "-;/?:@&=+$,_.!~*'()[]%".toList.contains c

/-- The characters of a tag, those beyond ASCII being given by the bytes of their code. -/
def unescaped : Nat → List Char → Option (List Char)
  | 0, _ => none
  | _, [] => some []
  | fuel + 1, '%' :: s => do
    let (bytes, rest) ← codes fuel ('%' :: s)
    let text ← String.fromUTF8? ⟨bytes.toArray⟩
    return text.toList ++ (← unescaped fuel rest)
  | fuel + 1, c :: s => (unescaped fuel s).map (c :: ·)
where
  codes : Nat → List Char → Option (List UInt8 × List Char)
    | fuel + 1, '%' :: s => do
      let n ← Text.hexRun? 2 s
      let (more, rest) ← codes fuel (s.drop 2)
      return (UInt8.ofNat n :: more, rest)
    | _, s => some ([], s)

/-- The name of a tag, or what the names of tags begin with. -/
def readTagName (c : Cursor) : Except LoadFault (String × Cursor) :=
  let written := c.run isTagChar
  match unescaped (written.length + 1) written with
  | some name =>
    if written.isEmpty then .error .invalidYaml
    else .ok (String.ofList name, c.skip written.length)
  | none => .error .invalidYaml

/-- The handle of a tag: an exclamation mark, or a name between two of them. -/
def readHandle (c : Cursor) : Except LoadFault (String × Cursor) :=
  if c.peek ≠ some '!' then .error .invalidYaml
  else if c.ahead 1 = some ' ' then .ok ("!", c.next)
  else
    let name := c.next.run isNameChar
    if c.ahead (name.length + 1) = some '!' then
      .ok (String.ofList ('!' :: name ++ ['!']), c.skip (name.length + 2))
    else .error .invalidYaml

/-- Whether a space or the end of a line, but no tab, stands here. -/
def endsWord (c : Cursor) : Bool :=
  isGapOrEnd c.peek && c.peek != some '\t'

/-- A tag. A lone exclamation mark is a tag too. -/
def readTag (c : Cursor) : Except LoadFault (TagText × Cursor) := do
  let (tag, c) ←
    if c.ahead 1 = some '<' then
      let (name, c) ← readTagName (c.skip 2)
      if c.peek ≠ some '>' then throw .invalidYaml
      pure ((⟨none, name⟩ : TagText), c.next)
    else if isGapOrEnd (c.ahead 1) then pure (⟨none, "!"⟩, c.next)
    else
      let word := c.next.run fun ch ↦ ch == '\t' || !isGap ch
      let (handle, c) ← if word.contains '!' then readHandle c else pure ("!", c.next)
      let (name, c) ← readTagName c
      pure (⟨some handle, name⟩, c)
  if endsWord c then return (tag, c) else throw .invalidYaml

/-- A whole number in the version of the format. -/
def readVersionPart (c : Cursor) : Except LoadFault (Nat × Cursor) := do
  let ds := c.run Char.isDigit
  if ds.isEmpty then throw .invalidYaml
  (Text.LongNumeral.check ds).mapError (LoadFault.scalar ∘ .longNumeral)
  return (ds.foldl (fun n d ↦ n * 10 + (d.toNat - 0x30)) 0, c.skip ds.length)

/-- A directive, and the place after its line. -/
def readDirective (c : Cursor) : Except LoadFault (Directive × Cursor) := do
  let (name, c) ← readName c.next
  if !endsWord c then throw .invalidYaml
  let (directive, c) ←
    if name = ['Y', 'A', 'M', 'L'] then
      let (major, c) ← readVersionPart c.skipSpaces
      if c.peek ≠ some '.' then throw .invalidYaml
      let (_, c) ← readVersionPart c.next
      if !endsWord c then throw .invalidYaml
      pure (Directive.version major, c)
    else if name = ['T', 'A', 'G'] then
      let (handle, c) ← readHandle c.skipSpaces
      if c.peek ≠ some ' ' then throw .invalidYaml
      let (start, c) ← readTagName c.skipSpaces
      if !endsWord c then throw .invalidYaml
      pure (Directive.tag handle start, c)
    else pure (Directive.other, c.skipLine)
  let c := c.skipSpaces
  let c := if c.peek = some '#' then c.skipLine else c
  if isBreakOrEnd c.peek then return (directive, c.lineBreak.2) else throw .invalidYaml

/-! ## The next token -/

/-- The layout after what may be or begin a key. No other key may follow at once. -/
def pushKeyable {α : Type} (l : Layout) (token : α → Token) (read : Except LoadFault (α × Cursor)) :
    Except LoadFault Layout := do
  let l ← l.saveKey
  let (a, c) ← read
  return ({ l with keyAllowed := false }.push (token a)).goTo c

/-- The layout after what closes all collections in block style. -/
def pushOutermost (l : Layout) (t : Token) (c : Cursor) : Except LoadFault Layout := do
  let l ← l.closeAll.dropKey
  return ({ l with keyAllowed := false }.push t).goTo c

/-- The layout after the start of a collection in flow style. -/
def pushFlowStart (l : Layout) (t : Token) : Except LoadFault Layout := do
  let l ← l.saveKey
  return ({ l with keys := none :: l.keys, keyAllowed := true }.push t).goTo l.cursor.next

/-- The layout after the end of a collection in flow style. -/
def pushFlowEnd (l : Layout) (t : Token) : Except LoadFault Layout := do
  let l ← l.dropKey
  if !l.inFlow then throw .invalidYaml
  return ({ l with keys := l.keys.tail, keyAllowed := false }.push t).goTo l.cursor.next

/-- The layout after the sign of an entry in block style, or of a key that begins with a question
mark. -/
def pushSign (l : Layout) (collection t : Token) (keyAllowed : Bool) :
    Except LoadFault Layout := do
  if !l.inFlow && !l.keyAllowed then throw .invalidYaml
  let l := if l.inFlow then l else l.openAt l.cursor.column collection
  let l ← l.dropKey
  return ({ l with keyAllowed }.push t).goTo l.cursor.next

/-- The layout after the colon before a value. If there is something that may be a key, it is
one. -/
def pushValue (l : Layout) : Except LoadFault Layout :=
  match l.keys with
  | some k :: rest =>
    let begins := !l.inFlow && l.opens k.column
    let l := { l with
      keys := none :: rest
      keyAllowed := false
      columns := if begins then k.column :: l.columns else l.columns
      inserted :=
        (k.position, if begins then [.blockMappingStart, .key] else [.key]) :: l.inserted }
    .ok ((l.push .value).goTo l.cursor.next)
  | _ => l.pushSign .blockMappingStart .value (!l.inFlow)

/-- The layout after one more token, which begins at the given character. -/
def step (l : Layout) (ch : Char) : Except LoadFault Layout := do
  let c := l.cursor
  let isSign := isGapOrEnd (c.ahead 1)
  if ch = '%' ∧ c.column = 0 then
    let (d, e) ← readDirective c
    l.pushOutermost (.directive d) e
  else if c.column = 0 ∧ c.isMark '-' then l.pushOutermost .documentStart (c.skip 3)
  else if c.column = 0 ∧ c.isMark '.' then l.pushOutermost .documentEnd (c.skip 3)
  else if ch = '[' then l.pushFlowStart .flowSequenceStart
  else if ch = '{' then l.pushFlowStart .flowMappingStart
  else if ch = ']' then l.pushFlowEnd .flowSequenceEnd
  else if ch = '}' then l.pushFlowEnd .flowMappingEnd
  else if ch = ',' then do
    let l ← { l with keyAllowed := true }.dropKey
    return (l.push .flowEntry).goTo c.next
  else if ch = '-' ∧ isSign then l.pushSign .blockSequenceStart .blockEntry true
  else if ch = '?' ∧ (l.inFlow ∨ isSign) then l.pushSign .blockMappingStart .key (!l.inFlow)
  else if ch = ':' ∧ (l.inFlow ∨ isSign) then l.pushValue
  else if ch = '*' then l.pushKeyable .alias (readAnchor c.next)
  else if ch = '&' then l.pushKeyable .anchor (readAnchor c.next)
  else if ch = '!' then l.pushKeyable .tag (readTag c)
  else if (ch = '|' ∨ ch = '>') ∧ !l.inFlow then do
    let l ← { l with keyAllowed := true }.dropKey
    let (text, c) ← readBlock (ch == '>') (max 1 l.least) c
    return (l.push (.scalar text false)).goTo c
  else if ch = '"' ∨ ch = '\'' then
    l.pushKeyable (.scalar · false) (readQuoted (ch == '"') (c.rest.length + 1) c.next)
  else if startsPlain l.inFlow c then do
    let l ← l.saveKey
    let s := readPlain l.inFlow l.least (c.rest.length + 1) false c
    return ({ l with keyAllowed := s.endedLine }.push (.scalar s.text true)).goTo s.cursor
  else throw .invalidYaml

/-- Reads tokens up to the end of the document, or up to where it is broken. -/
def readAll : Nat → Layout → Layout × Option LoadFault
  | 0, l => (l, some .invalidYaml)
  | fuel + 1, l =>
    let l := l.skipIdle (l.cursor.rest.length + 1)
    match l.dropStaleKeys with
    | .error f => (l, some f)
    | .ok l =>
      let l := l.closeUntil fun column ↦ decide (l.cursor.column < column)
      match l.cursor.peek with
      | none =>
        match l.closeAll.dropKey with
        | .error f => (l, some f)
        | .ok l => (l, none)
      | some ch =>
        match l.step ch with
        | .error f => (l, some f)
        | .ok l => readAll fuel l

/-- The tokens in order, those that belong in front of others included. -/
def linear (l : Layout) : List Token :=
  (l.tokens.reverse.zipIdx.flatMap fun t ↦ (l.inserted.lookup t.2).getD [] ++ [t.1])

end Layout

/-- The tokens of a document up to its end, or up to where it is broken. -/
def tokens (s : List Char) : List Token × Option LoadFault :=
  let rest := if s.head? = some byteOrderMark then s.tail else s
  let (l, fault) := Layout.readAll (s.length + 1) { cursor := { rest } }
  (l.linear, fault)

end Phrasebook.Yaml
