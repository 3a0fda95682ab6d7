import Phrasebook.Dictionary.LoadFault
import Phrasebook.Dictionary.Yaml.Tag
import Phrasebook.Dictionary.Yaml.Token
import Phrasebook.Table

/-!
# Nodes of YAML

The tokens of a document form one node: a scalar, a sequence of nodes or a mapping between nodes. An
anchor gives a node a name, and an alias stands for the node with its name. A document may be framed
by marks and preceded by directives; there is no second one after it.
-/

set_option autoImplicit false

namespace Phrasebook.Yaml

/-- A node. -/
inductive Node
  | scalar (tag : Tag) (text : List Char)
  | sequence (tag : Tag) (items : List Node)
  | mapping (tag : Tag) (pairs : List (Node × Node))

namespace Node

/-- The node that stands where nothing is written. -/
def empty : Node :=
  .scalar .null []

/-- What is left to read, and the names that are known. -/
structure State where
  tokens : List Token
  /-- What tags with a handle begin with. -/
  handles : Table String String := []
  /-- The nodes by their anchors. A collection that is not complete has no members yet. -/
  anchors : Table String Node := []

/-- Reads from tokens. What fails gives the tokens from the place of the failure on. -/
abbrev Reader := StateT State (Except (List Token))

/-- The next token. -/
def peek : Reader (Option Token) :=
  return (← get).tokens.head?

/-- Passes over the next token. -/
def advance : Reader Unit :=
  modify fun s ↦ { s with tokens := s.tokens.tail }

/-- Fails at the next token. -/
def fail {α : Type} : Reader α := do
  throw (← get).tokens

/-- Passes over the next token, which must be `t`. -/
def expect (t : Token) : Reader Unit := do
  if (← peek) = some t then advance else fail

/-- Gives a node the name of its anchor. -/
def name (anchor : Option String) (n : Node) : Reader Node := do
  if let some a := anchor then modify fun s ↦ { s with anchors := s.anchors.put a n }
  return n

/-- The tag that is written before a node, as a full name. -/
def fullName (t : TagText) : Reader String := do
  match t.handle with
  | none => return t.name
  | some handle =>
    match (← get).handles.lookup handle with
    | some start => return start ++ t.name
    | none => fail

/-- The anchor and the tag before a node, in either order. -/
def readProperties : Reader (Option String × Option String) := do
  match ← peek with
  | some (.anchor a) =>
    advance
    match ← peek with
    | some (.tag t) => advance; return (some a, some (← fullName t))
    | _ => return (some a, none)
  | some (.tag t) =>
    advance
    match ← peek with
    | some (.anchor a) => advance; return (some a, some (← fullName t))
    | _ => return (none, some (← fullName t))
  | _ => return (none, none)

/-- The tag of a collection; a lone exclamation mark leaves it to the kind of the node. -/
def collectionTag (kind : Tag) : Option String → Tag
  | none => kind
  | some t => if t = "!" then kind else Tag.ofName t

/-- The tag of a scalar. A lone exclamation mark makes one between quotes like one without. -/
def scalarTag (tag : Option String) (text : List Char) (plain : Bool) : Tag :=
  match tag with
  | none => if plain then Tag.ofPlain text else .text
  | some t => if t = "!" then Tag.ofPlain text else Tag.ofName t

/-- Where a node stands, which decides which collections can begin there. -/
inductive Site
  /-- In flow style. -/
  | flow
  /-- In block style. -/
  | block
  /-- In block style, after a key: the entries of a sequence need no indentation. -/
  | member
  deriving DecidableEq

/-- The node that stands here, or the empty one before a token that ends a node. -/
def readUnless (ends : List Token) (reader : Reader Node) : Reader Node := do
  if (← peek).any ends.contains then return empty else reader

/-- The value of a key, if there is one. -/
def readValueUnless (ends : List Token) (reader : Reader Node) : Reader Node := do
  if (← peek) = some .value then
    advance
    readUnless ends reader
  else return empty

/-- A collection, whose anchor is known inside it already. -/
def readCollection {α : Type} (anchor : Option String) (make : List α → Node)
    (reader : Reader (List α)) : Reader Node := do
  advance
  let _ ← name anchor (make [])
  name anchor (make (← reader))

mutual

/-- A node. -/
def read : Nat → Site → Reader Node
  | 0, _ => fail
  | fuel + 1, site => do
    if let some (.alias a) ← peek then
      match (← get).anchors.lookup a with
      | some n => advance; return n
      | none => fail
    else
      let (anchor, tag) ← readProperties
      let known := (← get).anchors
      if anchor.any fun a ↦ known.has a then fail
      else
        let items := Node.sequence (collectionTag .sequence tag)
        let pairs := Node.mapping (collectionTag .mapping tag)
        match ← peek, site with
        | some (.scalar text plain), _ =>
          advance
          name anchor (.scalar (scalarTag tag text plain) text)
        | some .flowSequenceStart, _ => readCollection anchor items (readFlowItems fuel true)
        | some .flowMappingStart, _ => readCollection anchor pairs (readFlowPairs fuel true)
        | some .blockSequenceStart, .block => readCollection anchor items (readItems fuel)
        | some .blockSequenceStart, .member => readCollection anchor items (readItems fuel)
        | some .blockMappingStart, .block => readCollection anchor pairs (readPairs fuel)
        | some .blockMappingStart, .member => readCollection anchor pairs (readPairs fuel)
        | some .blockEntry, .member => readCollection anchor items (readBareItems fuel true)
        | _, _ =>
          if anchor.isSome || tag.isSome then name anchor (.scalar (scalarTag tag [] true) [])
          else fail

/-- The items of a sequence in flow style, from the first or a later one on. An item with a value is
a mapping of its own. -/
def readFlowItems : Nat → Bool → Reader (List Node)
  | 0, _ => fail
  | fuel + 1, first => do
    if (← peek) = some .flowSequenceEnd then
      advance
      return []
    if !first then expect .flowEntry
    match ← peek with
    | some .flowSequenceEnd => advance; return []
    | some .key =>
      advance
      let k ← readUnless [.value, .flowEntry, .flowSequenceEnd] (read fuel .flow)
      let v ← readValueUnless [.flowEntry, .flowSequenceEnd] (read fuel .flow)
      return .mapping .mapping [(k, v)] :: (← readFlowItems fuel false)
    | _ =>
      let item ← read fuel .flow
      return item :: (← readFlowItems fuel false)

/-- The pairs of a mapping in flow style, from the first or a later one on. -/
def readFlowPairs : Nat → Bool → Reader (List (Node × Node))
  | 0, _ => fail
  | fuel + 1, first => do
    if (← peek) = some .flowMappingEnd then
      advance
      return []
    if !first then expect .flowEntry
    match ← peek with
    | some .flowMappingEnd => advance; return []
    | some .key =>
      advance
      let k ← readUnless [.value, .flowEntry, .flowMappingEnd] (read fuel .flow)
      let v ← readValueUnless [.flowEntry, .flowMappingEnd] (read fuel .flow)
      return (k, v) :: (← readFlowPairs fuel false)
    | _ =>
      let k ← read fuel .flow
      return (k, empty) :: (← readFlowPairs fuel false)

/-- The items of a sequence in block style. -/
def readItems : Nat → Reader (List Node)
  | 0 => fail
  | fuel + 1 => do
    if (← peek) = some .blockEntry then
      advance
      let item ← readUnless [.blockEntry, .blockEnd] (read fuel .block)
      return item :: (← readItems fuel)
    else
      expect .blockEnd
      return []

/-- The items of a sequence that is not indented, after the sign of the first one or before the sign
of a later one. -/
def readBareItems : Nat → Bool → Reader (List Node)
  | 0, _ => fail
  | fuel + 1, first => do
    if first || (← peek) = some .blockEntry then
      if !first then advance
      let item ← readUnless [.blockEntry, .key, .value, .blockEnd] (read fuel .block)
      return item :: (← readBareItems fuel false)
    else return []

/-- The pairs of a mapping in block style. -/
def readPairs : Nat → Reader (List (Node × Node))
  | 0 => fail
  | fuel + 1 => do
    if (← peek) = some .key then
      advance
      let k ← readUnless [.key, .value, .blockEnd] (read fuel .member)
      let v ← readValueUnless [.key, .value, .blockEnd] (read fuel .member)
      return (k, v) :: (← readPairs fuel)
    else
      expect .blockEnd
      return []

end

/-- The directives at the head of a document. There is one version at most, which must be of the
first line of versions, and each handle is explained once. -/
def readDirectives : Nat → Bool → Table String String → Reader (Table String String)
  | 0, _, _ => fail
  | fuel + 1, versioned, handles => do
    match ← peek with
    | some (.directive (.version major)) =>
      if versioned || major != 1 then fail
      else
        advance
        readDirectives fuel true handles
    | some (.directive (.tag handle start)) =>
      if handles.has handle then fail
      else
        advance
        readDirectives fuel versioned (handles.put handle start)
    | some (.directive .other) =>
      advance
      readDirectives fuel versioned handles
    | _ => return handles

/-- The handles that need no explanation. -/
def standardHandles : Table String String :=
  [("!", "!"), ("!!", Tag.standardStart)]

/-- Whether a document has a head: directives and the mark at its start. -/
def isHead : Token → Bool
  | .directive _ => true
  | .documentStart => true
  | _ => false

/-- The node of a document, if there is a document. -/
def readDocument (fuel : Nat) : Reader (Option Node) := do
  match ← peek with
  | none => return none
  | some t =>
    let node ←
      if isHead t then
        let handles ← readDirectives fuel false []
        modify fun s ↦ { s with handles := handles ++ standardHandles }
        expect .documentStart
        match ← peek with
        | none => pure empty
        | some t => if isHead t || t == .documentEnd then pure empty else read fuel .block
      else
        modify fun s ↦ { s with handles := standardHandles }
        read fuel .block
    modify fun s ↦ { s with tokens := s.tokens.dropWhile (· == .documentEnd) }
    return some node

/-- The node of a document, if there is a document. The tokens end where the document is broken, if
it is; that fault counts once all tokens are used. -/
def ofTokens (tokens : List Token) (fault : Option LoadFault) : Except LoadFault (Option Node) :=
  let broken (rest : List Token) : LoadFault :=
    if rest.isEmpty then fault.getD .invalidYaml else .invalidYaml
  match (readDocument (4 * tokens.length + 4)).run { tokens } with
  | .error rest => .error (broken rest)
  | .ok (node, s) =>
    if s.tokens.isEmpty && fault.isNone then .ok node else .error (broken s.tokens)

end Node

end Phrasebook.Yaml
