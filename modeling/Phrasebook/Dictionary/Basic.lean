import Phrasebook.Number
import Phrasebook.Table

/-!
# Dictionaries

A dictionary holds the phrases of a locale under keys, in branches of any depth. Phrases are texts.
Files may also bring keys that are no texts and entries that are no phrases; those are kept, but no
key of a phrase leads to them.
-/

set_option autoImplicit false

namespace Phrasebook

/-- A key of a dictionary. -/
inductive Key
  | text (s : String)
  /-- A key that is no text: what tells it from other such keys, and how it is written. -/
  | other (identity spelling : String)
  deriving Repr

namespace Key

/-- Whether two keys are the same; the spelling of a key that is no text does not matter. -/
def same : Key → Key → Bool
  | .text s, .text t => s == t
  | .other i _, .other j _ => i == j
  | _, _ => false

instance : BEq Key := ⟨same⟩

/-- How a key is written. -/
def spelling : Key → String
  | .text s => s
  | .other _ s => s

/-- A number as a key. Numbers of one value are one key, whichever kind they are of. -/
def ofNumber (n : Number) : Key :=
  .other n.plainText <| match n with
    | .binary .nan => "NaN"
    | .binary (.infinite negative) => if negative then "-Infinity" else "Infinity"
    | n => n.text

/-- A truth value as a key, which is the key of the number one or zero. -/
def ofBool (b : Bool) : Key :=
  .other (if b then "1" else "0") (if b then "true" else "false")

end Key

/-- An entry of a dictionary. -/
inductive Entry
  | text (s : String)
  | absent
  | boolean (b : Bool)
  | number (n : Number)
  | list (items : List Entry)
  | branch (entries : List (Key × Entry))
  /-- A date, a time or a row of bytes, by its text. -/
  | foreign (spelling : String)
  deriving Inhabited

/-- Keys with entries, in order. -/
abbrev Dictionary := Table Key Entry

namespace Entry

/-- The key that an entry is. A collection is none. -/
def key? : Entry → Option Key
  | .text s => some (.text s)
  | .absent => some (.other "" "null")
  | .boolean b => some (.ofBool b)
  | .number n => some (.ofNumber n)
  | .foreign s => some (.other ("=" ++ s) s)
  | .list _ => none
  | .branch _ => none

/-- The entry that a key was made from, up to what does not tell keys apart. -/
def ofKey : Key → Entry
  | .text s => .text s
  | .other _ s => .foreign s

/-- Whether an entry is as good as none: nothing, zero, an empty text, or a collection of
nothing. -/
def isEmpty : Entry → Bool
  | .text s => s = ""
  | .absent => true
  | .boolean b => !b
  | .number n => n.equalsBinary (.zero false)
  | .list items => items.isEmpty
  | .branch entries => entries.isEmpty
  | .foreign s => s = ""

/-- The entry as a phrase. -/
def phrase? : Entry → Option String
  | .text s => some s
  | _ => none

/-- What a path leads to from an entry. Nothing is found past an absent entry or one that is no
branch, nor at an absent entry itself. -/
def follow (e : Entry) : List String → Option Entry
  | [] => some e
  | key :: path =>
    match e with
    | .branch entries =>
      match entries.lookup (Key.text key) with
      | none => none
      | some .absent => none
      | some e => follow e path
    | _ => none

end Entry

namespace Dictionary

/-- The parts of a key, which points separate. -/
def path (key : String) : List String :=
  (key.toList.splitOn '.').map String.ofList

/-- The entry under a key. -/
def find? (d : Dictionary) (key : String) : Option Entry :=
  Entry.follow (.branch d) (path key)

/-- The phrase under a key. -/
def phrase? (d : Dictionary) (key : String) : Option String :=
  (d.find? key).bind Entry.phrase?

mutual

/-- What an entry becomes when another comes in its place: two branches are merged. -/
def mergeEntry (old : Option Entry) : Entry → Entry
  | .branch new =>
    match old with
    | some (.branch entries) => .branch (merge entries new)
    | _ => .branch new
  | new => new

/-- Merges a dictionary into another; its entries win. -/
def merge (d : List (Key × Entry)) : List (Key × Entry) → List (Key × Entry)
  | [] => d
  | (key, new) :: rest => merge (Table.put key (mergeEntry (d.lookup key) new) d) rest

end

end Dictionary

end Phrasebook
