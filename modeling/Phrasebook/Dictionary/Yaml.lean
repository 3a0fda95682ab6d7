import Phrasebook.Dictionary.Basic
import Phrasebook.Dictionary.Yaml.Layout
import Phrasebook.Dictionary.Yaml.Node
import Phrasebook.Dictionary.Yaml.Number

/-!
# Dictionaries in YAML

The node of a document becomes an entry of a dictionary. A mapping may take over the pairs of other
mappings; its own pairs come after them, so they win. A node may fail to be what its tag says. Of
several such nodes the one that is least deep counts, and of those the first one.
-/

set_option autoImplicit false

namespace Phrasebook.Yaml

/-! ## Scalars -/

/-- The truth value that a word is in any case. -/
def readBoolean (s : List Char) : Except ScalarFault Bool :=
  let word := String.ofList (Text.lower s)
  if ["yes", "true", "on"].contains word then .ok true
  else if ["no", "false", "off"].contains word then .ok false
  else .error (.unknownWord word)

/-- The characters of a row of bytes in base 64 that are more than filling, after `quad` characters
of a group of four and some signs that fill it up. The last group must be complete. -/
def base64 (quad fill : Nat) : List Char → Option (List Char)
  | [] => if quad = 0 then some [] else none
  | c :: s =>
    if c = '=' then
      if quad < 2 then base64 quad fill s
      else if 4 ≤ quad + fill + 1 then some []
      else base64 quad (fill + 1) s
    else if c.isAlphanum ∨ c = '+' ∨ c = '/' then
      (base64 ((quad + 1) % 4) 0 s).map (c :: ·)
    else base64 quad fill s

/-- The row of bytes that a text is. -/
def readBytes (s : List Char) : Except LoadFault Entry :=
  if s.any fun c ↦ decide (0x7F < c.toNat) then .error .invalidYaml
  else
    match base64 0 0 s with
    | some data => .ok (.foreign (String.ofList data))
    | none => .error .invalidYaml

/-- The date or time that a text is. -/
def readTimestamp (s : List Char) : Except ScalarFault Entry :=
  match TimestampText.read? (dropFinalBreak s) with
  | some t => t.isoText.map .foreign
  | none => .error .notMoment

/-- The entry that a text is by a tag. -/
def readScalar (tag : Tag) (s : List Char) : Except LoadFault Entry :=
  match tag with
  | .null => .ok .absent
  | .boolean => ((readBoolean s).map .boolean).mapError .scalar
  | .integer => ((readInteger s).map (.number ∘ .integer)).mapError .scalar
  | .float => ((readFloat s).map (.number ∘ .binary)).mapError .scalar
  | .binary => readBytes s
  | .timestamp => (readTimestamp s).mapError .scalar
  | .text => .ok (.text (String.ofList s))
  | _ => .error .invalidYaml

/-! ## Faults by their depth -/

/-- What was made of a part of a document, or the fault in it with its depth. -/
abbrev Made (α : Type) := Except (Nat × LoadFault) α

namespace Made

variable {α β : Type}

/-- What was made of two parts. A fault that is deeper in the first part than one in the second does
not count. -/
def both (a : Made α) (b : Made β) : Made (α × β) :=
  match a, b with
  | .ok x, .ok y => .ok (x, y)
  | .ok _, .error g => .error g
  | .error f, .ok _ => .error f
  | .error f, .error g => .error (if g.1 < f.1 then g else f)

/-- What was made of several parts. -/
def all : List (Made α) → Made (List α)
  | [] => .ok []
  | a :: as => (both a (all as)).map fun p ↦ p.1 :: p.2

/-- What was made of the parts of a collection, seen from outside. -/
def inside (a : Made α) : Made α :=
  a.mapError fun f ↦ (f.1 + 1, f.2)

/-- What was made at once. -/
def ofExcept (a : Except LoadFault α) : Made α :=
  a.mapError fun f ↦ (0, f)

/-- What cannot be made. -/
def invalid : Made α :=
  .error (0, .invalidYaml)

end Made

/-! ## Nodes -/

namespace Node

def tag : Node → Tag
  | .scalar tag _ => tag
  | .sequence tag _ => tag
  | .mapping tag _ => tag

/-- The text of a node. That of a mapping is the text of the value that stands for it. -/
def text? : Node → Option (List Char)
  | .scalar _ s => some s
  | .sequence .. => none
  | .mapping _ pairs => textOf pairs
where
  textOf : List (Node × Node) → Option (List Char)
    | [] => none
    | (k, v) :: rest => if k.tag = .value then text? v else textOf rest

/-- What a node that is no collection by its tag becomes. -/
def atom (n : Node) : Made Entry :=
  match n.text? with
  | some s => .ofExcept (readScalar n.tag s)
  | none => .invalid

/-- A pair of a mapping. -/
abbrev MadePair := Made Key × Made Entry

/-- The dictionary that pairs make. -/
def branch (pairs : Option (List MadePair)) : Made Dictionary :=
  match pairs with
  | some ps => (Made.all (ps.map fun p ↦ p.1.both p.2)).map Table.ofPairs
  | none => .invalid

/-- The pairs that are taken over, and then those of a mapping itself. -/
def joined (r : List MadePair × List MadePair) : List MadePair :=
  r.1 ++ r.2

mutual

/-- The entry that a node becomes. -/
def entry : Node → Made Entry
  | .scalar tag s => if tag.isCollection then .inside .invalid else atom (.scalar tag s)
  | .sequence tag items =>
    match tag with
    | .sequence => .inside ((Made.all (entries items)).map .list)
    | .ordered => .inside ((Made.all (members items)).map .list)
    | .pairs => .inside ((Made.all (members items)).map .list)
    | tag => if tag.isCollection then .inside .invalid else .invalid
  | .mapping tag pairs =>
    match tag with
    | .mapping => .inside ((branch ((gather pairs).map joined)).map .branch)
    | .set =>
      .inside ((branch ((gather pairs).map joined)).map fun d ↦ .list (d.keys.map Entry.ofKey))
    | tag => if tag.isCollection then .inside .invalid else atom (.mapping tag pairs)

/-- The entries that nodes become. -/
def entries : List Node → List (Made Entry)
  | [] => []
  | n :: ns => entry n :: entries ns

/-- The pairs that mappings of one pair each become. -/
def members : List Node → List (Made Entry)
  | [] => []
  | n :: ns =>
    (match n with
      | .mapping _ [(k, v)] => ((entry k).both (entry v)).map fun p ↦ .list [p.1, p.2]
      | _ => .invalid) :: members ns

/-- The pairs that a mapping takes over from others, and its own, if all of them can be taken. -/
def gather : List (Node × Node) → Option (List MadePair × List MadePair)
  | [] => some ([], [])
  | (k, v) :: rest =>
    if k.tag = .merge then
      match taken v, gather rest with
      | some ps, some r => some (ps ++ r.1, r.2)
      | _, _ => none
    else
      let made : Made Key :=
        if k.tag = .value then
          match k with
          | .scalar _ s => .ok (.text (String.ofList s))
          | _ => .invalid
        else if k.tag.isCollection then .invalid
        else (entry k).bind fun e ↦ (e.key?.map Except.ok).getD Made.invalid
      (gather rest).map fun r ↦ (r.1, (made, entry v) :: r.2)

/-- The pairs that are taken over from a mapping, or from several of which the first one wins. -/
def taken : Node → Option (List MadePair)
  | .scalar .. => none
  | .mapping _ pairs => (gather pairs).map joined
  | .sequence _ items => takenFromAll items

/-- The pairs that are taken over from mappings, those of the first one last. -/
def takenFromAll : List Node → Option (List MadePair)
  | [] => some []
  | n :: ns =>
    match n with
    | .mapping _ pairs =>
      match gather pairs, takenFromAll ns with
      | some r, some ps => some (ps ++ joined r)
      | _, _ => none
    | _ => none

end

end Node

/-- The entry that a document spells; none is nothing. -/
def read (s : List Char) : Except LoadFault Entry := do
  if s.any fun c ↦ !isPrintable c then throw .invalidYaml
  let (tokens, fault) := tokens s
  match ← Node.ofTokens tokens fault with
  | none => return .absent
  | some n => n.entry.mapError Prod.snd

end Phrasebook.Yaml
