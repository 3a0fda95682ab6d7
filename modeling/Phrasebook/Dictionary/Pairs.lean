import Phrasebook.Dictionary.Basic

/-!
# Dictionaries from pairs

What should be a dictionary may also be given as a list of pairs, each a key and its entry. A pair
is a list of two, a text of two characters, or even a branch with two keys.
-/

set_option autoImplicit false

namespace Phrasebook

/-- Why something is no list of pairs. -/
inductive PairFault
  /-- It has no elements that could be pairs. -/
  | notPairs
  /-- An element, counted from zero, has a length other than two. -/
  | length (index n : Nat)
  /-- The first of a pair cannot be a key. -/
  | notAKey
  deriving DecidableEq, Repr

/-- The fault in words. -/
def PairFault.message : PairFault → String
  | .notPairs => "A list of pairs was expected"
  | .length index n =>
    "dictionary update sequence element #" ++ toString index ++ " has length " ++ toString n ++
      "; 2 is required"
  | .notAKey => "A list or a branch is no key"

/-- What an entry is made of, if it is made of anything. -/
def Entry.elements? : Entry → Option (List Entry)
  | .list items => some items
  | .text s => some (s.toList.map fun c ↦ .text (String.singleton c))
  | .branch entries => some (entries.map fun e ↦ Entry.ofKey e.1)
  | _ => none

namespace Dictionary

/-- The dictionary after the pairs among the elements from one at `index` on have been put into it,
a later pair for a key taking the place of an earlier one. -/
def putPairs (index : Nat) (d : Dictionary) : List Entry → Except PairFault Dictionary
  | [] => .ok d
  | e :: rest =>
    match e.elements? with
    | none => .error .notPairs
    | some [key, entry] =>
      match key.key? with
      | some key => putPairs (index + 1) (Table.put key entry d) rest
      | none => .error .notAKey
    | some other => .error (.length index other.length)

/-- An entry as a dictionary: a branch, pairs, or none at all for what is as good as nothing. -/
def ofEntry (e : Entry) : Except PairFault Dictionary :=
  match e with
  | .branch entries => .ok entries
  | e =>
    if e.isEmpty then .ok []
    else
      match e.elements? with
      | some elements => putPairs 0 [] elements
      | none => .error .notPairs

end Dictionary

end Phrasebook
