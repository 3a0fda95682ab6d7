import Phrasebook.Dictionary.Basic

/-!
# The tables of a TOML document

A document names its tables by headers and by keys of several parts. A table gets one header at
most, unless it is an item of an array of tables, and what is written in one place, an array or an
inline table, cannot grow elsewhere.
-/

set_option autoImplicit false

namespace Phrasebook.Toml

/-- The parts of a key from the root of a document on. -/
abbrev Path := List String

/-- Puts a value at the end of a path of keys, making branches on the way. A key must not be there,
and what the path leads through must be branches. -/
def insert? (value : Entry) : Path → Dictionary → Option Dictionary
  | [], _ => none
  | [key], d => if Table.has (Key.text key) d then none else some (d.put (Key.text key) value)
  | key :: path, d =>
    match d.lookup (Key.text key) with
    | none => (insert? value path []).map fun inner ↦ d.put (Key.text key) (.branch inner)
    | some (.branch inner) =>
      (insert? value path inner).map fun inner ↦ d.put (Key.text key) (.branch inner)
    | some _ => none

/-- Whether a path leads to a value that is complete, or into one. -/
def isComplete (complete : List Path) (path : Path) : Bool :=
  complete.any fun c ↦ c.isPrefixOf path

/-- The paths of complete values with that of another one: arrays and inline tables are complete
where they are written. -/
def withComplete (value : Entry) (path : Path) (complete : List Path) : List Path :=
  match value with
  | .branch _ => path :: complete
  | .list _ => path :: complete
  | _ => complete

/-- Changes the table at a path. A table that is not there is made, and of an array of tables the
last one is meant. -/
def inTable? (f : Dictionary → Option Dictionary) : Path → Dictionary → Option Dictionary
  | [], d => f d
  | key :: path, d =>
    match d.lookup (Key.text key) with
    | none => (inTable? f path []).map fun inner ↦ d.put (Key.text key) (.branch inner)
    | some (.branch inner) =>
      (inTable? f path inner).map fun inner ↦ d.put (Key.text key) (.branch inner)
    | some (.list items) =>
      match items.getLast? with
      | some (.branch inner) =>
        (inTable? f path inner).map fun inner ↦
          d.put (Key.text key) (.list (items.dropLast ++ [.branch inner]))
      | _ => none
    | some _ => none

/-- Puts an empty table at the end of an array of tables. -/
def appendTable? (key : String) (d : Dictionary) : Option Dictionary :=
  match d.lookup (Key.text key) with
  | none => some (d.put (Key.text key) (.list [.branch []]))
  | some (.list items) => some (d.put (Key.text key) (.list (items ++ [.branch []])))
  | some _ => none

/-- The tables of a document so far. -/
structure Tables where
  root : Dictionary := []
  /-- Tables that are closed: they cannot have another header, nor keys from elsewhere. -/
  closed : List Path := []
  /-- Tables that keys have made since the last header; the next header closes them. -/
  opened : List Path := []
  complete : List Path := []
  /-- The table that the last header gave, where keys go. -/
  current : Path := []

namespace Tables

/-- The tables after the header of a table, unless it is closed or complete. -/
def enter? (t : Tables) (path : Path) : Option Tables := do
  let closed := t.opened ++ t.closed
  if closed.contains path || isComplete t.complete path then none
  return { t with
    root := ← inTable? some path t.root
    closed := path :: closed
    opened := []
    current := path }

/-- The tables after the header of an item of an array of tables, unless it is complete. What was
known of the item before does not hold for this one. -/
def append? (t : Tables) (path : Path) : Option Tables := do
  if isComplete t.complete path then none
  let elsewhere (p : Path) : Bool := !path.isPrefixOf p
  return { t with
    root := ← inTable? (appendTable? (path.getLast?.getD "")) path.dropLast t.root
    closed := path :: (t.opened ++ t.closed).filter elsewhere
    opened := []
    complete := t.complete.filter elsewhere
    current := path }

/-- The tables after a value at a path, unless it would go into a closed table or a complete
value. -/
def add? (t : Tables) (path : Path) (value : Entry) : Option Tables := do
  let outer := (List.range' 1 (path.length - 1)).map fun n ↦ t.current ++ path.take n
  let full := t.current ++ path
  if outer.any t.closed.contains || isComplete t.complete full.dropLast then none
  let put := insert? value (path.getLast?.toList)
  return { t with
    root := ← inTable? put full.dropLast t.root
    opened := outer ++ t.opened
    complete := withComplete value full t.complete }

end Tables

end Phrasebook.Toml
