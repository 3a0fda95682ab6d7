import Phrasebook.Dictionary.Json
import Phrasebook.Dictionary.Toml
import Phrasebook.Dictionary.Yaml
import Phrasebook.Text.Case

/-!
# Files with dictionaries

The end of a file's name says in which format its dictionary is written. Files are read as they are
given, by their names and bytes.
-/

set_option autoImplicit false

namespace Phrasebook

open Text

/-- Files by name. -/
abbrev Files := String → Option ByteArray

namespace Files

/-- The parts of a name, which slashes separate. A point stands for the place itself, so it is no
part. -/
def parts (name : String) : List (List Char) :=
  (name.toList.splitOn '/').filter fun part ↦ !part.isEmpty && part != ['.']

/-- What a name begins with if it does not begin at the place itself: two slashes stay two, and more
are one. -/
def root (name : String) : String :=
  match (name.toList.takeWhile (· = '/')).length with
  | 0 => ""
  | 2 => "//"
  | _ => "/"

/-- A name without needless parts. -/
def plainName (name : String) : String :=
  let path := root name ++ "/".intercalate ((parts name).map String.ofList)
  if path = "" then "." else path

/-- Whether a name is that of the place itself or of one above it. Those are there, but they are no
files. -/
def isPlace (name : String) : Bool :=
  (parts name).all (· == ['.', '.'])

/-- The end of a file's name from its last point on, in lower case. A name that has its only point
at the start, or its last point at the end, has no such end. -/
def suffix (name : String) : String :=
  let last := ((parts name).getLast?.getD []).reverse
  let ending := last.takeWhile (· ≠ '.')
  if ending.length + 1 < last.length ∧ !ending.isEmpty then
    String.ofList (lower ('.' :: ending.reverse))
  else ""

/-- A text with its ends of lines written in one way. -/
def plainLines : List Char → List Char
  | '\r' :: '\n' :: s => '\n' :: plainLines s
  | '\r' :: s => '\n' :: plainLines s
  | c :: s => c :: plainLines s
  | [] => []

/-- The text that bytes spell. -/
def text (bytes : ByteArray) : Except LoadFault (List Char) :=
  match String.fromUTF8? bytes with
  | some s => .ok s.toList
  | none => .error .encoding

/-- The value in a file. A value in YAML that is as good as none is an empty dictionary. -/
def entry (name : String) (bytes : ByteArray) : Except LoadFault Entry := do
  let suffix := suffix name
  if suffix = ".json" then Json.read (plainLines (← text bytes))
  else if suffix = ".yaml" ∨ suffix = ".yml" then
    let e ← Yaml.read (plainLines (← text bytes))
    return if e.isEmpty then .branch [] else e
  else if suffix = ".toml" then (Toml.read (← text bytes)).map Entry.branch
  else throw (.unknownFormat suffix)

/-- The value in the file of a name. -/
def load (files : Files) (name : String) : Except LoadFault Entry :=
  if isPlace name then .error (.unknownFormat "")
  else
    match files (plainName name) with
    | some bytes => entry name bytes
    | none => .error (.notFound name)

end Files

end Phrasebook
