import Phrasebook.Dictionary.Yaml.Timestamp

/-!
# Tags of YAML

A tag tells what kind of value a node is. Scalars without quotes have none, and get one from the way
they are written, by the rules of version 1.1: an unquoted `no` is a truth value.
-/

set_option autoImplicit false

namespace Phrasebook.Yaml

/-- The kinds of nodes. -/
inductive Tag
  | null
  | boolean
  | integer
  | float
  | binary
  | timestamp
  | text
  | sequence
  | mapping
  | ordered
  | pairs
  | set
  /-- The key of a mapping whose entries are taken over. -/
  | merge
  /-- The key of the value that stands for a mapping. -/
  | value
  | unknown
  deriving DecidableEq, Repr

namespace Tag

/-- What the names of the tags of the format begin with. -/
def standardStart : String := "tag:yaml.org,2002:"

/-- The tags with their names. -/
def names : List (String × Tag) :=
  [("null", .null), ("bool", .boolean), ("int", .integer), ("float", .float), ("binary", .binary),
    ("timestamp", .timestamp), ("str", .text), ("seq", .sequence), ("map", .mapping),
    ("omap", .ordered), ("pairs", .pairs), ("set", .set), ("merge", .merge), ("value", .value)]

/-- The tag of a full name. -/
def ofName (name : String) : Tag :=
  ((names.find? fun n ↦ standardStart ++ n.1 == name).map Prod.snd).getD .unknown

/-- Whether nodes with the tag are made of other nodes. -/
def isCollection : Tag → Bool
  | .sequence | .mapping | .ordered | .pairs | .set => true
  | _ => false

/-- Words without quotes that stand for truth values. -/
def booleanWords : List (List Char) :=
  ["yes", "Yes", "YES", "no", "No", "NO", "true", "True", "TRUE", "false", "False", "FALSE", "on",
    "On", "ON", "off", "Off", "OFF"].map String.toList

/-- Words without quotes that stand for nothing. -/
def nullWords : List (List Char) :=
  ["~", "null", "Null", "NULL"].map String.toList

/-- A text without a sign at its start. -/
def unsigned : List Char → List Char
  | '+' :: s => s
  | '-' :: s => s
  | s => s

def isPart (c : Char) : Bool :=
  c.isDigit || c == '_'

/-- A digit, and then digits and underscores. -/
def isDigits (s : List Char) : Bool :=
  s.head?.any Char.isDigit && s.all isPart

/-- A number below sixty. -/
def isSixtieth : List Char → Bool
  | [c] => c.isDigit
  | [c, d] => decide ('0' ≤ c) && decide (c ≤ '5') && d.isDigit
  | _ => false

/-- A whole number in base two, eight, ten, sixteen or sixty. -/
def isInteger (s : List Char) : Bool :=
  match unsigned s with
  | '0' :: 'b' :: ds => !ds.isEmpty && ds.all fun c ↦ c == '0' || c == '1' || c == '_'
  | '0' :: 'x' :: ds => !ds.isEmpty && ds.all fun c ↦ isPart c || "abcdefABCDEF".toList.contains c
  | '0' :: ds => ds.all fun c ↦ isPart c && c != '8' && c != '9'
  | ds =>
    match ds.splitOn ':' with
    | first :: rest => isDigits first && rest.all isSixtieth
    | [] => false

/-- An exponent, which needs a sign, or nothing. -/
def isExponent : List Char → Bool
  | [] => true
  | e :: sign :: ds =>
    (e == 'e' || e == 'E') && (sign == '+' || sign == '-') && !ds.isEmpty && ds.all Char.isDigit
  | _ => false

/-- A number with a point, an infinity, or the undefined number. -/
def isFloat (s : List Char) : Bool :=
  let body := unsigned s
  match body.splitOn '.' with
  | [[], fraction] =>
    (body == s && fraction.head?.any Char.isDigit && isExponent (fraction.dropWhile isPart)) ||
      ["inf".toList, "Inf".toList, "INF".toList].contains fraction ||
      (body == s && ["nan".toList, "NaN".toList, "NAN".toList].contains fraction)
  | [whole, fraction] =>
    match whole.splitOn ':' with
    | [ds] => isDigits ds && isExponent (fraction.dropWhile isPart)
    | ds :: rest => isDigits ds && rest.all isSixtieth && fraction.all isPart
    | [] => false
  | _ => false

end Tag

/-- A text without the end of a line at its end. -/
def dropFinalBreak (s : List Char) : List Char :=
  if s.getLast? = some '\n' then s.dropLast else s

/-- The tag of a scalar without quotes. -/
def Tag.ofPlain (s : List Char) : Tag :=
  if s.isEmpty then .null
  else
    let s := dropFinalBreak s
    if booleanWords.contains s then .boolean
    else if isFloat s then .float
    else if isInteger s then .integer
    else if s = ['<', '<'] then .merge
    else if nullWords.contains s then .null
    else if (TimestampText.read? s).any (·.isPlain) then .timestamp
    else if s = ['='] then .value
    else if s = ['!'] ∨ s = ['&'] ∨ s = ['*'] then .unknown
    else .text

end Phrasebook.Yaml
