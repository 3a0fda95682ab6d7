import Phrasebook.Format.Fault
import Phrasebook.Locale.Tables
import Phrasebook.Value

/-!
# Lists as a locale writes them

A list is joined from its start: the first two items, then each further one, and the last one in its
own way. A locale that lacks a style of lists uses the next one that is close to it.
-/

set_option autoImplicit false

namespace Phrasebook

namespace Format

/-- Two texts joined by a pattern. -/
def joinTwo (p : JoinPattern) (a b : String) : String :=
  p.before ++ a ++ p.between ++ b ++ p.after

/-- The styles to try for a style of lists, the style itself first. -/
def listStyles (style : String) : List String :=
  style :: (([
    ("or-narrow", ["or-short", "or"]), ("or-short", ["or"]),
    ("standard-narrow", ["standard-short", "standard"]), ("standard-short", ["standard"]),
    ("unit", ["unit-short", "standard"]), ("unit-narrow", ["unit-short", "unit", "standard"]),
    ("unit-short", ["standard"])] : List (String × List String)).lookup style).getD []

/-- The name of a style: the kind of list and its length. Unknown kinds are conjunctions and unknown
lengths are long. -/
def listStyle (kind length : String) : String :=
  (([("conjunction", "standard"), ("disjunction", "or"), ("unit", "unit")] :
      List (String × String)).lookup kind).getD "standard" ++
    (([("short", "-short"), ("narrow", "-narrow")] : List (String × String)).lookup length).getD ""

/-- Texts joined by the patterns of one style. -/
def joinAll (patterns : List (String × JoinPattern)) : List String → Except FormatFault String
  | [] => .ok ""
  | [a] => .ok a
  | a :: b :: rest => do
    let pattern (place : String) := need .missingData (patterns.lookup place)
    match rest, patterns.lookup "2" with
    | [], some p => return joinTwo p a b
    | _, _ =>
      let start := joinTwo (← pattern "start") a b
      let inner := rest.dropLast
      let middle ← if inner.isEmpty then pure start
        else do
          let p ← pattern "middle"
          pure (inner.foldl (joinTwo p) start)
      return joinTwo (← pattern "end") middle (rest.getLast?.getD b)

/-- Items joined the way a locale joins a list. -/
def list (items : List Value) (tag kind length : String) (book : LocaleBook) :
    Except FormatFault String := do
  if Value.anyOverlong items then .error .unsuitableValue
  let data ← dataOf tag book
  match items with
  | [] => return ""
  | [a] => return a.plainText
  | _ =>
    let styles := listStyles (listStyle kind length)
    let patterns ← need .missingData (styles.findSome? fun style ↦ data.lists.lookup style)
    joinAll patterns (items.map Value.plainText)

/-- The items that a value is made of: those of a list, or the characters of a text. -/
def itemsOf : Value → Except FormatFault (List Value)
  | .list items => .ok items
  | .text s => .ok (s.toList.map fun c ↦ .text (String.singleton c))
  | _ => .error .unsuitableValue

/-- The items of a value joined the way a locale joins a list. -/
def listOf (v : Value) (tag kind length : String) (book : LocaleBook := .tables) :
    Except FormatFault String := do
  list (← itemsOf v) tag kind length book

end Format

end Phrasebook
