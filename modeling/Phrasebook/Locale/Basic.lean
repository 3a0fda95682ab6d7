import Phrasebook.Locale.TagTable
import Phrasebook.Text.Case

/-!
# Locale tags

A tag names a language, and optionally a script, a territory and a variant: `zh-Hant-TW`,
`en_US.UTF-8`. A tag whose locale is not known by itself is brought to the codes of today and
completed with the subtags that are most likely for its language, so that `zh-TW` means traditional
Chinese as written in Taiwan.
-/

set_option autoImplicit false

namespace Phrasebook

/-- The parts of a locale tag. -/
structure Subtags where
  language : String
  script : Option String := none
  territory : Option String := none
  variant : Option String := none
  /-- What follows an at sign. -/
  modifier : Option String := none
  deriving DecidableEq, Repr

/-- Whether a locale of this name exists. -/
def isKnownLocale (name : String) : Bool :=
  localeFamilies.any fun r ↦ name == r.1 || r.2.any fun subtag ↦ name == r.1 ++ "_" ++ subtag

namespace Subtags

/-- The parts up to the variant, joined by underscores. -/
def name (t : Subtags) : String :=
  "_".intercalate ([t.language] ++ t.script.toList ++ t.territory.toList ++ t.variant.toList)

/-- A letter of any script. -/
def isLetter (c : Char) : Bool :=
  Text.isWord c && !Text.isDigit c && c != '_'

/-- The first letter in upper case and the others in lower case. -/
def titlecase : List Char → String
  | [] => ""
  | c :: cs => Text.upper (String.singleton c) ++ String.ofList (Text.lower cs)

def isVariant : List Char → Bool
  | [] => false
  | c :: cs => (cs.length == 3 && c.isDigit) || (decide (4 ≤ cs.length) && isLetter c)

/-- The script at the start of some parts, and the parts after it. -/
def takeScript : List (List Char) → Option String × List (List Char)
  | p :: rest =>
    if p.length = 4 ∧ p.all isLetter then (some (titlecase p), rest) else (none, p :: rest)
  | [] => (none, [])

/-- The territory at the start of some parts, and the parts after it. -/
def takeTerritory : List (List Char) → Option String × List (List Char)
  | p :: rest =>
    if p.length = 2 ∧ p.all isLetter then (some (Text.upper (String.ofList p)), rest)
    else if p.length = 3 ∧ p.all Char.isDigit then (some (String.ofList p), rest)
    else (none, p :: rest)
  | [] => (none, [])

/-- Reads the parts in the order language, script, territory, variant. A charset after a point is
left out; any other part that remains makes the tag invalid. -/
def ofTag? (tag : String) : Option Subtags :=
  let s := tag.toList.map fun c ↦ if c = '-' then '_' else c
  let main := s.takeWhile (· ≠ '@')
  let after := (s.drop main.length).tail
  let modifier := if after.isEmpty then none else some (String.ofList after)
  match (main.takeWhile (· ≠ '.')).splitOn '_' with
  | [] => none
  | language :: parts =>
    let language := Text.lower language
    if language.isEmpty ∨ ¬ language.all isLetter then none
    else
      let language := String.ofList language
      let (script, parts) := takeScript parts
      let (territory, parts) := takeTerritory parts
      match parts with
      | [] => some { language, script, territory, modifier }
      | [p] =>
        if isVariant p then
          some { language, script, territory, variant := Text.upper (String.ofList p), modifier }
        else none
      | _ => none

/-- The name of the first of these locales that is known: the one with all parts, the one with
language and territory only. -/
def known? (t : Subtags) : Option String :=
  let short : Subtags := { language := t.language, territory := t.territory }
  if isKnownLocale t.name then some t.name
  else if isKnownLocale short.name then some short.name
  else none

/-- The parts with old codes and numbers replaced by the codes of today. What stands for an unknown
script or territory is left out. -/
def modernize (t : Subtags) : Subtags :=
  let territory := t.territory.map fun s ↦ (territoryAliases.lookup s).getD s
  { t with
    language := (languageAliases.lookup t.language).getD t.language
    territory := if territory = some "ZZ" then none else territory
    script := if t.script = some "Zzzz" then none else t.script }

/-- The most likely parts for a tag. -/
def likely? (name : String) : Option Subtags :=
  (likelySubtags.lookup name).map fun p ↦
    { language := p.1, script := some p.2.1, territory := some p.2.2 }

/-- Completes the parts with the likely ones: first for the parts as a whole, which must not have a
modifier then, and after that for the language, keeping the territory that was given. -/
def complete? (t : Subtags) : Option String :=
  let t := t.modernize
  let whole := if t.modifier.isNone then (likely? t.name).bind known? else none
  whole.or ((likely? t.language).bind fun l ↦ known? { l with territory := t.territory })

end Subtags

/-- A locale that the library has data for. -/
structure Locale where
  name : String
  deriving DecidableEq, Repr

namespace Locale

/-- The locale that a tag means. -/
def ofTag? (tag : String) : Option Locale := do
  let t ← Subtags.ofTag? tag
  let name ← if isKnownLocale t.name then some t.name else t.complete?
  some ⟨name⟩

/-- The territory of a locale, if its name has one. -/
def territory? (locale : Locale) : Option String :=
  (locale.name.splitOn "_").tail.find? fun part ↦ part.length = 2

end Locale

end Phrasebook
