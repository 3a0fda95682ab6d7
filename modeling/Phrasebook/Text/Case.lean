import Phrasebook.Text.CaseTable
import Phrasebook.Text.Character
import Phrasebook.Text.LowerTable

/-!
# Lower case

The lower-case form of a text in any script. A capital sigma is the only letter whose form depends
on its place: at the end of a word it is a final sigma.
-/

set_option autoImplicit false

namespace Phrasebook.Text

/-- A letter with a case. -/
def isCased (c : Char) : Bool :=
  inRanges casedRanges c.toNat

/-- A character that stands within a word without taking part in its case. -/
def isCaseless (c : Char) : Bool :=
  inRanges caselessRanges c.toNat

/-- The lower-case form of a character that does not depend on its place. -/
def lowerChar (c : Char) : List Char :=
  if c.toNat < 0x80 then [c.toLower]
  else if c = '\u0130' then ['i', '\u0307']
  else match lowerRuns.find? fun r ↦ decide (r.first ≤ c.toNat) && decide (c.toNat ≤ r.last)
      && (c.toNat - r.first) % r.step == 0 with
    | some r => [Char.ofNat (c.toNat + r.shift).toNat]
    | none => [c]

/-- Whether a place is the end of a word: the nearest letter before it has a case, and the nearest
one after it has none. What stands before it is given from the right. -/
def endsWord (before after : List Char) : Bool :=
  (before.dropWhile isCaseless).head?.any isCased &&
    !(after.dropWhile isCaseless).head?.any isCased

/-- The lower-case form of a text after `before`, which is given from the right. -/
def lowerAfter (before : List Char) : List Char → List Char
  | [] => []
  | c :: s =>
    (if c = 'Σ' then [if endsWord before s then 'ς' else 'σ'] else lowerChar c) ++
      lowerAfter (c :: before) s

/-- The lower-case form of a text. -/
def lower (s : List Char) : List Char :=
  lowerAfter [] s

end Phrasebook.Text
