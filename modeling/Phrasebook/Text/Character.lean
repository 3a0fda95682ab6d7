import Phrasebook.Text.DigitTable
import Phrasebook.Text.HiddenTable
import Phrasebook.Text.LetterTable
import Phrasebook.Text.UpperTable

/-!
# Classes of characters

Templates may be written in any script, so names, digits and white space are judged by Unicode
properties and not by ASCII. Each class answers for ASCII directly and consults a table beyond it.
-/

set_option autoImplicit false

namespace Phrasebook.Text

/-- A property of all characters of a text is decided along the text, and not by trying every
character there is. -/
instance (priority := 2000) decidableForallMem (p : Char → Prop) [DecidablePred p]
    (s : List Char) : Decidable (∀ c ∈ s, p c) :=
  s.decidableBAll p

/-- Likewise for a property of the first character of a text, which there may not be. -/
instance (priority := 2000) decidableForallMemHead (p : Char → Prop) [DecidablePred p]
    (c? : Option Char) : Decidable (∀ c ∈ c?, p c) :=
  c?.decidableForallMem

/-- Whether `n` lies in one of the closed ranges. -/
def inRanges (ranges : List (Nat × Nat)) (n : Nat) : Bool :=
  ranges.any fun r ↦ decide (r.1 ≤ n) && decide (n ≤ r.2)

/-- White space: the Unicode property, together with the ASCII separators U+001C to U+001F. -/
def isBlank (c : Char) : Bool :=
  inRanges [(0x09, 0x0D), (0x1C, 0x20), (0x85, 0x85), (0xA0, 0xA0), (0x1680, 0x1680),
    (0x2000, 0x200A), (0x2028, 0x2029), (0x202F, 0x202F), (0x205F, 0x205F),
    (0x3000, 0x3000)] c.toNat

/-- An ASCII letter. -/
def isLetter (c : Char) : Bool :=
  c.isUpper || c.isLower

/-- A word character: a letter or numeric character of any script, or the underscore. -/
def isWord (c : Char) : Bool :=
  if c.toNat < 0x80 then isLetter c || c.isDigit || c == '_'
  else inRanges letterRanges c.toNat

/-- The value of a decimal digit of any script. -/
def digitValue? (c : Char) : Option Nat :=
  if c.toNat < 0x80 then (if c.isDigit then some (c.toNat - 0x30) else none)
  else (digitZeros.find? fun z ↦ decide (z ≤ c.toNat) && decide (c.toNat < z + 10)).map
    fun z ↦ c.toNat - z

/-- A decimal digit of any script. -/
def isDigit (c : Char) : Bool :=
  (digitValue? c).isSome

/-- A character without a visible form: controls, separators other than the space, unassigned code
points. -/
def isHidden (c : Char) : Bool :=
  if c.toNat < 0x80 then decide (c.toNat < 0x20) || c.toNat == 0x7F
  else inRanges hiddenRanges c.toNat

/-- The upper-case form of a character, which may have several characters (`ß` becomes `SS`). -/
def upperChar (c : Char) : List Char :=
  if c.toNat < 0x80 then [c.toUpper]
  else match upperExpansions.find? fun e ↦ e.1 == c.toNat with
    | some e => e.2.map Char.ofNat
    | none =>
      match upperRuns.find? fun r ↦ decide (r.first ≤ c.toNat) && decide (c.toNat ≤ r.last)
          && (c.toNat - r.first) % r.step == 0 with
      | some r => [Char.ofNat (c.toNat + r.shift).toNat]
      | none => [c]

/-- The upper-case form of a text. -/
def upper (s : String) : String :=
  String.ofList (s.toList.flatMap upperChar)

/-- The text without the white space at its start. -/
def trimStart (s : List Char) : List Char :=
  s.dropWhile isBlank

/-- The text without the white space at its two ends. -/
def trim (s : List Char) : List Char :=
  (trimStart (trimStart s).reverse).reverse

/-- The maximal runs of characters other than white space. -/
def words (s : List Char) : List (List Char) :=
  (s.splitOnP isBlank).filter fun w ↦ !w.isEmpty

/-- What follows `p` in a text that begins with it. -/
def after? : List Char → List Char → Option (List Char)
  | [], s => some s
  | _ :: _, [] => none
  | p :: ps, c :: s => if p = c then after? ps s else none

/-- A text that begins with `p` is `p` and what follows it. -/
theorem append_of_after? {p s r : List Char} (h : after? p s = some r) : s = p ++ r := by
  induction p generalizing s with
  | nil => simpa [after?] using h
  | cons a ps ih =>
    cases s with
    | nil => simp [after?] at h
    | cons c s =>
      by_cases hac : a = c
      · subst hac
        simp only [after?, if_true] at h
        rw [ih h, List.cons_append]
      · simp [after?, hac] at h

@[simp]
theorem after?_append (p r : List Char) : after? p (p ++ r) = some r := by
  induction p with
  | nil => rfl
  | cons a ps ih => simp [after?, ih]

end Phrasebook.Text
