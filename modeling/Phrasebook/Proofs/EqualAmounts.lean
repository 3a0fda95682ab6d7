import Phrasebook.Proofs.AlikeNumbers
import Phrasebook.Proofs.EqualCounts
import Phrasebook.Proofs.NumericTexts

/-!
Amounts given as texts.

A whole number in a text is read as the double nearest to it, which is written with the digits of
its own text. Where these are the digits of the number (`Number.Exact`, up to `2 ^ 53` always) the
number and its text are written alike: as decimal numbers they have one sign and one value, and
nothing else of a number is looked at when it is written (`Format.number_congr`).
-/

set_option autoImplicit false

namespace Phrasebook

open Arithmetic Text

/-! ### Whole numbers that are written as their doubles -/

namespace Number

/-- A whole number that is a double, and the text of this double spells it. -/
structure Exact (n : ℤ) : Prop where
  whole : (Binary64.ofInt n).toInt? = some n
  spelled : (Decimal.ofBinary64 (.ofInt n)).compare? (.ofInt n) = some .eq

instance (n : ℤ) : Decidable (Exact n) :=
  decidable_of_iff ((Binary64.ofInt n).toInt? = some n ∧
      (Decimal.ofBinary64 (.ofInt n)).compare? (.ofInt n) = some .eq)
    ⟨fun ⟨h₁, h₂⟩ ↦ ⟨h₁, h₂⟩, fun h ↦ ⟨h.1, h.2⟩⟩

variable {n : ℤ}

theorem value_ofInt (n : ℤ) : (Decimal.ofInt n).value = n := by
  rw [Decimal.ofInt, Decimal.value, zpow_zero, mul_one]
  split
  · rename_i hn
    have hneg : (n : ℚ) < 0 := by exact_mod_cast of_decide_eq_true hn
    rw [Nat.cast_natAbs, Int.cast_abs, abs_of_neg hneg, neg_neg]
  · rename_i hn
    have hpos : (0 : ℚ) ≤ n := by exact_mod_cast not_lt.1 (mt decide_eq_true hn)
    rw [Nat.cast_natAbs, Int.cast_abs, abs_of_nonneg hpos]

theorem spells_ofInt (n : ℤ) : (Decimal.ofInt n).Spells n :=
  ⟨_, _, rfl, value_ofInt n, fun _ ↦ by decide⟩

/-- The text of the double nearest to a whole number other than zero has its sign. -/
theorem exists_ofBinary64 (h : (Binary64.ofInt n).toInt? = some n) (hn : n ≠ 0) :
    ∃ m e c g, Decimal.ofBinary64 (.ofInt n) = .finite (decide (n < 0)) c g ∧
      Binary64.Canonical m e ∧ m ≠ 0 ∧ (m : ℚ) * 2 ^ e = n.natAbs ∧
      (c : ℚ) * 10 ^ g = (Binary64.shortest m e).1 * 10 ^ (Binary64.shortest m e).2 := by
  have hfinite := Binary64.isFinite_of_toInt? h
  generalize Binary64.ofInt n = x at h hfinite ⊢
  cases x with
  | nan | infinite => cases hfinite
  | finite s m e hcanonical =>
    obtain ⟨hsign, hm, hsize⟩ := Binary64.parts_of_toInt? h hn
    obtain ⟨c, g, hdecimal, hvalue⟩ := Decimal.exists_ofBinary64 hcanonical hm s
    exact ⟨m, e, c, g, hsign ▸ hdecimal, hcanonical, hm, hsize, hvalue⟩

theorem Exact.spells (h : Exact n) : (Decimal.ofBinary64 (.ofInt n)).Spells n := by
  by_cases hn : n = 0
  · subst hn
    exact ⟨0, -1, rfl, by simp, fun _ ↦ by decide⟩
  · obtain ⟨m, e, c, g, hdecimal, -⟩ := exists_ofBinary64 h.whole hn
    have hspelled := h.spelled
    rw [hdecimal, Decimal.ofInt, Decimal.compare?_eq_iff, ← Decimal.ofInt, value_ofInt] at hspelled
    exact ⟨c, g, hdecimal, hspelled, fun hzero ↦ absurd hzero hn⟩

/-- Up to `2 ^ 53` every whole number is so. -/
theorem exact_of_le (h : n.natAbs ≤ 2 ^ 53) : Exact n := by
  have hwhole := Binary64.toInt?_ofInt h
  refine ⟨hwhole, ?_⟩
  by_cases hn : n = 0
  · subst hn
    rfl
  · obtain ⟨m, e, c, g, hdecimal, hcanonical, hm, hsize, hvalue⟩ := exists_ofBinary64 hwhole hn
    rw [hdecimal, Decimal.ofInt, Decimal.compare?_eq_iff]
    refine Decimal.value_congr ?_
    rw [hvalue, Binary64.shortest_of_whole hcanonical hm hsize h, zpow_zero, mul_one]

theorem isOverlong_ofInt (h : (Binary64.ofInt n).toInt? = some n) :
    (integer n).isOverlong = false := by
  refine isOverlong_of_lt_bound (not_le.1 fun hbound ↦ ?_)
  obtain ⟨t, ht⟩ := (Binary64.ofInt_eq_infinite_iff n).2 hbound
  rw [ht] at h
  cases h

end Number

namespace Scene

variable {scene : Scene} {value : String → Value} {name : String} {n : ℤ} {t : Value}

/-! ### Arguments -/

/-- A number and its double are shown alike, whichever text the locale has for them. -/
theorem written_exact (h : Number.Exact n) (text : Except FormatFault String) :
    written (.number (.binary (.ofInt n))) text = written (.number (.integer n)) text := by
  have hshown : shown (.number (.binary (.ofInt n))) = shown (.number (.integer n)) := by
    simp only [shown, Value.isOverlong, Number.isOverlong_ofInt h.whole, Value.plainText,
      Number.plainText, h.whole]
    rfl
  cases text with
  | ok s => rfl
  | error f => rw [written, written, hshown]

theorem decimalOf_binary (h : Number.Exact n) :
    Format.decimalOf (.number (.binary (.ofInt n))) = .ok (Decimal.ofBinary64 (.ofInt n)) ∧
      Format.decimalOf (.number (.integer n)) = .ok (Decimal.ofInt n) :=
  ⟨rfl, Format.decimalOf_number (Number.isOverlong_ofInt h.whole)⟩

/-- What is written for a number is written for its text, if the double that this is read as is
written alike. -/
theorem withValue_exact (h : Number.Exact n) (ht : t.readNumber? = some (.binary (.ofInt n)))
    (format : Value → Except FormatFault String)
    (hformat : format (.number (.binary (.ofInt n))) = format (.number (.integer n))) :
    (scene.binding value name t).withValue name (fun v ↦ orHole name v.readNumber? fun m ↦
        [written (.number m) (format (.number m))]) =
      (scene.binding value name (.number (.integer n))).withValue name fun v ↦
        orHole name v.readNumber? fun m ↦ [written (.number m) (format (.number m))] := by
  have hinteger : (Value.number (.integer n)).readNumber? = some (.integer n) := rfl
  rw [withValue_binding_self, withValue_binding_self, ht, hinteger, orHole, orHole, hformat,
    written_exact h]

section Arguments

variable (hbook : scene.book.FromThousand) (h : Number.Exact n)
  (ht : t.readNumber? = some (.binary (.ofInt n)))

include h ht

include hbook in
theorem number_exact (style : Option String) (options : Option NumberOptions) :
    (scene.binding value name t).number name style options =
      (scene.binding value name (.number (.integer n))).number name style options :=
  withValue_exact h ht (fun v ↦ Format.number v scene.locale style options scene.book)
    (Format.number_congr hbook (decimalOf_binary h).1 (decimalOf_binary h).2 h.spells
      (Number.spells_ofInt n) scene.locale style options)

theorem currency_exact (code : String) :
    (scene.binding value name t).extension ⟨name, .currency code⟩ =
      (scene.binding value name (.number (.integer n))).extension ⟨name, .currency code⟩ :=
  withValue_exact h ht
    (fun v ↦ Format.currency v (some (if code = "" then defaultCurrency else code)) scene.locale
      scene.book)
    (Format.currency_congr (decimalOf_binary h).1 (decimalOf_binary h).2
      (h.spells.alike (Number.spells_ofInt n)) _ scene.locale scene.book)

include hbook in
theorem compact_exact (display : CompactDisplay) :
    (scene.binding value name t).extension ⟨name, .compact display⟩ =
      (scene.binding value name (.number (.integer n))).extension ⟨name, .compact display⟩ :=
  withValue_exact h ht (fun v ↦ Format.compact v scene.locale display scene.book)
    (Format.compact_congr hbook (decimalOf_binary h).1 (decimalOf_binary h).2
      (h.spells.alike (Number.spells_ofInt n)) scene.locale display)

end Arguments

end Scene

/-- The value is the text of a whole number, with white space around it. -/
def Value.TextOf (t : Value) (n : ℤ) : Prop :=
  ∃ w w' : List Char, (∀ c ∈ w, isBlank c = true) ∧ (∀ c ∈ w', isBlank c = true) ∧
    t = .text (String.ofList (w ++ (toString n).toList ++ w'))

namespace Scene

open Value

/-- The text of a whole number is read as the double nearest to it, and so as the number itself just
if this is a double; the plain text of a double is read as a double that is equal to it. A number,
an amount of money and a number in compact notation are therefore written alike for a whole number
and for its text, in every locale, if the number is a double whose text spells it, as every number
up to `2 ^ 53` is. Here compact notation has no units below a thousand by the data of any locale. -/
theorem numeric_text_read :
    (∀ (n : ℤ) (t : Value), t.TextOf n → t.readNumber? = some (.binary (.ofInt n))) ∧
    (∀ n : ℤ, (Number.integer n).equalsBinary (.ofInt n) = true ↔
      ∃ x : Binary64, x.toInt? = some n) ∧
    (∀ x : Binary64, x.isNaN = false →
      ∃ y, readNumber? (.text (plainText (.number (.binary x)))) = some (.binary y) ∧
        (Number.binary y).equalsBinary x = true) ∧
    (∀ n : ℤ, n.natAbs ≤ 2 ^ 53 → Number.Exact n) ∧
    ∀ (n : ℤ) (t : Value), Number.Exact n → t.TextOf n →
      ∀ (scene : Scene) (value : String → Value) (name : String), scene.book.FromThousand →
        (∀ style options, (scene.binding value name t).number name style options =
          (scene.binding value name (.number (.integer n))).number name style options) ∧
        (∀ code, (scene.binding value name t).extension ⟨name, .currency code⟩ =
          (scene.binding value name (.number (.integer n))).extension ⟨name, .currency code⟩) ∧
        ∀ display, (scene.binding value name t).extension ⟨name, .compact display⟩ =
          (scene.binding value name (.number (.integer n))).extension ⟨name, .compact display⟩ := by
  have hread (n : ℤ) (t : Value) (ht : t.TextOf n) :
      t.readNumber? = some (.binary (.ofInt n)) := by
    obtain ⟨w, w', hw, hw', rfl⟩ := ht
    exact readNumber?_integer n hw hw'
  refine ⟨hread, fun n ↦ ?_, fun x ↦ readNumber?_plainText, fun n ↦ Number.exact_of_le,
    fun n t hn ht scene value name hbook ↦ ⟨number_exact hbook hn (hread n t ht),
      currency_exact hn (hread n t ht), compact_exact hbook hn (hread n t ht)⟩⟩
  rw [Number.equalsBinary, decide_eq_true_eq]
  constructor
  · exact fun h ↦ ⟨_, h⟩
  · rintro ⟨x, h⟩
    exact Binary64.toInt?_ofInt_self h

section English

open Format

/-- A number in the plain style of English. -/
def plainEnglish (m : Number) : Except FormatFault String := do
  let rounded ← arith ((← decimalOf (.number m)).roundPlaces 3)
  let p ← need .invalidPattern (NumberPattern.ofText? "#,##0.###".toList)
  arith (p.apply ⟨".", ",", "-", "+", "E", "∞"⟩ none false rounded)

/-- A scene in English that gives the variable `n` a value. -/
def english (v : Value) : Scene :=
  binding { values := .nameless, locale := "en", clock := default, book := .tables }
    (fun _ ↦ .absent) "n" v

theorem number_english {v : Value} {m : Number} (h : v.readNumber? = some m) :
    (english v).number "n" none none = [written (.number m) (plainEnglish m)] := by
  have hlocale : Locale.ofTag? "en" = some ⟨"en"⟩ := Locale.ofTag?_of_language (by decide)
  have hsymbols : (LocaleBook.tables.data ⟨"en"⟩).numbers.symbols =
      ⟨".", ",", "-", "+", "E", "∞"⟩ := by decide +kernel
  have hpattern : (LocaleBook.tables.data ⟨"en"⟩).numbers.decimal = "#,##0.###" := by
    decide +kernel
  have hnumber : Format.number (.number m) "en" none none .tables = plainEnglish m := by
    rw [Format.number, dataOf_of_ofTag? hlocale]
    simp only [bind, Except.bind, numberIn, Option.getD_none, true_or, if_true, applyPattern,
      hsymbols, hpattern, plainEnglish]
  rw [Scene.number, english, withValue_binding_self, h, orHole, ← hnumber]
  rfl

end English

/-- For `" 1234\n"`, in English. -/
theorem numeric_text_read_padded :
    Number.Exact 1234 ∧ TextOf (.text " 1234\n") 1234 ∧ (Binary64.ofInt 3).isNaN = false ∧
      LocaleBook.tables.FromThousand ∧
      (∃ y, readNumber? (.text (plainText (.number (.binary (.ofInt 3))))) = some (.binary y) ∧
        (Number.binary y).equalsBinary (.ofInt 3) = true) ∧
      (english (.text " 1234\n")).number "n" none none = [.text .output "1,234"] := by
  obtain ⟨-, -, hplain, hexact, hwritten⟩ := numeric_text_read
  have hexact := hexact 1234 (by decide)
  have htext : TextOf (.text " 1234\n") 1234 := ⟨[' '], ['\n'], by decide, by decide, rfl⟩
  have hdefined : (Binary64.ofInt 3).isNaN = false := by decide +kernel
  have hbook := LocaleBook.fromThousand_tables
  refine ⟨hexact, htext, hdefined, hbook, hplain _ hdefined, ?_⟩
  rw [english, (hwritten 1234 _ hexact htext _ _ "n" hbook).1, ← english,
    number_english (m := .integer 1234) rfl]
  decide +kernel

/-- The text of `2 ^ 53 + 1` is read as its neighbour. `2 ^ 60` is a double, but the text of this
double ends in zeros that `2 ^ 60` does not have. And `10 ^ 27` is what the text of its double
spells, yet it is no double: it has too many digits for the pattern of English, and the plain texts
that stand in for it differ. -/
theorem numeric_text_rounded :
    (readNumber? (.text "9007199254740993") = some (.binary (.ofInt 9007199254740992)) ∧
      (Number.integer 9007199254740993).equalsBinary (.ofInt 9007199254740992) = false ∧
      (english (.text "9007199254740993")).number "n" none none =
        [.text .output "9,007,199,254,740,992"] ∧
      (english (.number (.integer 9007199254740993))).number "n" none none =
        [.text .output "9,007,199,254,740,993"]) ∧
    ((Number.integer (2 ^ 60)).equalsBinary (.ofInt (2 ^ 60)) = true ∧
      (english (.text "1152921504606846976")).number "n" none none =
        [.text .output "1,152,921,504,606,847,000"] ∧
      (english (.number (.integer (2 ^ 60)))).number "n" none none =
        [.text .output "1,152,921,504,606,846,976"]) ∧
    (Decimal.ofBinary64 (.ofInt (10 ^ 27))).compare? (.ofInt (10 ^ 27)) = some .eq ∧
      (english (.text "1000000000000000000000000000")).number "n" none none =
        [.text .value "1000000000000000013287555072"] ∧
      (english (.number (.integer (10 ^ 27)))).number "n" none none =
        [.text .value "1000000000000000000000000000"] := by
  have hnumber {v : Value} {m : Number} {shown : Segment} (h : v.readNumber? = some m)
      (hshown : written (.number m) (plainEnglish m) = shown) :
      (english v).number "n" none none = [shown] := by
    rw [number_english h, hshown]
  refine ⟨⟨?_, ?_, ?_, ?_⟩, ⟨?_, ?_, ?_⟩, ?_, ?_, ?_⟩
  · decide +kernel
  · decide +kernel
  · exact hnumber (m := .binary (.ofInt 9007199254740992)) (by decide +kernel) (by decide +kernel)
  · exact hnumber (m := .integer 9007199254740993) rfl (by decide +kernel)
  · decide +kernel
  · exact hnumber (m := .binary (.ofInt (2 ^ 60))) (by decide +kernel) (by decide +kernel)
  · exact hnumber (m := .integer (2 ^ 60)) rfl (by decide +kernel)
  · decide +kernel
  · exact hnumber (m := .binary (.ofInt (10 ^ 27))) (by decide +kernel) (by decide +kernel)
  · exact hnumber (m := .integer (10 ^ 27)) rfl (by decide +kernel)

end Scene

end Phrasebook
