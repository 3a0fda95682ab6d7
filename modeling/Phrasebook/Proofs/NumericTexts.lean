import Phrasebook.Proofs.ExactSelectors
import Phrasebook.Proofs.Numerals
import Phrasebook.Proofs.PlainTexts
import Phrasebook.Proofs.ShortestDecimals

/-!
Texts that are read as numbers.

The text of a whole number is read as the double nearest to it (`Value.readNumber?_integer`), and
the plain text of a double as a double that is equal to it (`Value.readNumber?_plainText`): a text
without an exponent has the digits of the shortest decimal number around a point, one with an
exponent has the point behind the first of them, and each stands for this number
(`Binary64.numeralOf_digitsText`).
-/

set_option autoImplicit false

namespace Phrasebook

open Arithmetic Text Grammar

/-! ### Numerals with an exponent -/

section Numerals

variable {ws ps t : List Char} {k : ℤ}

theorem DigitRow.values_ne_nil (hne : ws ≠ []) (hws : DigitRow ws) :
    ws.filterMap digitValue? ≠ [] := by
  intro h
  have hlength := hws.length_values
  rw [h] at hlength
  exact hne (List.length_eq_zero_iff.1 hlength.symm)

theorem digitsValue_padZeros (width n : ℕ) : digitsValue (padZeros width (digits n)) = n := by
  rw [padZeros, digitsValue_append _ isDigit_of_mem_digits, digitsValue_zeros, Nat.zero_mul,
    Nat.zero_add, digitsValue_digits]

/-- The exponent is read from its sign and its digits. -/
theorem readPower?_exponentText (k : ℤ) : readPower? (Binary64.exponentText k) = some k := by
  have hrow : DigitRow (padZeros 2 (digits k.natAbs)) :=
    (digitRow_zeros _).append isDigit_of_mem_digits
  have hne : padZeros 2 (digits k.natAbs) ≠ [] :=
    List.append_ne_nil_of_right_ne_nil _ Nat.toDigits_ne_nil
  have htake : takeDigits (padZeros 2 (digits k.natAbs)) =
      ((padZeros 2 (digits k.natAbs)).filterMap digitValue?, []) := by
    simpa using takeDigits_eq (t := []) hrow.isDigit (by simp)
  obtain ⟨v, vs, hvalues⟩ := List.exists_cons_of_ne_nil (hrow.values_ne_nil hne)
  have hvalue : ofDigits (v :: vs) = k.natAbs := by
    rw [← hvalues]
    exact digitsValue_padZeros 2 k.natAbs
  have hread (negative : Bool) (hsign : negative = decide (k < 0)) :
      readPower? ('e' :: (if negative then '-' else '+') :: padZeros 2 (digits k.natAbs)) =
        some (if negative then -(k.natAbs : ℤ) else k.natAbs) := by
    cases negative <;> simp [readPower?, takeSign, htake, hvalues, hvalue]
  have hsigned := hread _ rfl
  rw [Binary64.ite_natAbs] at hsigned
  simpa [Binary64.exponentText] using hsigned

/-- A numeral without a point is its digits and its exponent. -/
theorem readNumeral?_power (hne : ws ≠ []) (hws : DigitRow ws) (k : ℤ) :
    readNumeral? (ws ++ Binary64.exponentText k) = some (digitsValue ws, k) := by
  have htake : takeDigits (ws ++ Binary64.exponentText k) =
      (ws.filterMap digitValue?, Binary64.exponentText k) :=
    takeDigits_eq hws.isDigit (by
      intro c hc
      rw [← Option.some.inj hc]
      rfl)
  have hpower := readPower?_exponentText k
  unfold Binary64.exponentText at htake hpower ⊢
  simp [readNumeral?, htake, hws.values_ne_nil hne, hpower, digitsValue]

/-- A numeral with a point is its digits and its exponent, less the digits after the point. -/
theorem readNumeral?_point_power (hne : ws ≠ []) (hws : DigitRow ws) (hps : DigitRow ps) (k : ℤ) :
    readNumeral? (ws ++ '.' :: ps ++ Binary64.exponentText k) =
      some (digitsValue (ws ++ ps), k - ps.length) := by
  have htake : takeDigits (ws ++ '.' :: (ps ++ Binary64.exponentText k)) =
      (ws.filterMap digitValue?, '.' :: (ps ++ Binary64.exponentText k)) :=
    takeDigits_eq hws.isDigit (by
      intro c hc
      rw [← Option.some.inj hc]
      rfl)
  have htake' : takeDigits (ps ++ Binary64.exponentText k) =
      (ps.filterMap digitValue?, Binary64.exponentText k) :=
    takeDigits_eq hps.isDigit (by
      intro c hc
      rw [← Option.some.inj hc]
      rfl)
  rw [List.append_assoc, List.cons_append]
  simp [readNumeral?, htake, htake', hws.values_ne_nil hne, readPower?_exponentText, digitsValue,
    hps.length_values]

end Numerals

namespace Binary64

/-! ### The digits of a double -/

section DigitsText

variable {x : ℚ} {t : List Char}

/-- A numeral that stands for the number and has a point, an exponent or both. -/
inductive NumeralOf (x : ℚ) : List Char → Prop
  | point {ws ps : List Char} (hne : ws ≠ []) (hws : DigitRow ws) (hps : DigitRow ps)
    (h : numeralValue ws ps = x) : NumeralOf x (ws ++ '.' :: ps)
  | power {ws : List Char} {k : ℤ} (hne : ws ≠ []) (hws : DigitRow ws)
    (h : digitsValue ws * (10 : ℚ) ^ k = x) : NumeralOf x (ws ++ exponentText k)
  | pointPower {ws ps : List Char} {k : ℤ} (hne : ws ≠ []) (hws : DigitRow ws) (hps : DigitRow ps)
    (h : digitsValue (ws ++ ps) * (10 : ℚ) ^ (k - ps.length) = x) :
    NumeralOf x (ws ++ '.' :: ps ++ exponentText k)

/-- The digits of a number stand for it, wherever the point is put. -/
theorem numeralOf_digitsText (c : ℕ) (g : ℤ) : NumeralOf (c * 10 ^ g) (digitsText c g) := by
  have hrow : DigitRow (digits c) := isDigit_of_mem_digits
  have hvalue := digitsValue_digits c
  obtain ⟨d, rest, hds⟩ : ∃ d rest, digits c = d :: rest :=
    List.exists_cons_of_ne_nil Nat.toDigits_ne_nil
  unfold digitsText
  dsimp only
  rw [hds] at hrow hvalue ⊢
  have hlen : (d :: rest).length = rest.length + 1 := List.length_cons
  obtain ⟨k, hk⟩ : ∃ k, k = g + (d :: rest).length - 1 := ⟨_, rfl⟩
  rw [← hk]
  split
  · split
    · -- zeros up to the point and one behind it
      rename_i hg
      obtain ⟨n, rfl⟩ := Int.eq_ofNat_of_zero_le hg
      refine .point (List.cons_ne_nil _ _) (hrow.append (digitRow_zeros n)) (digitRow_zeros 1) ?_
      have hwhole := numeralValue_append_zeros (d :: rest ++ List.replicate n '0') [] 1
      refine hwhole.trans ?_
      rw [numeralValue, List.append_nil, digitsValue_append _ (digitRow_zeros n), hvalue,
        digitsValue_zeros]
      simp
    · split
      · -- the point among the digits
        rename_i hg hk0
        have hsplit := List.take_append_drop (k + 1).toNat (d :: rest)
        have hrows := DigitRow.of_append (hsplit.symm ▸ hrow)
        refine .point ?_ hrows.1 hrows.2 ?_
        · rw [show (k + 1).toNat = k.toNat + 1 by omega, List.take_succ_cons]
          exact List.cons_ne_nil _ _
        · rw [numeralValue, hsplit, hvalue, List.length_drop]
          congr 2
          omega
      · -- zeros behind the point
        rename_i hg hk0
        have hzeros : numeralValue ['0'] (List.replicate (-k - 1).toNat '0' ++ d :: rest) =
            c * 10 ^ g := by
          rw [numeralValue, ← List.append_assoc, digitsValue_append _ hrow, hvalue,
            ← List.replicate_one, ← List.replicate_add, digitsValue_zeros, List.length_append,
            List.length_replicate, Nat.zero_mul, Nat.zero_add]
          congr 2
          omega
        exact .point (List.cons_ne_nil '0' []) (digitRow_zeros 1)
          ((digitRow_zeros _).append hrow) hzeros
  · split
    · rename_i hnil
      cases hnil
    · -- one digit and an exponent
      rename_i d' hone
      obtain ⟨rfl, rfl⟩ := List.cons.inj hone
      obtain rfl : k = g := by simpa using hk
      exact .power (List.cons_ne_nil d []) hrow (by rw [hvalue])
    · -- the point behind the first digit, and an exponent
      rename_i d' rest' _ hmore
      obtain ⟨rfl, rfl⟩ := List.cons.inj hmore
      have hrows := DigitRow.of_append (a := [d]) hrow
      obtain rfl : k - rest.length = g := by omega
      exact .pointPower (List.cons_ne_nil d []) hrows.1 hrows.2
        (by rw [List.singleton_append, hvalue])

/-- A numeral is read as the number that it stands for. -/
theorem NumeralOf.exists_read (h : NumeralOf x t) :
    ∃ c g, readNumeral? t = some (c, g) ∧ (c : ℚ) * 10 ^ g = x := by
  cases h with
  | point hne hws hps hx =>
    obtain ⟨⟨c, g⟩, hread, hvalue⟩ := Option.map_eq_some_iff.1 (readNumeral?_point hne hws hps)
    exact ⟨c, g, hread, hvalue.trans hx⟩
  | power hne hws hx => exact ⟨_, _, readNumeral?_power hne hws _, hx⟩
  | pointPower hne hws hps hx => exact ⟨_, _, readNumeral?_point_power hne hws hps _, hx⟩

/-- The characters of a numeral. -/
def isNumeric (c : Char) : Bool :=
  c.isDigit || c ∈ ['.', 'e', '+', '-']

theorem isNumeric_of_digitRow {s : List Char} (h : DigitRow s) : ∀ a ∈ s, isNumeric a = true := by
  intro a ha
  rw [Binary64.isNumeric, h a ha, Bool.true_or]

theorem isNumeric_exponentText (k : ℤ) : ∀ a ∈ exponentText k, isNumeric a = true := by
  have hrow : DigitRow (padZeros 2 (digits k.natAbs)) :=
    (digitRow_zeros _).append isDigit_of_mem_digits
  refine List.forall_mem_cons.2 ⟨rfl, List.forall_mem_cons.2 ⟨?_, isNumeric_of_digitRow hrow⟩⟩
  split <;> rfl

/-- A numeral begins with a digit. -/
theorem NumeralOf.exists_cons (h : NumeralOf x t) :
    ∃ d s, t = d :: s ∧ d.isDigit = true ∧ ∀ a ∈ s, isNumeric a = true := by
  have hfirst {ws rest : List Char} (hne : ws ≠ []) (hws : DigitRow ws)
      (hrest : ∀ a ∈ rest, isNumeric a = true) :
      ∃ d s, ws ++ rest = d :: s ∧ d.isDigit = true ∧ ∀ a ∈ s, isNumeric a = true := by
    obtain ⟨d, s, rfl⟩ := List.exists_cons_of_ne_nil hne
    obtain ⟨hd, hs⟩ := List.forall_mem_cons.1 hws
    exact ⟨d, s ++ rest, rfl, hd, List.forall_mem_append.2 ⟨isNumeric_of_digitRow hs, hrest⟩⟩
  cases h with
  | point hne hws hps =>
    exact hfirst hne hws (List.forall_mem_cons.2 ⟨rfl, isNumeric_of_digitRow hps⟩)
  | power hne hws => exact hfirst hne hws (isNumeric_exponentText _)
  | pointPower hne hws hps =>
    rw [List.append_assoc, List.cons_append]
    refine hfirst hne hws (List.forall_mem_cons.2 ⟨rfl, List.forall_mem_append.2 ⟨?_, ?_⟩⟩)
    · exact isNumeric_of_digitRow hps
    · exact isNumeric_exponentText _

end DigitsText

/-! ### Numerals as doubles -/

section Reading

variable {body : List Char} {n : ℤ} {x : Binary64}

theorem isBlank_of_isNumeric {c : Char} (h : isNumeric c = true) : isBlank c = false := by
  rw [isNumeric, Bool.or_eq_true, decide_eq_true_eq] at h
  rcases h with h | h
  · refine isBlank_eq_false_of_isDigit ?_
    rw [Text.isDigit, digitValue?_of_isDigit h]
    rfl
  · revert c
    decide

theorem isNumeric_signed {d : Char} {s : List Char} (hd : d.isDigit = true)
    (hs : ∀ a ∈ s, isNumeric a = true) (negative : Bool) :
    ∀ a ∈ minus negative ++ d :: s, isNumeric a = true := by
  rw [List.forall_mem_append, List.forall_mem_cons]
  refine ⟨?_, by rw [isNumeric, hd, Bool.true_or], hs⟩
  cases negative <;> decide

/-- A text that begins with a digit is none of the words for special numbers. -/
theorem lowerAscii_ne {d : Char} (hd : d.isDigit = true) (s : List Char) (word : String)
    (hword : ∀ c ∈ word.toList.head?, c.isDigit = false) : lowerAscii (d :: s) ≠ word := by
  rintro rfl
  have hrow : DigitRow [d] := List.forall_mem_singleton.2 hd
  have hlower : d.toLower = d := toLower_of_isDigit (hrow.isDigit d List.mem_cons_self)
  rw [lowerAscii, String.toList_ofList, List.map_cons, hlower] at hword
  exact Bool.false_ne_true ((hword d rfl).symm.trans hd)

/-- A numeral, perhaps after a minus sign, is read as the double of the decimal number that it
is. -/
theorem ofText?_numeral {d : Char} {s : List Char} (hd : d.isDigit = true)
    (hs : ∀ a ∈ s, isNumeric a = true) (negative : Bool) :
    ofText? (minus negative ++ d :: s) =
      (readNumeral? (d :: s)).map fun n ↦ (Decimal.finite negative n.1 n.2).toBinary64 := by
  obtain ⟨text, htext⟩ : ∃ text, text = minus negative ++ d :: s := ⟨_, rfl⟩
  have hnumeric : ∀ a ∈ text, isNumeric a = true := htext ▸ isNumeric_signed hd hs negative
  have hpadding : ∀ a ∈ text, isPadding a = false := fun a ha ↦ by
    rw [isPadding, isBlank_of_isNumeric (hnumeric a ha), Bool.false_and]
  have hdrop {t : List Char} (ht : ∀ a ∈ t, isPadding a = false) : t.dropWhile isPadding = t :=
    dropWhile_append_stop (w := []) (List.forall_mem_nil _)
      fun a ha ↦ ht a (List.mem_of_mem_head? ha)
  have htrim : ((text.dropWhile isPadding).reverse.dropWhile isPadding).reverse = text := by
    rw [hdrop hpadding, hdrop fun a ha ↦ hpadding a (List.mem_reverse.1 ha), List.reverse_reverse]
  have hjoin : joinDigits? none text = some text :=
    joinDigits?_eq_self (fun hmem ↦ absurd (hnumeric _ hmem) (by decide)) none (by simp)
  have hsign : takeSign text = (negative, d :: s) := by
    rw [htext]
    cases negative with
    | true => rfl
    | false =>
      have hminus : d ≠ '-' := by
        rintro rfl
        cases hd
      have hplus : d ≠ '+' := by
        rintro rfl
        cases hd
      simp [takeSign, minus, hminus, hplus]
  rw [← htext]
  unfold ofText?
  simp only [htrim, hjoin, hsign, lowerAscii_ne hd s "inf" (by decide),
    lowerAscii_ne hd s "infinity" (by decide), lowerAscii_ne hd s "nan" (by decide), or_self,
    if_false]

/-- A double is read back from the digits of its shortest decimal number. -/
theorem ofText?_digitsText {m : ℕ} {e : ℤ} (h : Canonical m e) (hm : m ≠ 0) (s : Bool) :
    ofText? (minus s ++ digitsText (shortest m e).1 (shortest m e).2) = some (finite s m e h) := by
  have hnumeral := numeralOf_digitsText (shortest m e).1 (shortest m e).2
  obtain ⟨d, t, hdigits, hd, ht⟩ := hnumeral.exists_cons
  obtain ⟨c, g, hread, hvalue⟩ := hnumeral.exists_read
  rw [hdigits] at hread ⊢
  rw [ofText?_numeral hd ht, hread, Option.map_some, toBinary64_shortest h hm s hvalue]

end Reading

/-! ### Whole numbers as doubles -/

section Wholes

variable {n : ℤ} {x : Binary64}

theorem ofQuotient_ne_infinite (s : Bool) (n d : ℕ) : ofQuotient s n d ≠ .infinite !s := by
  have hparts (m : ℕ) (e : ℤ) : ofParts s m e ≠ .infinite !s := by
    unfold ofParts
    split
    · exact Binary64.noConfusion
    · exact fun h ↦ Bool.not_ne_self s (Binary64.infinite.inj h).symm
  unfold ofQuotient
  split
  · exact Binary64.noConfusion
  · dsimp only
    split <;> exact hparts _ _

theorem isNaN_ofInt (n : ℤ) : (ofInt n).isNaN = false := by
  have hparts (s : Bool) (m : ℕ) (e : ℤ) : (ofParts s m e).isNaN = false := by
    unfold ofParts
    split <;> rfl
  unfold ofInt ofQuotient
  split
  · rfl
  · dsimp only
    split <;> exact hparts _ _ _

/-- The decimal number of a whole number is read as the double nearest to it. -/
theorem toBinary64_ofInt (n : ℤ) : (Decimal.ofInt n).toBinary64 = ofInt n := by
  unfold Decimal.ofInt Decimal.toBinary64
  dsimp only
  by_cases hn : n.natAbs = 0
  · rw [if_pos hn, ofInt, hn, ofQuotient, if_pos rfl]
  rw [if_neg hn]
  split
  · rename_i hlarge
    have hpow : 10 ^ 310 * 10 ≤ 10 ^ decimalLength n.natAbs := by
      rw [← pow_succ]
      exact pow_le_pow_right₀ (by decide) (by omega)
    have hbound : bound ≤ n.natAbs := by
      have hsize := pow_decimalLength_le hn
      have hten := bound_le_ten_pow
      generalize 10 ^ 310 = t at hpow hten
      omega
    obtain ⟨t, ht⟩ := (ofInt_eq_infinite_iff n).2 hbound
    have hsign := ofQuotient_ne_infinite (decide (n < 0)) n.natAbs 1
    rw [← ofInt, ht] at hsign
    rw [ht]
    revert hsign
    cases t <;> cases decide (n < 0) <;> simp
  · rw [if_neg (by omega), if_pos le_rfl, Int.toNat_zero, pow_zero, Nat.mul_one, ofInt]

/-- The sign and the size of a double that is a whole number. -/
theorem parts_of_toInt? {s : Bool} {m : ℕ} {e : ℤ} {h : Canonical m e}
    (hx : (finite s m e h).toInt? = some n) (hn : n ≠ 0) :
    decide (n < 0) = s ∧ m ≠ 0 ∧ (m : ℚ) * 2 ^ e = n.natAbs := by
  obtain ⟨-, hvalue⟩ := toInt?_eq_some_iff.1 hx
  have hpow : (0 : ℚ) < 2 ^ e := by positivity
  have hm : m ≠ 0 := by
    rintro rfl
    rw [toInt?_eq_zero_iff.2 rfl] at hx
    exact hn (Option.some.inj hx).symm
  have hpos : (0 : ℚ) < m * 2 ^ e := by positivity
  refine ⟨?_, hm, ?_⟩
  · have hlt : (n : ℚ) < 0 ↔ s = true := by
      rw [← hvalue, value]
      cases s
      · simpa using hpos.le
      · simpa using hpos
    rw [← Bool.decide_coe s, decide_eq_decide, ← hlt]
    exact_mod_cast Iff.rfl
  · rw [Nat.cast_natAbs, Int.cast_abs, ← hvalue, value, abs_mul, abs_of_pos hpow]
    cases s <;> simp

/-- A double that is a whole number other than zero is the double nearest to it. -/
theorem ofInt_of_toInt? (h : x.toInt? = some n) (hn : n ≠ 0) : ofInt n = x := by
  have hfinite := isFinite_of_toInt? h
  cases x with
  | nan | infinite => cases hfinite
  | finite s m e hcanonical =>
    obtain ⟨hsign, -, hsize⟩ := parts_of_toInt? h hn
    rw [ofInt, hsign]
    refine ofQuotient_eq_finite hcanonical s (Int.natAbs_ne_zero.2 hn) Nat.one_pos (g := e) ?_ ?_
    · rw [Nat.cast_one, div_one, ← hsize]
      exact hcanonical.spaced
    · rw [Nat.cast_one, div_one, ← hsize]
      exact_mod_cast Rounded.self (zpow_pos two_pos e) .toEven m

/-- The double nearest to a whole number is this number if any double is. -/
theorem toInt?_ofInt_self (h : x.toInt? = some n) : (ofInt n).toInt? = some n := by
  by_cases hn : n = 0
  · rw [hn]
    exact toInt?_ofInt (by decide)
  · rwa [ofInt_of_toInt? h hn]

end Wholes

end Binary64

/-! ### The texts of numbers -/

namespace Number

/-- A defined double is equal to itself. -/
theorem equalsBinary_self {x : Binary64} (hx : x.isNaN = false) :
    (binary x).equalsBinary x = true := by
  unfold equalsBinary
  rw [decide_eq_true_eq]
  cases x with
  | nan => cases hx
  | infinite s => cases s <;> rfl
  | finite s m e h =>
    obtain ⟨c, g, hexact⟩ := Decimal.ofBinary64Exact_finite (s := s) h
    rw [hexact, Decimal.compare?_eq_iff]

/-- The text of a whole number is its digits, after a minus sign if it is negative. -/
theorem toList_toString (n : ℤ) :
    (toString n).toList = minus (decide (n < 0)) ++ digits n.natAbs := by
  rw [Int.toString_eq_repr, Int.repr_eq_if]
  split
  · rename_i hn
    have habs : n.toNat = n.natAbs := by omega
    simp [minus, digits, Nat.repr, habs, Int.not_lt.2 hn]
  · rename_i hn
    have habs : (-n).toNat = n.natAbs := by omega
    simp [minus, digits, Nat.repr, habs, Int.not_le.1 hn]

end Number

namespace Value

variable {w t v : List Char}

/-- A text is read as a number whatever white space stands around it. -/
theorem readNumber?_pad {x : Binary64} (hw : ∀ c ∈ w, isBlank c = true)
    (hv : ∀ c ∈ v, isBlank c = true) (ht : ∀ c ∈ t, isBlank c = false)
    (hread : Binary64.ofText? t = some x) (hx : x.isNaN = false) :
    readNumber? (.text (String.ofList (w ++ t ++ v))) = some (.binary x) := by
  have hbare : Bare t :=
    ⟨fun c hc ↦ ht c (List.mem_of_mem_head? hc), fun c hc ↦ ht c (List.mem_of_mem_getLast? hc)⟩
  rw [readNumber?, String.toList_ofList, trim_pad hw hbare hv, hread]
  cases x with
  | nan => cases hx
  | infinite | finite => rfl

/-- The text of a whole number, with white space around it, is read as the double nearest to it. -/
theorem readNumber?_integer (n : ℤ) (hw : ∀ c ∈ w, isBlank c = true)
    (hv : ∀ c ∈ v, isBlank c = true) :
    readNumber? (.text (String.ofList (w ++ (toString n).toList ++ v))) =
      some (.binary (.ofInt n)) := by
  have hread : Binary64.ofText? (toString n).toList = some (.ofInt n) := by
    rw [Number.toList_toString, (digits_digits n.natAbs).ofText?, digitsValue_digits,
      ← Decimal.ofInt, Binary64.toBinary64_ofInt]
  refine readNumber?_pad hw hv ?_ hread (Binary64.isNaN_ofInt n)
  obtain ⟨d, t, hdigits⟩ := List.exists_cons_of_ne_nil (digits_digits n.natAbs).1
  have hrow : DigitRow (d :: t) := hdigits ▸ isDigit_of_mem_digits
  obtain ⟨hd, ht⟩ := List.forall_mem_cons.1 hrow
  rw [Number.toList_toString, hdigits]
  exact fun c hc ↦ Binary64.isBlank_of_isNumeric
    (Binary64.isNumeric_signed hd (Binary64.isNumeric_of_digitRow ht) _ c hc)

/-- The plain text of a double is read as a double that is equal to it. -/
theorem readNumber?_plainText {x : Binary64} (hx : x.isNaN = false) :
    ∃ y, readNumber? (.text (plainText (.number (.binary x)))) = some (.binary y) ∧
      (Number.binary y).equalsBinary x = true := by
  cases hwhole : x.toInt? with
  | some n =>
    have hself := Binary64.toInt?_ofInt_self hwhole
    have hread := readNumber?_integer n (List.forall_mem_nil _) (List.forall_mem_nil _)
    rw [List.nil_append, List.append_nil, String.ofList_toList] at hread
    refine ⟨.ofInt n, ?_, ?_⟩
    · rw [plainText, Number.plainText, hwhole]
      exact hread
    · rw [Number.equalsBinary_binary hself, Number.equalsBinary, hwhole, decide_eq_true rfl]
  | none =>
    refine ⟨x, ?_, Number.equalsBinary_self hx⟩
    rw [plainText, Number.plainText, hwhole]
    cases x with
    | nan => cases hx
    | infinite s => cases s <;> decide
    | finite s m e h =>
      have hm : m ≠ 0 := fun hm ↦ by
        rw [Binary64.toInt?_eq_zero_iff.2 hm] at hwhole
        cases hwhole
      obtain ⟨d, t, hdigits, hd, ht⟩ :=
        (Binary64.numeralOf_digitsText (Binary64.shortest m e).1
          (Binary64.shortest m e).2).exists_cons
      have hread := readNumber?_pad (w := []) (v := []) (List.forall_mem_nil _)
        (List.forall_mem_nil _) (fun c hc ↦ ?_) (Binary64.ofText?_digitsText h hm s) rfl
      · rw [List.nil_append, List.append_nil] at hread
        rw [← hread, Binary64.text]
        cases s <;> simp [hm, minus]
      · rw [hdigits] at hc
        exact Binary64.isBlank_of_isNumeric (Binary64.isNumeric_signed hd ht s c hc)

end Value

end Phrasebook
