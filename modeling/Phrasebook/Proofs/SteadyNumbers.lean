import Phrasebook.Proofs.NumberFaults

/-!
Zero, and numbers that are the same when it is taken from them.

A plural argument without an offset lowers its number by zero. For whole numbers and doubles nothing
changes: a double is its own rounding, whatever the fraction is extended by
(`Binary64.ofQuotient_scaled`, `Binary64.sub_zero`). A decimal number is written with an exponent of
at most zero after that and fitted to the working precision, so it stays as it is if it had such an
exponent and no more digits than are kept (`Decimal.subInt_zero`).
-/

set_option autoImplicit false

namespace Phrasebook

open Arithmetic

/-! ### Doubles -/

namespace Binary64

variable {m : Nat} {e : Int}

theorem log2_mul_two_pow (hm : m ≠ 0) (k : Nat) : (m * 2 ^ k).log2 = m.log2 + k := by
  have hpos : 0 < 2 ^ k := by positivity
  rw [Nat.log2_eq_iff (Nat.mul_ne_zero hm (Nat.ne_of_gt hpos))]
  constructor
  · rw [pow_add]
    exact Nat.mul_le_mul_right _ (Nat.log2_self_le hm)
  · rw [Nat.add_right_comm, pow_add]
    exact Nat.mul_lt_mul_of_pos_right Nat.lt_log2_self hpos

/-- The exponent of a double is the one at which it is rounded, if its fraction is extended by a
power of two. -/
theorem exponentOf_scaled (h : Canonical m e) (hm : m ≠ 0) (k : Nat) :
    exponentOf ((scaled m e).1 * 2 ^ k) ((scaled m e).2 * 2 ^ k) = e := by
  obtain ⟨hlt, hleast, -, hnormal⟩ := h
  have hnum : ((scaled m e).1 * 2 ^ k).log2 = m.log2 + e.toNat + k := by
    rw [scaled, Nat.mul_assoc, ← pow_add, log2_mul_two_pow hm, Nat.add_assoc]
  have hden : ((scaled m e).2 * 2 ^ k).log2 = (-e).toNat + k := by
    rw [scaled, ← pow_add, Nat.log2_two_pow]
  have hguess : (((scaled m e).1 * 2 ^ k).log2 : Int) - ((scaled m e).2 * 2 ^ k).log2 - 52 =
      m.log2 + e - 52 := by
    rw [hnum, hden]
    push_cast
    omega
  unfold exponentOf
  rw [hguess]
  dsimp only
  by_cases hbig : 2 ^ 52 ≤ m
  · have hlog : m.log2 = 52 := (Nat.log2_eq_iff hm).2 ⟨hbig, hlt⟩
    have hexact : (m.log2 : Int) + e - 52 = e := by omega
    have hnot : ¬ (scaled ((scaled m e).1 * 2 ^ k) (-e)).1 <
        2 ^ 52 * ((scaled ((scaled m e).1 * 2 ^ k) (-e)).2 * ((scaled m e).2 * 2 ^ k)) := by
      simp only [scaled, Int.neg_neg]
      rw [Nat.not_lt]
      calc 2 ^ 52 * (2 ^ e.toNat * (2 ^ (-e).toNat * 2 ^ k))
          ≤ m * (2 ^ e.toNat * (2 ^ (-e).toNat * 2 ^ k)) := Nat.mul_le_mul_right _ hbig
        _ = m * 2 ^ e.toNat * 2 ^ k * 2 ^ (-e).toNat := by ring
    rw [hexact, if_neg hnot]
    omega
  · have hlog : m.log2 < 52 := (Nat.log2_lt hm).2 (by omega)
    have he := hnormal.resolve_left hbig
    split <;> omega

/-- A double is its own rounding. -/
theorem ofQuotient_scaled (h : Canonical m e) (hm : m ≠ 0) (s : Bool) (k : Nat) :
    ofQuotient s ((scaled m e).1 * 2 ^ k) ((scaled m e).2 * 2 ^ k) = .finite s m e h := by
  have hne : (scaled m e).1 * 2 ^ k ≠ 0 :=
    Nat.mul_ne_zero (Nat.mul_ne_zero hm (by positivity)) (by positivity)
  have hquotient : (scaled ((scaled m e).1 * 2 ^ k) (-e)).1 =
      m * ((scaled ((scaled m e).1 * 2 ^ k) (-e)).2 * ((scaled m e).2 * 2 ^ k)) := by
    simp only [scaled, Int.neg_neg]
    ring
  have hpos : 0 < (scaled ((scaled m e).1 * 2 ^ k) (-e)).2 * ((scaled m e).2 * 2 ^ k) := by
    simp only [scaled]
    positivity
  have hlt : m ≠ 2 ^ 53 := Nat.ne_of_lt h.1
  unfold ofQuotient
  rw [if_neg hne, exponentOf_scaled h hm]
  dsimp only
  rw [hquotient, roundQuotient_of_dvd _ hpos (Nat.dvd_mul_left _ _), Nat.mul_div_cancel _ hpos,
    if_neg hlt, ofParts, dif_pos h]

/-- A double less zero is the double. -/
theorem sub_zero (x : Binary64) : x.sub (zero false) = x := by
  cases x with
  | nan => rfl
  | infinite s => rfl
  | finite s m e h =>
    have hzero : (zero false).neg.quotient? = some (0, (scaled 0 (-1074)).2) := rfl
    obtain ⟨k, hden⟩ : ∃ k, (scaled 0 (-1074)).2 = 2 ^ k := ⟨_, rfl⟩
    have hsub : (finite s m e h).sub (zero false) = ofFraction (s && true)
        ((if s then -((scaled m e).1 : Int) else (scaled m e).1) * (scaled 0 (-1074)).2 +
          0 * (scaled m e).2) ((scaled m e).2 * (scaled 0 (-1074)).2) := by
      unfold sub add
      simp only [hzero]
      rfl
    rw [hsub, hden, ofFraction, Int.zero_mul, Int.add_zero]
    by_cases hm : m = 0
    · obtain rfl : e = -1074 := h.2.2.2.resolve_left (by omega)
      subst hm
      have hnum : (scaled 0 (-1074)).1 = 0 := Nat.zero_mul _
      rw [hnum]
      simp [ofQuotient, zero]
    · have hround := ofQuotient_scaled h hm s k
      have hpos : 0 < (scaled m e).1 := Nat.mul_pos (Nat.pos_of_ne_zero hm) (by positivity)
      have hpow : 0 < 2 ^ k := by positivity
      generalize (scaled m e).1 = num at *
      generalize (scaled m e).2 = den at *
      generalize 2 ^ k = p at *
      have hprod : (0 : Int) < (num : Int) * p := by positivity
      rw [← hround]
      cases s with
      | false =>
        have hsign : ¬ (num : Int) * p < 0 := by omega
        simp [hprod.ne', hsign, Int.natAbs_mul]
      | true => simp [hprod, hprod.ne', Int.natAbs_mul]

/-- A double is zero if its significand is. -/
theorem toInt?_eq_zero_iff {s : Bool} {h : Canonical m e} :
    (finite s m e h).toInt? = some 0 ↔ m = 0 := by
  obtain ⟨n, hn, hquotient⟩ : ∃ n : Int, (n = 0 ↔ m = 0) ∧
      (finite s m e h).quotient? = some (n, (scaled m e).2) := by
    refine ⟨_, ?_, rfl⟩
    cases s <;> simp
  rw [toInt?, hquotient, ← hn]
  dsimp only
  by_cases hdvd : n % ((scaled m e).2 : Int) = 0
  · rw [if_pos hdvd, Option.some.injEq]
    refine ⟨fun hzero ↦ ?_, fun hzero ↦ by rw [hzero, Int.zero_ediv]⟩
    rw [← Int.ediv_mul_cancel_of_emod_eq_zero hdvd, hzero, Int.zero_mul]
  · rw [if_neg hdvd]
    refine iff_of_false (by simp) fun hzero ↦ hdvd ?_
    rw [hzero, Int.zero_emod]

end Binary64

/-! ### Decimal numbers -/

namespace Decimal

/-- A number that is written with all its digits, down to a place after the point or to the last one
before it, and not with more of them than are kept. -/
def Plain : Decimal → Prop
  | .finite _ c e => decimalLength c ≤ defaultPrecision ∧
      minExponent - defaultPrecision + 1 ≤ e ∧ e ≤ 0
  | .infinite _ => True
  | .nan .. => False

variable {c : Nat} {e : Int}

/-- A plain number fits the working precision. -/
theorem fit_of_plain {t : Bool} (h : (finite t c e).Plain) (s : Bool) :
    fit defaultPrecision s c e = .ok (.finite s c e) := by
  obtain ⟨hlen, hleast, he⟩ := h
  have hmax : ¬ maxExponent < e + decimalLength c - 1 := by
    have : (decimalLength c : Int) ≤ (defaultPrecision : Nat) := by exact_mod_cast hlen
    simp only [maxExponent, defaultPrecision] at *
    omega
  have hexcess : min (max (decimalLength c - defaultPrecision)
      (minExponent - (defaultPrecision : Nat) + 1 - e).toNat) (decimalLength c + 1) = 0 := by
    omega
  have hdrop : dropDigits .toEven c 0 = c := by
    rw [dropDigits, pow_zero, roundQuotient_of_dvd _ Nat.one_pos (Nat.one_dvd c), Nat.div_one]
  unfold fit
  by_cases hc : c = 0
  · have hkept : max (minExponent - (defaultPrecision : Nat) + 1) (min e maxExponent) = e := by
      simp only [maxExponent] at *
      omega
    rw [if_pos hc, hkept, hc]
  · rw [if_neg hc]
    dsimp only
    rw [hexcess, hdrop, if_neg (Nat.not_lt.2 hlen)]
    dsimp only
    rw [if_neg hc, Nat.cast_zero, Int.add_zero, if_neg hmax]

/-- Next to a number without places before its last digit a zero has no digits to bring. -/
theorem align_zero {p : Nat} (he : e ≤ 0) :
    (if 0 ≤ e then align p c e 0 0
      else
        let (b, a, base) := align p 0 0 c e
        (a, b, base)) = (c, 0, e) := by
  by_cases h : 0 ≤ e
  · obtain rfl : e = 0 := Int.le_antisymm he h
    have hlen : decimalLength 0 = 1 := by rw [decimalLength]; rfl
    have hnot : ¬ (c ≠ 0 ∧ (0 : Int) + decimalLength 0 - 1 <
        0 + min (-1) ((decimalLength c : Int) - p - 2)) := by
      rw [hlen]
      omega
    rw [if_pos h, align]
    dsimp only
    rw [if_neg hnot]
    simp
  · have hmin : min 0 e = e := by omega
    rw [if_neg h, align]
    simp [hmin]

/-- A plain number less zero is the number. -/
theorem subInt_zero {d : Decimal} (h : d.Plain) : d.subInt 0 = .ok d := by
  cases d with
  | nan => exact h.elim
  | infinite s => rfl
  | finite s c e =>
    have hsub : (finite s c e).subInt 0 =
        let (a, b, base) := if 0 ≤ e then align defaultPrecision c e 0 0
          else
            let (b, a, base) := align defaultPrecision 0 0 c e
            (a, b, base)
        let sum : Int := (if s then -(a : Int) else a) + (if true then -(b : Int) else b)
        fit defaultPrecision (if sum = 0 then s && true else decide (sum < 0)) sum.natAbs base :=
      rfl
    rw [hsub, align_zero h.2.2]
    dsimp only
    cases s with
    | false =>
      have hsign : ¬ (c : Int) < 0 := by omega
      simp [hsign, fit_of_plain h]
    | true =>
      by_cases hc : c = 0
      · subst hc
        simp [fit_of_plain h]
      · have hsign : -(c : Int) < 0 := by omega
        simp [hc, Nat.pos_of_ne_zero hc, fit_of_plain h]

theorem Plain.isNaN {d : Decimal} (h : d.Plain) : d.isNaN = false := by
  cases d with
  | nan => exact h.elim
  | infinite s => rfl
  | finite s c e => rfl

/-- The digits before the point of a plain number are not more than are kept. -/
theorem Plain.within {d : Decimal} (h : d.Plain) : d.Within defaultPrecision := by
  cases d with
  | nan => trivial
  | infinite s => trivial
  | finite s c e =>
    obtain ⟨hlen, -, he⟩ := h
    refine .inr ?_
    have : (decimalLength c : Int) ≤ (defaultPrecision : Nat) := by exact_mod_cast hlen
    omega

/-- Only zero is as great as zero. -/
theorem compare?_zero {s t : Bool} {e' : Int} :
    compare? (.finite s 0 e) (.finite t c e') = some .eq ↔ c = 0 := by
  unfold compare?
  by_cases hc : c = 0
  · simp [hc]
  · cases t <;> simp [hc]

end Decimal

/-! ### The numbers of a message -/

/-- A number that is the same when zero is taken from it, and that has a category in every locale:
a whole number within the range of doubles, a double, or a plain decimal number. -/
def Number.Steady : Number → Prop
  | .integer n => n.natAbs < Binary64.bound
  | .binary x => x.isNaN = false
  | .decimal d => d.Plain

namespace Number

variable {n : Number}

theorem Steady.lower_zero (h : n.Steady) : n.lower 0 = .ok n := by
  cases n with
  | integer i => simp [lower]
  | binary x =>
    have hzero : ofIntExact 0 = .ok (Binary64.zero false) := rfl
    rw [lower, hzero]
    exact congrArg (fun y ↦ Except.ok (binary y)) x.sub_zero
  | decimal d => simp [lower, Decimal.subInt_zero h]

theorem Steady.isNaN (h : n.Steady) : n.isNaN = false := by
  cases n with
  | integer i => rfl
  | binary x => exact h
  | decimal d => exact Decimal.Plain.isNaN h

/-- A whole number within the range of doubles can be written. -/
theorem isOverlong_of_lt_bound {i : Int} (h : i.natAbs < Binary64.bound) :
    (integer i).isOverlong = false := by
  have hpow (k : Nat) : 2 ^ k ≤ 10 ^ k := Nat.pow_le_pow_left (by decide) k
  have hlimit (a b : Nat) (hab : a + b ≤ Text.LongNumeral.limit) :
      10 ^ a * 10 ^ b ≤ 10 ^ Text.LongNumeral.limit := by
    rw [← pow_add]
    exact Nat.pow_le_pow_right (by decide) hab
  have hlt : i.natAbs < 10 ^ Text.LongNumeral.limit :=
    Nat.lt_of_lt_of_le (Nat.lt_of_lt_of_le h Binary64.bound_le)
      ((Nat.mul_le_mul (hpow 54) (hpow 970)).trans (hlimit 54 970 (by decide)))
  rw [Number.isOverlong, decide_eq_false_iff_not, Nat.not_le]
  exact hlt

end Number

namespace Plural

section Book

variable {book : LocaleBook}

/-- A plain decimal number has a category. -/
theorem exists_ofNumber_plain {d : Decimal} (h : d.Plain) (tag : String) (kind : PluralKind) :
    ∃ p, ofNumber (.decimal d) tag kind book = .ok p := by
  have hwithin := h.within
  refine exists_ofNumber (toBinary64_decimal h.isNaN) tag kind (fun _ rules ↦ ?_)
    fun _ ↦ exists_isUnit h.isNaN (hwithin.mono (by decide))
  cases d with
  | nan => exact h.elim
  | infinite s => exact exists_ofFinite (o := .ofNat 0) rfl (.inl rfl) rules
  | finite s c e =>
    refine exists_ofFinite (o := .ofDecimal c e) ?_ (small_ofDecimal hwithin) rules
    rw [Operands.ofNumber, Decimal.abs, Decimal.fit_of_plain h]

/-- A number that has a category can be written. -/
theorem isOverlong_of_ofNumber {n : Number} {tag : String} {kind : PluralKind} {p : Plural}
    (h : ofNumber n tag kind book = .ok p) : n.isOverlong = false := by
  cases n with
  | integer i =>
    rcases ofNumber_integer i tag kind book with ⟨-, hlarge⟩ | ⟨hsmall, -⟩
    · rw [hlarge] at h
      cases h
    · exact Number.isOverlong_of_lt_bound hsmall
  | binary x => rfl
  | decimal d => rfl

theorem exists_ofNumber_steady {n : Number} (h : n.Steady) (tag : String) (kind : PluralKind) :
    ∃ p, ofNumber n tag kind book = .ok p := by
  cases n with
  | integer i =>
    rcases ofNumber_integer i tag kind book with ⟨hlarge, -⟩ | ⟨-, hp⟩
    · exact absurd h (Nat.not_lt.2 hlarge)
    · exact hp
  | binary x => exact exists_ofNumber_binary x tag kind book
  | decimal d => exact exists_ofNumber_plain h tag kind

end Book

/-- In English a whole number counts as one or as other. -/
theorem ofNumber_english {i : Int} {x : Binary64} (hx : (Number.integer i).toBinary64 = .ok x)
    (hfinite : x.isFinite = true) :
    ofNumber (.integer i) "en" .cardinal .tables = .ok (if i.natAbs = 1 then .one else .other) := by
  have hlocale : Locale.ofTag? "en" = some ⟨"en"⟩ := by decide +kernel
  have hrules : (LocaleBook.tables.data ⟨"en"⟩).plurals .cardinal =
      [(.one, [[⟨.i, none, false, [(1, 1)]⟩, ⟨.v, none, false, [(0, 0)]⟩]])] := by
    decide +kernel
  rw [ofNumber_of_toBinary64 hx, if_pos hfinite, hlocale]
  dsimp only
  rw [ofFinite, hrules]
  by_cases hone : i.natAbs = 1
  · rw [if_pos hone, Operands.ofNumber, hone]
    rfl
  · have hne : inRanges i.natAbs 0 [(1, 1)] = false := by
      simp [inRanges]
      omega
    rw [if_neg hone, Operands.ofNumber]
    simp [Rules.select, anyHolds, allHold, Relation.holds, Operands.ofNat, hne, bind, Except.bind,
      Except.map, Except.mapError, pure, Except.pure]

end Plural

end Phrasebook
