import Phrasebook.Proofs.CompactUnits

/-!
Decimal numbers that differ only in how they are written.

Two decimal numbers are alike if they have one sign and one value (`Decimal.Alike`), as `1` and
`1.0` have. Decimal arithmetic does with both the same: fitting and dividing give numbers that are
alike (`Decimal.fit_agree`, `Decimal.divide_agree`), and quantizing and normal forms one number
(`Decimal.quantize_congr`, `Decimal.normalize_congr`). A pattern normalizes a number before it
writes it, and compact notation quantizes it before it looks for a unit, so numbers that are alike
are written alike (`Format.applyPattern_congr`, `Format.compactIn_congr`) where no unit is below a
thousand (`LocaleData.FromThousand`), as none of the tables is. Rounding to fraction
digits counts the places of a zero as its digits; a whole number is rounded alike all the same
(`Decimal.roundPlaces_agree`, `Format.number_congr`).
-/

set_option autoImplicit false

namespace Phrasebook

open Arithmetic

/-- Two computations fail alike, or have results that belong together. -/
inductive Agree {ε α β : Type} (R : α → β → Prop) : Except ε α → Except ε β → Prop
  | error (f : ε) : Agree R (.error f) (.error f)
  | ok {a : α} {b : β} (h : R a b) : Agree R (.ok a) (.ok b)

namespace Agree

variable {ε α β γ : Type} {R : α → β → Prop} {x : Except ε α} {y : Except ε β}

/-- What goes on alike after results that belong together comes to one result. -/
theorem bind_eq {f : α → Except ε γ} {g : β → Except ε γ} (h : Agree R x y)
    (hfg : ∀ a b, R a b → f a = g b) : x >>= f = y >>= g := by
  cases h with
  | error => rfl
  | ok hab => exact hfg _ _ hab

theorem cases (h : Agree R x y) :
    (∃ f, x = .error f ∧ y = .error f) ∨ ∃ a b, x = .ok a ∧ y = .ok b ∧ R a b := by
  cases h with
  | error f => exact .inl ⟨f, rfl, rfl⟩
  | ok hab => exact .inr ⟨_, _, rfl, rfl, hab⟩

theorem symm {S : β → α → Prop} (h : Agree R x y) (hRS : ∀ a b, R a b → S b a) : Agree S y x := by
  cases h with
  | error f => exact .error f
  | ok hab => exact .ok (hRS _ _ hab)

theorem arith {x : Except Decimal.Fault α} {y : Except Decimal.Fault β} (h : Agree R x y) :
    Agree R (Format.arith x) (Format.arith y) := by
  cases h with
  | error f => exact .error _
  | ok hab => exact .ok hab

end Agree

namespace Decimal

/-- Two finite numbers of one sign and one value. -/
inductive Alike (s : Bool) : Decimal → Decimal → Prop
  | finite {c c' : ℕ} {e e' : ℤ} (h : (finite s c e).value = (finite s c' e').value) :
    Alike s (.finite s c e) (.finite s c' e')

variable {d d' : Decimal} {s : Bool} {c c' p : ℕ} {e e' : ℤ}

theorem Alike.symm (h : Alike s d d') : Alike s d' d := by
  obtain ⟨h⟩ := h
  exact .finite h.symm

/-! ### Sizes -/

theorem size_eq (h : (finite s c e).value = (finite s c' e').value) :
    (c : ℚ) * 10 ^ e = c' * 10 ^ e' := by
  rw [← abs_value s, h, abs_value]

theorem coefficient_eq_zero_iff (h : (finite s c e).value = (finite s c' e').value) :
    c = 0 ↔ c' = 0 := by
  rw [← value_eq_zero_iff, h, value_eq_zero_iff]

/-- Numbers of one value begin at one place. -/
theorem lead_eq (h : (finite s c e).value = (finite s c' e').value) (hc : c ≠ 0) :
    e + decimalLength c = e' + decimalLength c' := by
  have hlead := leadsAt hc s e
  rw [h] at hlead
  have := hlead.unique (leadsAt ((coefficient_eq_zero_iff h).not.1 hc) s e')
  omega

/-! ### Fitting -/

/-- Fitting rounds to the precision, and fails just if this is beyond the range of exponents. -/
theorem fit_spec (hp : 0 < p) (s : Bool) (c : ℕ) (e : ℤ) :
    ∃ y, Fits p (finite s c e).value y ∧
      (10 ^ (maxExponent + 1) ≤ |y| ∧ fit p s c e = .error .overflow ∨
        |y| < 10 ^ (maxExponent + 1) ∧
          ∃ k g, fit p s c e = .ok (finite s k g) ∧ (finite s k g).value = y) := by
  by_cases hc : c = 0
  · subst hc
    exact ⟨0, .inl ⟨value_zero s e, rfl⟩, .inr ⟨by rw [abs_zero]; exact ten_zpow_pos _, 0, _, rfl,
      value_zero s _⟩⟩
  have hround : RoundedAt .toEven (fitPlace p) (finite s c e).value _ :=
    ⟨_, leadsAt hc s e, rounded_excess hp s c e⟩
  obtain ⟨k, g, hcarried, -, hvalue⟩ := exists_carried hp (dropDigits_excess_le hp c e) s
    (e + excessOf p c e)
  rw [← hvalue] at hround
  refine ⟨_, .inr hround, ?_⟩
  have hexcess : min (max (decimalLength c - p) (minExponent - p + 1 - e).toNat)
      (decimalLength c + 1) = excessOf p c e := rfl
  unfold fit
  rw [if_neg hc]
  dsimp only
  rw [hexcess, hcarried]
  dsimp only
  by_cases hk : k = 0
  · rw [if_pos hk, hk, value_zero, abs_zero]
    exact .inr ⟨ten_zpow_pos _, 0, _, rfl, value_zero s _⟩
  · obtain ⟨hlow, hhigh⟩ := leadsAt hk s g
    rw [if_neg hk]
    by_cases hlarge : maxExponent < g + decimalLength k - 1
    · exact .inl ⟨(ten_zpow_le hlarge).trans hlow, if_pos hlarge⟩
    · exact .inr ⟨hhigh.trans_le (ten_zpow_le (by omega)), k, g, if_neg hlarge, rfl⟩

theorem fit_agree (hp : 0 < p) (h : (finite s c e).value = (finite s c' e').value) :
    Agree (Alike s) (fit p s c e) (fit p s c' e') := by
  obtain ⟨y, hy, hfit⟩ := fit_spec hp s c e
  obtain ⟨y', hy', hfit'⟩ := fit_spec hp s c' e'
  rw [← h] at hy'
  obtain rfl := hy.unique hy'
  rcases hfit with ⟨hlarge, hfit⟩ | ⟨hsmall, k, g, hfit, hvalue⟩ <;>
    rcases hfit' with ⟨hlarge', hfit'⟩ | ⟨hsmall', k', g', hfit', hvalue'⟩
  · rw [hfit, hfit']
    exact .error _
  · exact absurd hsmall' hlarge.not_gt
  · exact absurd hsmall hlarge'.not_gt
  · rw [hfit, hfit']
    exact .ok (.finite (hvalue.trans hvalue'.symm))

theorem abs_agree (h : Alike s d d') : Agree (Alike false) d.abs d'.abs := by
  obtain ⟨h⟩ := h
  have hsize := size_eq h
  exact fit_agree (by decide) (value_congr hsize)

theorem shift_agree (h : Alike s d d') (k : ℕ) : Agree (Alike s) (d.shift k) (d'.shift k) := by
  obtain ⟨h⟩ := h
  rw [NumberPattern.shift_eq, NumberPattern.shift_eq]
  refine fit_agree (by decide) ?_
  rw [← value_mul_ten_zpow, h, value_mul_ten_zpow]

/-! ### Normal forms -/

theorem stripTens_mod {n limit : ℕ} (hn : n ≠ 0) (hlt : n < 10 ^ limit) :
    (stripTens n limit).1 % 10 ≠ 0 := by
  fun_induction stripTens n limit with
  | case1 n => omega
  | case2 n limit h r ih =>
    rw [pow_succ] at hlt
    exact ih (by omega) (by omega)
  | case3 n limit h => omega

/-- A number is written without zeros at its end in one way. -/
theorem unique_of_mod (hc : c % 10 ≠ 0) (hc' : c' % 10 ≠ 0)
    (h : (c : ℚ) * 10 ^ e = c' * 10 ^ e') : c = c' ∧ e = e' := by
  have hle {c c' : ℕ} {e e' : ℤ} (hc : c % 10 ≠ 0) (h : (c : ℚ) * 10 ^ e = c' * 10 ^ e') :
      e' ≤ e := by
    by_contra hlt
    rw [mul_zpow_eq_iff (le_refl e) (not_le.1 hlt).le, sub_self, Int.toNat_zero, pow_zero,
      Nat.mul_one] at h
    obtain ⟨n, hn⟩ := Nat.exists_eq_add_one_of_ne_zero (show (e' - e).toNat ≠ 0 by omega)
    rw [h, hn, pow_succ, ← Nat.mul_assoc, Nat.mul_mod_left] at hc
    exact hc rfl
  obtain rfl := le_antisymm (hle hc' h.symm) (hle hc h)
  exact ⟨by exact_mod_cast mul_right_cancel₀ (ten_zpow_pos e).ne' h, rfl⟩

/-- Numbers that are alike have one normal form. -/
theorem normalize_congr (h : Alike s d d') : d.normalize = d'.normalize := by
  obtain ⟨h⟩ := h
  have hagree := fit_agree (p := defaultPrecision) (by decide) h
  unfold normalize
  dsimp only
  generalize fit defaultPrecision s _ _ = x at hagree ⊢
  generalize fit defaultPrecision s _ _ = y at hagree ⊢
  rcases hagree with _ | ⟨@⟨c, c', e, e', hvalue⟩⟩
  · rfl
  dsimp only
  by_cases hc : c = 0
  · rw [if_pos hc, if_pos ((coefficient_eq_zero_iff hvalue).1 hc)]
  have hc' := (coefficient_eq_zero_iff hvalue).not.1 hc
  have hsize := size_eq (((value_stripTens s c (decimalLength c) e).trans hvalue).trans
    (value_stripTens s c' (decimalLength c') e').symm)
  obtain ⟨hsame, hexponent⟩ := unique_of_mod (stripTens_mod hc (lt_pow_decimalLength c))
    (stripTens_mod hc' (lt_pow_decimalLength c')) hsize
  rw [if_neg hc, if_neg hc', hsame, hexponent]

/-! ### Quantizing -/

/-- Numbers that are alike are quantized to one number. -/
theorem quantize_congr (h : Alike s d d') (p : ℕ) (tie : Tie) (g : ℤ) :
    d.quantize p tie g = d'.quantize p tie g := by
  obtain @⟨c, c', e, e', h⟩ := h
  have hkept : keptBy tie c e g = keptBy tie c' e' g := by
    have hround := rounded_keptBy tie s c' e' g
    rw [← h] at hround
    have hsize := size_eq ((rounded_keptBy tie s c e g).unique (ten_zpow_pos g) hround)
    exact_mod_cast mul_right_cancel₀ (ten_zpow_pos g).ne' hsize
  rw [quantize_finite, quantize_finite, hkept]
  by_cases hc : c = 0
  · rw [if_pos hc, if_pos ((coefficient_eq_zero_iff h).1 hc)]
  · rw [if_neg hc, if_neg ((coefficient_eq_zero_iff h).not.1 hc), lead_eq h hc]

/-! ### Quotients -/

/-- Equal fractions have one whole part, and come out even alike. -/
theorem divMod_congr {a a' b b' : ℕ} (hb : 0 < b) (hb' : 0 < b') (h : a * b' = a' * b) :
    a / b = a' / b' ∧ (a % b = 0 ↔ a' % b' = 0) := by
  constructor
  · rw [← Nat.mul_div_mul_right a b hb', h, Nat.mul_comm b, Nat.mul_div_mul_right a' b' hb]
  · have hmod : a % b * b' = a' % b' * b := by
      rw [← Nat.mul_mod_mul_right, ← Nat.mul_mod_mul_right, h, Nat.mul_comm b]
    constructor
    · intro hzero
      rw [hzero, Nat.zero_mul] at hmod
      exact (Nat.mul_eq_zero.1 hmod.symm).resolve_right hb.ne'
    · intro hzero
      rw [hzero, Nat.zero_mul] at hmod
      exact (Nat.mul_eq_zero.1 hmod).resolve_right hb'.ne'

/-- The fractions that are divided for two numbers of one value are equal. -/
theorem fraction_congr (k : ℕ) {i j : ℤ} (h : (c : ℚ) * 10 ^ i = c' * 10 ^ j) :
    c * 10 ^ i.toNat * (k * 10 ^ (-j).toNat) = c' * 10 ^ j.toNat * (k * 10 ^ (-i).toNat) := by
  have hpow := zpow_mul_pow_toNat (b := (10 : ℚ)) (by norm_num) i
  have hpow' := zpow_mul_pow_toNat (b := (10 : ℚ)) (by norm_num) j
  rw [← Nat.cast_inj (R := ℚ)]
  push_cast
  rw [← hpow, ← hpow']
  calc (c : ℚ) * (10 ^ i * 10 ^ (-i).toNat) * (k * 10 ^ (-j).toNat)
      = c * 10 ^ i * (k * 10 ^ (-i).toNat * 10 ^ (-j).toNat) := by ring
    _ = c' * (10 ^ j * 10 ^ (-j).toNat) * (k * 10 ^ (-i).toNat) := by rw [h]; ring

/-- The quotient of a number does not depend on how it is written: it is shifted to a number of
digits first. -/
theorem divide_agree (h : Alike s d d') (k : ℕ) (g : ℤ) :
    Agree (Alike s) (d.divide k g) (d'.divide k g) := by
  obtain @⟨c, c', e, e', h⟩ := h
  unfold divide
  dsimp only
  by_cases hk : k = 0
  · rw [if_pos hk, if_pos hk]
    exact .error _
  rw [if_neg hk, if_neg hk]
  by_cases hc : c = 0
  · rw [if_pos hc, if_pos ((coefficient_eq_zero_iff h).1 hc)]
    exact fit_agree (by decide) (by rw [value_zero, value_zero])
  rw [if_neg hc, if_neg ((coefficient_eq_zero_iff h).not.1 hc)]
  -- both are shifted to end at one place, so the fractions to be divided are equal
  obtain ⟨i, hi⟩ : ∃ i : ℤ, i = decimalLength k - decimalLength c + defaultPrecision + 1 :=
    ⟨_, rfl⟩
  obtain ⟨j, hj⟩ : ∃ j : ℤ, j = decimalLength k - decimalLength c' + defaultPrecision + 1 :=
    ⟨_, rfl⟩
  have hlead := lead_eq h hc
  rw [← hi, ← hj, show e' - g - j = e - g - i by omega]
  have hshifted : (c : ℚ) * 10 ^ i = c' * 10 ^ j := by
    have hscaled := congrArg (· * (10 : ℚ) ^ (i - e)) (size_eq h)
    simp only [mul_assoc] at hscaled
    rw [← zpow_add₀ (by norm_num), ← zpow_add₀ (by norm_num)] at hscaled
    rwa [add_sub_cancel, show e' + (i - e) = j by omega] at hscaled
  obtain ⟨hquotient, heven⟩ :=
    divMod_congr (by positivity) (by positivity) (fraction_congr k hshifted)
  rw [hquotient]
  by_cases hrest : c' * 10 ^ j.toNat % (k * 10 ^ (-j).toNat) = 0
  · rw [if_neg (not_not.2 (heven.2 hrest)), if_neg (not_not.2 hrest)]
    exact fit_agree (by decide)
      ((value_stripTens s _ _ _).trans (value_stripTens s _ _ _).symm)
  · rw [if_pos (heven.not.2 hrest), if_pos hrest]
    exact fit_agree (by decide) rfl

/-! ### Whole numbers rounded to fraction digits -/

/-- The number is this whole number. If it is zero, it has at most one fraction digit. -/
def Spells (d : Decimal) (n : ℤ) : Prop :=
  ∃ c e, d = finite (decide (n < 0)) c e ∧ (finite (decide (n < 0)) c e).value = n ∧
    (n = 0 → -1 ≤ e ∧ e ≤ 0)

variable {n : ℤ} {places : ℤ}

theorem Spells.alike (h : d.Spells n) (h' : d'.Spells n) : Alike (decide (n < 0)) d d' := by
  obtain ⟨c, e, rfl, hvalue, -⟩ := h
  obtain ⟨c', e', rfl, hvalue', -⟩ := h'
  exact .finite (hvalue.trans hvalue'.symm)

theorem stepExponent_congr {p p' : ℕ}
    (h : 2 * (maxExponent + p) < places.natAbs ↔ 2 * (maxExponent + p') < places.natAbs) :
    stepExponent places p = stepExponent places p' := by
  unfold stepExponent
  simp only [h]

/-- A number that has no digits to be rounded away is its own rounding, also if it is written with
places below the step. -/
theorem quantize_kept (h : (finite s c e).value = (finite s c' e').value) (hc : c ≠ 0)
    (hlow : 0 ≤ e + decimalLength c - 1) (hhigh : e + decimalLength c - 1 ≤ maxExponent)
    (hstep : -places ≤ maxExponent) (hle : -places ≤ e) :
    Agree (Alike s) (.ok (finite s c e))
      ((finite s c' e').quantize (roomFor (finite s c' e') places) .awayFromZero (-places)) := by
  have hround := rounded_of_le hle .awayFromZero s c
  rw [h] at hround
  have hroom := abs_lt_roomFor hround
  have hsize := ((leadsAt hc s e).2.trans_le (ten_zpow_le (Int.add_le_add_right hhigh 1)))
  rw [h] at hsize
  have hlead := lead_eq h hc
  obtain ⟨p, hp⟩ : ∃ p, p = roomFor (finite s c' e') places := ⟨_, rfl⟩
  have hmany : 0 < p ∧ minExponent - p + 1 ≤ -places := by
    rw [roomFor, leadingExponent] at hp
    unfold defaultPrecision minExponent at *
    omega
  rw [← hp] at hroom ⊢
  obtain ⟨k, hquantize, hvalue⟩ := quantize_eq_ok hround hmany.1 hmany.2 hstep hroom hsize
  rw [hquantize]
  exact .ok (.finite (h.trans hvalue.symm))

theorem le_of_stepExponent {step : ℤ} (h : stepExponent places p = .ok step) :
    step = -places ∧ -places ≤ maxExponent := by
  refine ⟨stepExponent_eq_ok h, ?_⟩
  unfold stepExponent at h
  split at h
  · cases h
  · split at h
    · cases h
    · omega

/-- A number from one on is rounded to fraction digits alike, however it is written. -/
theorem roundPlaces_agree_of_le (h : (finite s c e).value = (finite s c' e').value) (hc : c ≠ 0)
    (hlow : 0 ≤ e + decimalLength c - 1) (places : ℤ) :
    Agree (Alike s) ((finite s c e).roundPlaces places) ((finite s c' e').roundPlaces places) := by
  have hc' := (coefficient_eq_zero_iff h).not.1 hc
  have hlead := lead_eq h hc
  have hleading : (finite s c e).leadingExponent = (finite s c' e').leadingExponent := by
    rw [leadingExponent, leadingExponent, hlead]
  have hroom : roomFor (finite s c e) places = roomFor (finite s c' e') places := by
    rw [roomFor, roomFor, hleading]
  rw [roundPlaces_finite, roundPlaces_finite, ← hroom, ← hleading]
  cases hstep : stepExponent places (roomFor (finite s c e) places) with
  | error f => exact .error f
  | ok step =>
    obtain ⟨rfl, hmost⟩ := le_of_stepExponent hstep
    dsimp only
    by_cases hlarge : maxExponent < (finite s c e).leadingExponent
    · rw [if_pos ⟨hc, hlarge⟩, if_pos ⟨hc', hlarge⟩]
      exact .error _
    have hfew {a : ℕ} : ¬ (a ≠ 0 ∧ maxExponent < (finite s c e).leadingExponent) :=
      fun hmany ↦ hlarge hmany.2
    rw [if_neg hfew, if_neg hfew]
    rw [leadingExponent] at hlarge
    -- each of the two is kept if it has no digits below the step, and quantized otherwise
    by_cases hkeep : -places ≤ e <;> by_cases hkeep' : -places ≤ e'
    · rw [if_pos (.inl hkeep), if_pos (.inl hkeep')]
      exact .ok (.finite h)
    · rw [if_pos (.inl hkeep), if_neg (not_or.2 ⟨hkeep', hc'⟩), hroom]
      exact quantize_kept h hc hlow (not_lt.1 hlarge) hmost hkeep
    · rw [if_neg (not_or.2 ⟨hkeep, hc⟩), if_pos (.inl hkeep')]
      exact (quantize_kept h.symm hc' (by omega) (by omega) hmost hkeep').symm fun _ _ ↦ Alike.symm
    · rw [if_neg (not_or.2 ⟨hkeep, hc⟩), if_neg (not_or.2 ⟨hkeep', hc'⟩),
        quantize_congr (.finite h)]
      cases hquantize : (finite s c' e').quantize _ .awayFromZero (-places) with
      | error f => exact .error f
      | ok r =>
        obtain ⟨-, -, kept, rfl, -⟩ := quantize_sound hquantize
        exact .ok (.finite rfl)

/-- A zero is left alone. Its places count as its digits, so it matters that it has few of them. -/
theorem roundPlaces_agree_zero (s : Bool) (he : -1 ≤ e ∧ e ≤ 0) (he' : -1 ≤ e' ∧ e' ≤ 0)
    (places : ℤ) :
    Agree (Alike s) ((finite s 0 e).roundPlaces places) ((finite s 0 e').roundPlaces places) := by
  have hroom : stepExponent places (roomFor (finite s 0 e) places) =
      stepExponent places (roomFor (finite s 0 e') places) := by
    have hone : decimalLength 0 = 1 := by rw [decimalLength]; rfl
    refine stepExponent_congr ?_
    simp only [roomFor, leadingExponent, hone, defaultPrecision, maxExponent]
    omega
  rw [roundPlaces_finite, roundPlaces_finite, hroom]
  cases stepExponent places (roomFor (finite s 0 e') places) with
  | error f => exact .error f
  | ok step =>
    simp only [ne_eq, not_true_eq_false, false_and, if_false, or_true, if_true]
    exact .ok (.finite (by rw [value_zero, value_zero]))

/-- A whole number is rounded to fraction digits alike, however it is written. -/
theorem roundPlaces_agree (h : d.Spells n) (h' : d'.Spells n) (places : ℤ) :
    Agree (Alike (decide (n < 0))) (d.roundPlaces places) (d'.roundPlaces places) := by
  obtain ⟨c, e, rfl, hvalue, hzero⟩ := h
  obtain ⟨c', e', rfl, hvalue', hzero'⟩ := h'
  have hsame := hvalue.trans hvalue'.symm
  by_cases hn : n = 0
  · rw [hn, Int.cast_zero, value_eq_zero_iff] at hvalue hvalue'
    rw [hvalue, hvalue']
    exact roundPlaces_agree_zero _ (hzero hn) (hzero' hn) places
  · have hone : (10 : ℚ) ^ (0 : ℤ) ≤ |(finite (decide (n < 0)) c e).value| := by
      rw [hvalue, zpow_zero]
      exact_mod_cast Int.one_le_abs hn
    have hc : c ≠ 0 := by
      rw [ne_eq, ← value_eq_zero_iff, hvalue]
      exact_mod_cast hn
    have := ten_zpow_lt_iff.1 (hone.trans_lt (leadsAt hc _ e).2)
    exact roundPlaces_agree_of_le hsame hc (by omega) places

end Decimal

open Decimal

variable {d d' : Decimal} {s : Bool}

/-! ### Numbers in patterns -/

namespace NumberPattern

/-- A pattern makes numbers ready as one number if they are alike. -/
theorem prepare_congr (p : NumberPattern) (h : Alike s d d') : p.prepare d = p.prepare d' := by
  unfold prepare
  refine (shift_agree h p.scale).bind_eq fun a a' ha ↦ ?_
  have hsign : a.isNegative = a'.isNegative := by
    obtain ⟨-⟩ := ha
    rfl
  rw [hsign]
  have hnormal : (a.abs >>= normalize) = a'.abs >>= normalize :=
    (abs_agree ha).bind_eq fun _ _ ↦ normalize_congr
  rw [← bind_assoc, ← bind_assoc, hnormal]

theorem apply_congr (p : NumberPattern) (h : Alike s d d') (y : NumberSymbols)
    (money : Option Money) (natural : Bool) :
    p.apply y money natural d = p.apply y money natural d' := by
  rw [apply_eq, apply_eq, prepare_congr p h]

end NumberPattern

theorem Format.applyPattern_congr (h : Alike s d d') (f : NumberFormats) (pattern : List Char)
    (money : Option NumberPattern.Money) (natural : Bool) :
    applyPattern f pattern money natural d = applyPattern f pattern money natural d' := by
  unfold applyPattern
  simp only [NumberPattern.apply_congr _ h]

/-! ### Numbers in compact notation -/

namespace Compact

theorem leadingExponent_congr (h : Alike s d d') (hd : d.value ≠ 0) :
    d.leadingExponent = d'.leadingExponent := by
  obtain @⟨c, c', e, e', h⟩ := h
  rw [leadingExponent, leadingExponent, lead_eq h (value_eq_zero_iff.not.1 hd)]

/-- One pass sees of the number its leading digit and its quotient. -/
theorem roundOnce_eq_bind (d : Decimal) : roundOnce d = d.abs >>= fun a ↦
    if Text.LongNumeral.limit ≤ a.leadingExponent.toNat then .error .invalidOperation
    else (d.divide 1 (stepOf a.leadingExponent.toNat).1 >>=
        fun q ↦ q.quantize defaultPrecision .awayFromZero 0) >>=
      fun q ↦ (q.scale 1 (stepOf a.leadingExponent.toNat).1).map
        fun r ↦ (r, (stepOf a.leadingExponent.toNat).2) := by
  unfold roundOnce
  cases d.abs with
  | error f => rfl
  | ok a =>
    simp only [bind, Except.bind]
    split
    · rfl
    · cases d.divide 1 (stepOf a.leadingExponent.toNat).1 with
      | error f => rfl
      | ok q =>
        cases q.quantize defaultPrecision .awayFromZero 0 with
        | error f => rfl
        | ok q =>
          dsimp only
          cases q.scale 1 (stepOf a.leadingExponent.toNat).1 <;> rfl

/-- One pass of compact rounding gives one number for numbers that are alike. -/
theorem roundOnce_congr (h : Alike s d d') (hlarge : ∀ a, d.abs = .ok a → a.value ≠ 0) :
    roundOnce d = roundOnce d' := by
  have habs := abs_agree h
  rw [roundOnce_eq_bind, roundOnce_eq_bind]
  generalize d.abs = x at habs hlarge ⊢
  generalize d'.abs = y at habs ⊢
  rcases habs with _ | ⟨ha⟩
  · rfl
  have hquotient (step : ℕ) :
      (d.divide 1 step >>= fun q ↦ q.quantize defaultPrecision .awayFromZero 0) =
        d'.divide 1 step >>= fun q ↦ q.quantize defaultPrecision .awayFromZero 0 :=
    (divide_agree h 1 step).bind_eq fun _ _ hq ↦ quantize_congr hq _ .awayFromZero 0
  change (pure _ >>= _) = pure _ >>= _
  rw [pure_bind, pure_bind, leadingExponent_congr ha (hlarge _ rfl), hquotient]

/-- Compact rounding gives one number for numbers that are alike, or leaves them alone if they are
below a thousand. -/
theorem round_cases (h : Alike s d d') :
    round d = round d' ∨ ∃ places a a', round d = .ok (d, places) ∧ round d' = .ok (d', places) ∧
      d.abs = .ok a ∧ d'.abs = .ok a' ∧ Alike false a a' ∧ a.value < 1000 := by
  obtain @⟨c, c', e, e', hvalue⟩ := h
  rcases (abs_agree (.finite hvalue)).cases with ⟨f, habs, habs'⟩ | ⟨a, a', habs, habs', ha⟩
  · exact .inl (by simp only [round, habs, habs', bind, Except.bind])
  obtain @⟨m, m', g, g', hsize⟩ := ha
  rw [round_of_abs habs, round_of_abs habs', ← hsize]
  by_cases hsmall : (finite false m g).value < 1000
  · rw [if_pos hsmall, if_pos hsmall]
    exact .inr ⟨_, _, _, rfl, rfl, habs, habs', .finite hsize, hsmall⟩
  · rw [if_neg hsmall, if_neg hsmall, roundOnce_congr (.finite hvalue)]
    · exact .inl rfl
    · intro a ha hzero
      obtain rfl := Except.ok.inj (habs.symm.trans ha)
      rw [hzero] at hsmall
      norm_num at hsmall

end Compact

/-- Compact patterns are for numbers from a thousand on. -/
def LocaleData.FromThousand (data : LocaleData) : Prop :=
  ∀ patterns ∈ data.compact, ∀ other ∈ patterns.2.lookup "other", ∀ r ∈ other, 1000 ≤ r.1

/-- So they are in every locale. -/
def LocaleBook.FromThousand (book : LocaleBook) : Prop :=
  ∀ locale, (book.data locale).FromThousand

theorem LocaleBook.fromThousand_tables : LocaleBook.tables.FromThousand :=
  Locale.forall_row? (P := fun table : List (String × CompactPatterns) ↦ ∀ patterns ∈ table,
    ∀ other ∈ patterns.2.lookup "other", ∀ r ∈ other, 1000 ≤ r.1)
    (by decide +kernel) (by decide +kernel)

namespace Format

variable {v v' : Value} {data : LocaleData}

/-- A number below a thousand has no unit. -/
theorem choose_small (hdata : data.FromThousand) {word : String} {patterns : CompactPatterns}
    (hpatterns : data.compact.lookup word = some patterns) {other : List (ℕ × String)}
    (hother : patterns.lookup "other" = some other) {c : ℕ} {e : ℤ}
    (habs : d.abs = .ok (finite false c e)) (hsmall : (finite false c e).value < 1000)
    (rules : Plural.Rules) (places : ℕ) :
    Compact.choose rules patterns d places = .ok none := by
  have hsize : |(finite false c e).value| = (finite false c e).value := by
    rw [abs_value, value_finite, if_neg Bool.false_ne_true]
  refine Compact.choose_none hother habs ?_
  rcases Compact.magnitudeFor_cases other hsize.symm with ⟨hnone, -⟩ | ⟨entry, -, hmem, hle, -⟩
  · exact hnone
  · rw [hsize] at hle
    have hlow : (1000 : ℚ) ≤ entry.1 := by
      exact_mod_cast hdata _ (Table.mem_of_lookup hpatterns) other hother entry hmem
    exact absurd hsmall (hlow.trans hle).not_gt

/-- Numbers that are alike are written alike in compact notation: those below a thousand have no
unit, and the others are rounded to one number. -/
theorem compactIn_congr (hv : decimalOf v = .ok d) (hv' : decimalOf v' = .ok d') (h : Alike s d d')
    (hdata : data.FromThousand) (display : CompactDisplay) :
    compactIn data v display = compactIn data v' display := by
  unfold compactIn
  rw [hv, hv']
  simp only [bind, Except.bind]
  rcases Compact.round_cases h with
    hround | ⟨places, a, a', hround, hround', habs, habs', ha, hsmall⟩
  · rw [hround]
  rw [hround, hround']
  obtain ⟨hsize⟩ := ha
  dsimp only [arith, Except.mapError]
  dsimp only [need]
  cases hpatterns : data.compact.lookup display.word with
  | none => rfl
  | some patterns =>
    dsimp only
    cases hother : patterns.lookup "other" with
    | none => simp only [Compact.choose, hother, need, bind, Except.bind]
    | some other =>
      rw [choose_small hdata hpatterns hother habs hsmall,
        choose_small hdata hpatterns hother habs' (hsize ▸ hsmall)]
      exact applyPattern_congr h data.numbers _ none true

/-- What is done with a whole number that was rounded to fraction digits comes to one result, if it
does not tell apart numbers that are alike. -/
theorem rounded_congr {n : ℤ} (hv : decimalOf v = .ok d) (hv' : decimalOf v' = .ok d')
    (h : d.Spells n) (h' : d'.Spells n) (places : ℤ) {next : Decimal → Except FormatFault String}
    (hnext : ∀ a a', Alike (decide (n < 0)) a a' → next a = next a') :
    (decimalOf v >>= fun a ↦ arith (a.roundPlaces places) >>= next) =
      decimalOf v' >>= fun a ↦ arith (a.roundPlaces places) >>= next := by
  rw [hv, hv']
  exact (roundPlaces_agree h h' places).arith.bind_eq hnext

theorem money_congr (hv : decimalOf v = .ok d) (hv' : decimalOf v' = .ok d') (h : Alike s d d')
    (f : NumberFormats) (code : String) : money f code v = money f code v' := by
  unfold money
  rw [hv, hv']
  simp only [bind, Except.bind, applyPattern_congr h]

theorem currency_congr (hv : decimalOf v = .ok d) (hv' : decimalOf v' = .ok d') (h : Alike s d d')
    (code : Option String) (tag : String) (book : LocaleBook) :
    currency v code tag book = currency v' code tag book := by
  unfold currency
  rw [hv, hv']
  cases code with
  | none => simp only [bind, Except.bind, applyPattern_congr h]
  | some code => simp only [money_congr hv hv' h]

variable {book : LocaleBook} (hbook : book.FromThousand)

include hbook in
theorem compact_congr (hv : decimalOf v = .ok d) (hv' : decimalOf v' = .ok d') (h : Alike s d d')
    (tag : String) (display : CompactDisplay) :
    compact v tag display book = compact v' tag display book := by
  unfold compact
  cases hdata : dataOf tag book with
  | error f => rfl
  | ok data =>
    obtain ⟨locale, -, rfl⟩ := exists_of_dataOf hdata
    exact compactIn_congr hv hv' h (hbook locale) display

variable {n : ℤ}

theorem numberWith_congr (hv : decimalOf v = .ok d) (hv' : decimalOf v' = .ok d')
    (h : d.Spells n) (h' : d'.Spells n) (hdata : data.FromThousand) (o : NumberOptions) :
    numberWith data v o = numberWith data v' o := by
  unfold numberWith
  cases o.style with
  | compact => exact compactIn_congr hv hv' (h.alike h') hdata _
  | currency => exact money_congr hv hv' (h.alike h') data.numbers _
  | percent =>
    exact rounded_congr hv hv' h h' _ fun _ _ ha ↦
      applyPattern_congr ha data.numbers _ none false
  | decimal =>
    exact rounded_congr hv hv' h h' _ fun _ _ ha ↦
      applyPattern_congr ha data.numbers _ none false

theorem numberIn_congr (hv : decimalOf v = .ok d) (hv' : decimalOf v' = .ok d')
    (h : d.Spells n) (h' : d'.Spells n) (f : NumberFormats) (style : String) :
    numberIn f v style = numberIn f v' style := by
  unfold numberIn
  split
  · exact rounded_congr hv hv' h h' 3 fun _ _ ha ↦ applyPattern_congr ha f _ none false
  split
  · exact rounded_congr hv hv' h h' 0 fun _ _ ha ↦ applyPattern_congr ha f _ none false
  split
  · refine rounded_congr hv hv' h h' 2 fun _ _ ha ↦ ?_
    simp only [applyPattern_congr ha]
  split
  · exact money_congr hv hv' (h.alike h') f _
  · simp only [hv, hv', bind, Except.bind, applyPattern_congr (h.alike h')]

include hbook in
/-- A whole number is written alike in every style, however it is written as a decimal number. -/
theorem number_congr (hv : decimalOf v = .ok d) (hv' : decimalOf v' = .ok d')
    (h : d.Spells n) (h' : d'.Spells n) (tag : String) (style : Option String)
    (options : Option NumberOptions) :
    number v tag style options book = number v' tag style options book := by
  unfold number
  cases hdata : dataOf tag book with
  | error f => rfl
  | ok data =>
    obtain ⟨locale, -, rfl⟩ := exists_of_dataOf hdata
    cases options with
    | none => exact numberIn_congr hv hv' h h' _ _
    | some o => exact numberWith_congr hv hv' h h' (hbook locale) o

end Format

end Phrasebook
