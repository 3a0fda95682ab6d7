import Phrasebook.Proofs.ExactValues
import Phrasebook.Proofs.LeadingPlaces

/-!
What decimal arithmetic rounds to.

Giving up digits rounds the value of a number (`rounded_dropDigits`), so each operation of decimal
arithmetic has the exact value of its result, rounded once: quantizing rounds to a multiple of the
step and fails just if this has too many digits (`quantize_eq_ok`, `quantize_sound`), and fitting
rounds to the digits of the working precision (`fit_normal`) and leaves numbers alone that have no
more of them (`fit_eq`).
-/

set_option autoImplicit false

namespace Phrasebook

open Arithmetic

/-- A computation that goes on has a result if its two parts have. -/
theorem bind_eq_ok {ε α β : Type} {x : Except ε α} {f : α → Except ε β} {b : β}
    (h : x >>= f = .ok b) : ∃ a, x = .ok a ∧ f a = .ok b := by
  cases x with
  | error g => cases h
  | ok a => exact ⟨a, rfl, h⟩

namespace Decimal

variable {s t : Bool} {c c' p : ℕ} {e e' : ℤ}

/-! ### Values -/

theorem value_finite (s : Bool) (c : ℕ) (e : ℤ) :
    (finite s c e).value = if s then -((c : ℚ) * 10 ^ e) else c * 10 ^ e := by
  cases s <;> simp [value]

theorem abs_value (s : Bool) (c : ℕ) (e : ℤ) : |(finite s c e).value| = c * 10 ^ e := by
  have hpos : 0 ≤ (c : ℚ) * 10 ^ e := by positivity
  rw [value_finite]
  cases s
  · exact abs_of_nonneg hpos
  · rw [if_pos rfl, abs_neg, abs_of_nonneg hpos]

@[simp]
theorem value_zero (s : Bool) (e : ℤ) : (finite s 0 e).value = 0 := by
  cases s <;> simp [value]

theorem value_eq_zero_iff : (finite s c e).value = 0 ↔ c = 0 := by
  rw [← abs_eq_zero, abs_value, mul_zpow_eq_zero_iff]

/-- Numbers of one sign have one value if their sizes are equal. -/
theorem value_congr (h : (c : ℚ) * 10 ^ e = c' * 10 ^ e') :
    (finite s c e).value = (finite s c' e').value := by
  rw [value_finite, value_finite, h]

theorem value_mul_ten_zpow (k : ℤ) :
    (finite s c e).value * 10 ^ k = (finite s c (e + k)).value := by
  have hpow : (10 : ℚ) ^ (e + k) = 10 ^ e * 10 ^ k := zpow_add₀ (by norm_num) _ _
  rw [value_finite, value_finite, hpow]
  cases s <;> simp [mul_assoc]

theorem cast_mul_pow (c k : ℕ) (e : ℤ) :
    ((c * 10 ^ k : ℕ) : ℚ) * 10 ^ e = c * 10 ^ (e + k) := by
  push_cast
  rw [zpow_add₀ (by norm_num), zpow_natCast]
  ring

/-- The leading digit of a number is as far from its last one as the number of its digits says. -/
theorem leadsAt (hc : c ≠ 0) (s : Bool) (e : ℤ) :
    LeadsAt (finite s c e).value (e + decimalLength c - 1) := by
  have hpos := ten_zpow_pos e
  obtain ⟨n, hn⟩ := Nat.exists_eq_add_one_of_ne_zero (decimalLength_pos c).ne'
  have hlow : 10 ^ n ≤ c := by
    have hle := pow_decimalLength_le hc
    rw [hn, pow_succ] at hle
    omega
  have hhigh := lt_pow_decimalLength c
  have hpow (k : ℕ) : (10 : ℚ) ^ (e + k) = (10 ^ k : ℕ) * 10 ^ e := by
    push_cast
    rw [zpow_add₀ (by norm_num), zpow_natCast, mul_comm]
  rw [LeadsAt, abs_value, hn, show e + (n + 1 : ℕ) - 1 = e + n by omega,
    show e + n + 1 = e + (n + 1 : ℕ) by omega, hpow, hpow, ← hn]
  exact ⟨mul_le_mul_of_nonneg_right (by exact_mod_cast hlow) hpos.le,
    mul_lt_mul_of_pos_right (by exact_mod_cast hhigh) hpos⟩

/-- The coefficient of a number that is small as a multiple of its last place. -/
theorem coefficient_lt (h : |(finite s c e).value| < 10 ^ (e + p)) : c < 10 ^ p := by
  rw [abs_value, zpow_add₀ (by norm_num), zpow_natCast, mul_comm ((10 : ℚ) ^ e),
    mul_lt_mul_iff_left₀ (ten_zpow_pos e)] at h
  exact_mod_cast h

theorem abs_value_lt (h : c < 10 ^ p) : |(finite s c e).value| < 10 ^ (e + p) := by
  rw [abs_value, zpow_add₀ (by norm_num), zpow_natCast, mul_comm ((10 : ℚ) ^ e),
    mul_lt_mul_iff_left₀ (ten_zpow_pos e)]
  exact_mod_cast h

/-- A number is a multiple of its last place, and of every lower one. -/
theorem exists_value_eq (h : e' ≤ e) (s : Bool) (c : ℕ) :
    ∃ i : ℤ, (finite s c e).value = i * 10 ^ e' := by
  obtain ⟨i, hi⟩ := exists_ten_zpow_eq h
  rw [value_finite, hi]
  cases s
  · exact ⟨c * i, by push_cast; simp [mul_assoc]⟩
  · exact ⟨-(c * i), by push_cast; simp [mul_assoc]⟩

theorem rounded_of_le (h : e' ≤ e) (tie : Tie) (s : Bool) (c : ℕ) :
    Rounded tie (10 ^ e') (finite s c e).value (finite s c e).value := by
  obtain ⟨i, hi⟩ := exists_value_eq h s c
  rw [hi]
  exact .self (ten_zpow_pos _) tie i

/-! ### Giving up digits -/

theorem rounded_of_size {tie : Tie} {step : ℚ} (s : Bool)
    (h : Rounded tie step ((c : ℚ) * 10 ^ e) (c' * 10 ^ e')) :
    Rounded tie step (finite s c e).value (finite s c' e').value := by
  rw [value_finite, value_finite]
  cases s
  · exact h
  · exact h.neg

/-- What is left when digits are given up is the number, rounded. -/
theorem rounded_dropDigits (tie : Tie) (s : Bool) (c x : ℕ) (e : ℤ) :
    Rounded tie (10 ^ (e + x)) (finite s c e).value
      (finite s (dropDigits tie c x) (e + x)).value := by
  have hpow : 0 < 10 ^ x := by positivity
  have hround := (rounded_roundQuotient tie c hpow).mul_right (ten_zpow_pos (e + x))
  have hsize : (c : ℚ) / (10 ^ x : ℕ) * 10 ^ (e + x) = c * 10 ^ e := by
    rw [zpow_add₀ (by norm_num), zpow_natCast]
    push_cast
    field_simp
  rw [one_mul, hsize] at hround
  exact rounded_of_size s hround

/-- A number less than a tenth of the step is rounded to zero. -/
theorem rounded_zero (tie : Tie) (s : Bool) (h : e' + decimalLength c < e) :
    Rounded tie (10 ^ e) (finite s c e').value 0 := by
  have hlt : |(finite s c e').value| < 10 ^ e / 2 := by
    have hsmall := abs_value_lt (s := s) (e := e') (lt_pow_decimalLength c)
    have hle : (10 : ℚ) ^ (e' + decimalLength c) ≤ 10 ^ (e - 1) := ten_zpow_le (by omega)
    have hstep : (10 : ℚ) ^ e = 10 ^ (e - 1) * 10 := by
      rw [← zpow_add_one₀ (by norm_num), sub_add_cancel]
    have hpos := ten_zpow_pos (e - 1)
    linarith
  have hmultiple : Rounded tie (10 ^ e) (finite s c e').value ((0 : ℤ) * 10 ^ e) :=
    .of_near (by simpa using hlt)
  simpa using hmultiple

/-- The digits that quantizing keeps. -/
def keptBy (tie : Tie) (c : ℕ) (e' e : ℤ) : ℕ :=
  if e ≤ e' then c * 10 ^ (e' - e).toNat
  else dropDigits tie c (min (e - e').toNat (decimalLength c + 1))

/-- They are the number, rounded to the step. -/
theorem rounded_keptBy (tie : Tie) (s : Bool) (c : ℕ) (e' e : ℤ) :
    Rounded tie (10 ^ e) (finite s c e').value (finite s (keptBy tie c e' e) e).value := by
  unfold keptBy
  by_cases h : e ≤ e'
  · have hvalue : (finite s (c * 10 ^ (e' - e).toNat) e).value = (finite s c e').value := by
      refine value_congr ?_
      rw [cast_mul_pow]
      congr 2
      omega
    rw [if_pos h, hvalue]
    exact rounded_of_le h tie s c
  · rw [if_neg h]
    rcases le_or_gt (e - e').toNat (decimalLength c + 1) with hle | hgt
    · have hround := rounded_dropDigits tie s c (e - e').toNat e'
      rw [show e' + ((e - e').toNat : ℕ) = e by omega] at hround
      rwa [min_eq_left hle]
    · rw [min_eq_right hgt.le, dropDigits_eq_zero, value_zero]
      exact rounded_zero tie s (by omega)

/-! ### Quantizing -/

theorem quantize_finite (p : ℕ) (tie : Tie) (s : Bool) (c : ℕ) (e' e : ℤ) :
    (finite s c e').quantize p tie e =
      if e < minExponent - p + 1 ∨ maxExponent < e then .error .invalidOperation
      else if c = 0 then .ok (.finite s 0 e)
      else if maxExponent < e' + decimalLength c - 1 ∨
          (p : ℤ) < e' + decimalLength c - 1 - e + 1 then
        .error .invalidOperation
      else if p < decimalLength (keptBy tie c e' e) ∨
          maxExponent < e + decimalLength (keptBy tie c e' e) - 1 then .error .invalidOperation
      else .ok (.finite s (keptBy tie c e' e) e) :=
  rfl

/-- A quantized number is the number, rounded to the step, and has few enough digits. -/
theorem quantize_sound {tie : Tie} {r : Decimal} (h : (finite s c e').quantize p tie e = .ok r) :
    minExponent - p + 1 ≤ e ∧ e ≤ maxExponent ∧ ∃ kept, r = finite s kept e ∧
      Rounded tie (10 ^ e) (finite s c e').value r.value ∧ |r.value| < 10 ^ (e + p) := by
  rw [quantize_finite] at h
  split at h
  · cases h
  rename_i hrange
  refine ⟨by omega, by omega, ?_⟩
  split at h
  · rename_i hc
    obtain rfl := Except.ok.inj h
    subst hc
    refine ⟨0, rfl, ?_, ?_⟩
    · simpa using Rounded.self (ten_zpow_pos e) tie 0
    · rw [value_zero, abs_zero]
      exact ten_zpow_pos _
  split at h
  · cases h
  split at h
  · cases h
  rename_i hkept
  obtain rfl := Except.ok.inj h
  refine ⟨_, rfl, rounded_keptBy tie s c e' e, abs_value_lt ?_⟩
  exact (lt_pow_decimalLength _).trans_le (Nat.pow_le_pow_right (by decide) (by omega))

/-- A number whose rounding has few enough digits is quantized. -/
theorem quantize_eq_ok {tie : Tie} {y : ℚ} (hy : Rounded tie (10 ^ e) (finite s c e').value y)
    (hp : 0 < p) (hleast : minExponent - p + 1 ≤ e) (hmost : e ≤ maxExponent)
    (hdigits : |y| < 10 ^ (e + p)) (hsize : |y| < 10 ^ (maxExponent + 1)) :
    ∃ kept, (finite s c e').quantize p tie e = .ok (finite s kept e) ∧
      (finite s kept e).value = y := by
  have hstep := ten_zpow_pos e
  rw [quantize_finite, if_neg (by omega)]
  by_cases hc : c = 0
  · subst hc
    rw [if_pos rfl]
    refine ⟨0, rfl, ?_⟩
    rw [value_zero] at hy ⊢
    simpa using (Rounded.self hstep tie 0).unique hstep (by simpa using hy)
  have hlead := leadsAt hc s e'
  -- a leading digit above the last place that is kept stays where it is
  have hbound (h : e ≤ e' + decimalLength c - 1) : 10 ^ (e' + decimalLength c - 1) ≤ |y| :=
    hy.le_abs h hlead.1
  have hfew : ¬ (p : ℤ) < e' + decimalLength c - 1 - e + 1 := by
    intro h
    have hlow := (hbound (by omega)).trans_lt hdigits
    rw [ten_zpow_lt_iff] at hlow
    omega
  have hlarge : ¬ maxExponent < e' + decimalLength c - 1 := by
    intro h
    have hlow := (hbound (by omega)).trans_lt hsize
    rw [ten_zpow_lt_iff] at hlow
    omega
  have hvalue := (rounded_keptBy tie s c e' e).unique hstep hy
  generalize keptBy tie c e' e = kept at hvalue
  subst hvalue
  have hlen := decimalLength_le (coefficient_lt hdigits) hp
  have hkept : ¬ (p < decimalLength kept ∨ maxExponent < e + decimalLength kept - 1) := by
    rintro (h | h)
    · omega
    · by_cases hzero : kept = 0
      · subst hzero
        have hone : decimalLength 0 = 1 := by rw [decimalLength]; rfl
        omega
      · have hlow := (leadsAt hzero s e).1.trans_lt hsize
        rw [ten_zpow_lt_iff] at hlow
        omega
  rw [if_neg hc, if_neg (not_or.2 ⟨hlarge, hfew⟩), if_neg hkept]
  exact ⟨kept, rfl, rfl⟩

/-! ### Fitting -/

/-- A number with few enough digits, within the range of exponents, fits as it is. -/
theorem fit_eq (hc : c < 10 ^ p) (hp : 0 < p) (hleast : minExponent - p + 1 ≤ e)
    (hmost : e + decimalLength c - 1 ≤ maxExponent) : fit p s c e = .ok (finite s c e) := by
  have hlen := decimalLength_le hc hp
  have hpos := decimalLength_pos c
  unfold fit
  by_cases hzero : c = 0
  · have hkept : max (minExponent - p + 1) (min e maxExponent) = e := by omega
    rw [if_pos hzero, hkept, hzero]
  · have hexcess : min (max (decimalLength c - p) (minExponent - p + 1 - e).toNat)
        (decimalLength c + 1) = 0 := by omega
    have hdrop : dropDigits .toEven c 0 = c := by
      rw [dropDigits, pow_zero, roundQuotient_of_dvd _ Nat.one_pos (Nat.one_dvd c), Nat.div_one]
    rw [if_neg hzero]
    dsimp only
    rw [hexcess, hdrop, if_neg (Nat.not_lt.2 hlen)]
    dsimp only
    rw [if_neg hzero, Nat.cast_zero, Int.add_zero, if_neg (Int.not_lt.2 hmost)]

/-- The place to which a number is rounded that keeps `p` digits. -/
def lastOf (p : ℕ) (k : ℤ) : ℤ := k - p + 1

/-- The place to which a number is rounded that keeps `p` digits, but none below the range of
exponents. -/
def fitPlace (p : ℕ) (k : ℤ) : ℤ := max (lastOf p k) (minExponent - p + 1)

/-- The second number is the first one, rounded to `p` digits within the range of exponents. -/
def Fits (p : ℕ) (x y : ℚ) : Prop :=
  x = 0 ∧ y = 0 ∨ RoundedAt .toEven (fitPlace p) x y

theorem fitPlace_eq {k : ℤ} (h : minExponent ≤ k) : fitPlace p k = lastOf p k :=
  max_eq_left (by rw [lastOf]; omega)

/-- The digits that fitting gives up. -/
def excessOf (p c : ℕ) (e : ℤ) : ℕ :=
  min (max (decimalLength c - p) (minExponent - p + 1 - e).toNat) (decimalLength c + 1)

theorem rounded_excess (hp : 0 < p) (s : Bool) (c : ℕ) (e : ℤ) :
    Rounded .toEven (10 ^ fitPlace p (e + decimalLength c - 1)) (finite s c e).value
      (finite s (dropDigits .toEven c (excessOf p c e)) (e + excessOf p c e)).value := by
  have hpos := decimalLength_pos c
  unfold excessOf fitPlace lastOf
  rcases le_or_gt (max (decimalLength c - p) (minExponent - p + 1 - e).toNat) (decimalLength c + 1)
    with hle | hgt
  · rw [min_eq_left hle]
    obtain ⟨x, hx⟩ : ∃ x, x = max (decimalLength c - p) (minExponent - p + 1 - e).toNat := ⟨_, rfl⟩
    rw [← hx]
    rcases le_or_gt e (max (e + decimalLength c - 1 - p + 1) (minExponent - p + 1)) with h | h
    · rw [show max (e + decimalLength c - 1 - p + 1) (minExponent - p + 1) = e + x by omega]
      exact rounded_dropDigits .toEven s c x e
    · have hdrop : dropDigits .toEven c 0 = c := by
        rw [dropDigits, pow_zero, roundQuotient_of_dvd _ Nat.one_pos (Nat.one_dvd c), Nat.div_one]
      obtain rfl : x = 0 := by omega
      rw [hdrop, Nat.cast_zero, add_zero]
      exact rounded_of_le h.le .toEven s c
  · rw [min_eq_right hgt.le, dropDigits_eq_zero, value_zero]
    exact rounded_zero .toEven s (by omega)

theorem dropDigits_excess_le (hp : 0 < p) (c : ℕ) (e : ℤ) :
    dropDigits .toEven c (excessOf p c e) ≤ 10 ^ p := by
  rcases le_or_gt (excessOf p c e) (decimalLength c) with hle | hgt
  · refine (dropDigits_le (lt_pow_decimalLength c) hle .toEven).trans
      (Nat.pow_le_pow_right (by decide) ?_)
    unfold excessOf
    omega
  · rw [show excessOf p c e = decimalLength c + 1 by unfold excessOf at *; omega,
      dropDigits_eq_zero]
    exact Nat.zero_le _

/-- A digit more than the precision is a carry, and the last digit is a zero. -/
theorem exists_carried (hp : 0 < p) {kept : ℕ} (hkept : kept ≤ 10 ^ p) (s : Bool) (e : ℤ) :
    ∃ c' e', (if p < decimalLength kept then (kept / 10, e + 1) else (kept, e)) = (c', e') ∧
      c' < 10 ^ p ∧ (finite s c' e').value = (finite s kept e).value := by
  by_cases hcarry : p < decimalLength kept
  · have hkept : kept = 10 ^ p := by
      by_contra hne
      have := decimalLength_le (lt_of_le_of_ne hkept hne) hp
      omega
    obtain ⟨n, rfl⟩ := Nat.exists_eq_add_one_of_ne_zero hp.ne'
    refine ⟨10 ^ n, e + 1, ?_, Nat.pow_lt_pow_right (by decide) (Nat.lt_succ_self n), ?_⟩
    · rw [if_pos hcarry, hkept, pow_succ, Nat.mul_div_cancel _ (by decide)]
    · refine value_congr ?_
      rw [hkept]
      push_cast
      rw [zpow_add_one₀ (by norm_num), pow_succ]
      ring
  · refine ⟨kept, e, if_neg hcarry, ?_, rfl⟩
    exact (lt_pow_decimalLength kept).trans_le (Nat.pow_le_pow_right (by decide) (not_lt.1 hcarry))

/-- A fitted number is the number, rounded to the digits of the precision. -/
theorem fit_sound (hp : 0 < p) {d : Decimal} (h : fit p s c e = .ok d) :
    ∃ c' e', d = finite s c' e' ∧ c' < 10 ^ p ∧ Fits p (finite s c e).value d.value := by
  by_cases hc : c = 0
  · subst hc
    obtain rfl := Except.ok.inj h
    exact ⟨0, _, rfl, by positivity, .inl ⟨value_zero s e, value_zero s _⟩⟩
  have hround : RoundedAt .toEven (fitPlace p) (finite s c e).value _ :=
    ⟨_, leadsAt hc s e, rounded_excess hp s c e⟩
  obtain ⟨c', e', hcarried, hc', hvalue⟩ := exists_carried hp (dropDigits_excess_le hp c e) s
    (e + excessOf p c e)
  rw [← hvalue] at hround
  unfold fit at h
  rw [if_neg hc] at h
  dsimp only at h
  have hexcess : min (max (decimalLength c - p) (minExponent - p + 1 - e).toNat)
      (decimalLength c + 1) = excessOf p c e := rfl
  rw [hexcess, hcarried] at h
  dsimp only at h
  split at h
  · rename_i hzero
    obtain rfl := Except.ok.inj h
    rw [hzero, value_zero] at hround
    exact ⟨0, _, rfl, by positivity, .inr (by rwa [value_zero])⟩
  · split at h
    · cases h
    · obtain rfl := Except.ok.inj h
      exact ⟨c', e', rfl, hc', .inr hround⟩

/-- A fitted number has no place below the range of exponents. -/
theorem least_le_of_fit (h : fit p s c e = .ok (finite t c' e')) : minExponent - p + 1 ≤ e' := by
  by_cases hc : c = 0
  · rw [fit, if_pos hc] at h
    obtain ⟨-, -, rfl⟩ := Decimal.finite.inj (Except.ok.inj h)
    exact le_max_left _ _
  have hexcess : min (max (decimalLength c - p) (minExponent - p + 1 - e).toNat)
      (decimalLength c + 1) = excessOf p c e := rfl
  obtain ⟨kept, hkept⟩ : ∃ kept, kept = dropDigits .toEven c (excessOf p c e) := ⟨_, rfl⟩
  obtain ⟨c₁, e₁, hcarried, hle⟩ : ∃ c₁ e₁, (if p < decimalLength kept then
      (kept / 10, e + excessOf p c e + 1) else (kept, e + excessOf p c e)) = (c₁, e₁) ∧
        (kept = 0 → c₁ = 0) ∧ e + excessOf p c e ≤ e₁ := by
    split
    · exact ⟨_, _, rfl, by rintro rfl; rfl, by omega⟩
    · exact ⟨_, _, rfl, id, le_rfl⟩
  unfold fit at h
  rw [if_neg hc] at h
  dsimp only at h
  rw [hexcess, ← hkept, hcarried] at h
  dsimp only at h
  split at h
  · obtain ⟨-, -, rfl⟩ := Decimal.finite.inj (Except.ok.inj h)
    exact le_max_left _ _
  · rename_i hne
    split at h
    · cases h
    · obtain ⟨-, -, rfl⟩ := Decimal.finite.inj (Except.ok.inj h)
      -- nothing would be left of a number so small that the excess is capped
      have hcap : excessOf p c e ≠ decimalLength c + 1 := by
        intro hcap
        rw [hcap, dropDigits_eq_zero] at hkept
        exact hne (hle.1 hkept)
      unfold excessOf at hcap hle
      omega

/-- A number is fitted unless it is beyond the range of exponents. -/
theorem exists_fit (p : ℕ) (h : |(finite s c e).value| < 10 ^ maxExponent) :
    ∃ d, fit p s c e = .ok d := by
  rcases fit_cases p s c e with ⟨t, c', e', hfit, -⟩ | ⟨-, hlarge⟩
  · exact ⟨_, hfit⟩
  · refine absurd ?_ hlarge
    by_cases hc : c = 0
    · exact .inl hc
    · have := ten_zpow_lt_iff.1 ((leadsAt hc s e).1.trans_lt h)
      exact .inr (by omega)

/-- A number with its leading digit within the range of exponents is fitted by rounding it to the
digits of the precision. -/
theorem fit_normal (hp : 0 < p) (hc : c ≠ 0) (hleast : minExponent ≤ e + decimalLength c - 1)
    (hmost : e + decimalLength c ≤ maxExponent) (s : Bool) :
    ∃ c' e', fit p s c e = .ok (finite s c' e') ∧ c' < 10 ^ p ∧
      RoundedAt .toEven (lastOf p) (finite s c e).value (finite s c' e').value := by
  have hsize := (abs_value_lt (s := s) (e := e) (lt_pow_decimalLength c)).trans_le
    (ten_zpow_le hmost)
  obtain ⟨d, hfit⟩ := exists_fit p hsize
  obtain ⟨c', e', rfl, hc', hfits⟩ := fit_sound hp hfit
  refine ⟨c', e', hfit, hc', ?_⟩
  rcases hfits with ⟨hzero, -⟩ | ⟨k, hk, hround⟩
  · exact absurd (value_eq_zero_iff.1 hzero) hc
  · obtain rfl := hk.unique (leadsAt hc s e)
    rw [fitPlace_eq hleast] at hround
    exact ⟨_, hk, hround⟩

end Decimal

end Phrasebook
