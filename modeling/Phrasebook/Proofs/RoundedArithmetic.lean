import Phrasebook.Format.Number
import Phrasebook.Proofs.RoundedDecimals

/-!
Products, quotients and comparisons of decimal numbers.

The quotient of a number by a power of ten is the exact quotient, rounded once
(`Decimal.divide_ten`). Where the quotient does not come out even its thirtieth digit is made odd or
even so that it is never a multiple of five, and the number that this leaves is rounded to where the
exact quotient is (`Arithmetic.rounded_between`). Numbers compare by value
(`Decimal.compare?_lt_iff`).
-/

set_option autoImplicit false

namespace Phrasebook

open Arithmetic

namespace Arithmetic

/-- Between two neighbouring multiples of half a step all numbers are rounded to one multiple. -/
theorem rounded_between {tie : Tie} {step x : ℚ} {j : ℤ} (hlow : j * (step / 2) < x)
    (hhigh : x < (j + 1) * (step / 2)) : Rounded tie step x (((j + 1) / 2 : ℤ) * step) := by
  refine .of_near ?_
  obtain ⟨i, rfl | rfl⟩ : ∃ i, j = 2 * i ∨ j = 2 * i + 1 := ⟨j / 2, by omega⟩
  · rw [show (2 * i + 1) / 2 = i by omega]
    push_cast at hlow hhigh
    rw [abs_lt]
    constructor <;> linarith
  · rw [show (2 * i + 1 + 1) / 2 = i + 1 by omega]
    push_cast at hlow hhigh ⊢
    rw [abs_lt]
    constructor <;> linarith

end Arithmetic

namespace Decimal

variable {s t : Bool} {c c' p : ℕ} {e e' : ℤ} {x y : ℚ}

/-! ### Few digits -/

theorem lastOf_le (hp : 0 < p) (k : ℤ) : lastOf p k ≤ k := by
  rw [lastOf]
  omega

/-- The number can be written with `p` digits. -/
def FewDigits (p : ℕ) (x : ℚ) : Prop :=
  ∃ i k : ℤ, |i| < 10 ^ p ∧ x = i * 10 ^ k

theorem FewDigits.roundedAt (h : FewDigits p x) (hx : x ≠ 0) :
    RoundedAt .toEven (lastOf p) x x := by
  obtain ⟨k, hk⟩ := exists_leadsAt hx
  obtain ⟨i, e, hi, rfl⟩ := h
  have hsize : |(i : ℚ) * 10 ^ e| < 10 ^ (p + e) := by
    have hi : |(i : ℚ)| < 10 ^ p := by exact_mod_cast hi
    rw [abs_mul, abs_of_pos (ten_zpow_pos e), zpow_add₀ (by norm_num), zpow_natCast]
    exact mul_lt_mul_of_pos_right hi (ten_zpow_pos e)
  have hplace := ten_zpow_lt_iff.1 (hk.1.trans_lt hsize)
  obtain ⟨j, hj⟩ := exists_ten_zpow_eq (by rw [lastOf]; omega : lastOf p k ≤ e)
  exact .self hk ⟨i * j, by rw [hj]; push_cast; ring⟩

/-- Rounding to a number of digits commutes with powers of ten. -/
theorem roundedAt_mul_ten_zpow {tie : Tie} (h : RoundedAt tie (lastOf p) x y) (j : ℤ) :
    RoundedAt tie (lastOf p) (x * 10 ^ j) (y * 10 ^ j) := by
  obtain ⟨k, hk, hround⟩ := h
  refine ⟨k + j, hk.mul_ten_zpow j, ?_⟩
  rw [show lastOf p (k + j) = lastOf p k + j by unfold lastOf; omega]
  exact hround.mul_ten_zpow j

/-- The places before the point for which the working precision has room beside those after it. -/
theorem room_eq (n : ℕ) : (28 : ℤ) - n = -(n : ℤ) + (28 : ℕ) := by
  push_cast
  ring

/-! ### Fitted numbers -/

namespace Fits

variable {z : ℚ}

theorem neg (h : Fits p x y) : Fits p (-x) (-y) :=
  h.imp (fun ⟨hx, hy⟩ ↦ ⟨by rw [hx, neg_zero], by rw [hy, neg_zero]⟩) RoundedAt.neg

theorem abs (h : Fits p x y) : Fits p |x| |y| :=
  h.imp (fun ⟨hx, hy⟩ ↦ ⟨by rw [hx, abs_zero], by rw [hy, abs_zero]⟩) RoundedAt.abs

theorem eq_zero (h : Fits p 0 y) : y = 0 := by
  rcases h with ⟨-, hy⟩ | hround
  · exact hy
  · exact absurd rfl hround.ne_zero

theorem unique (h : Fits p x y) (h' : Fits p x z) : y = z := by
  rcases h with ⟨rfl, rfl⟩ | hy
  · exact h'.eq_zero.symm
  · rcases h' with ⟨rfl, rfl⟩ | hz
    · exact eq_zero (.inr hy)
    · exact hy.unique hz

/-- There is a rounding of every number. -/
theorem exists_fits (p : ℕ) (x : ℚ) : ∃ y, Fits p x y := by
  by_cases hx : x = 0
  · exact ⟨0, .inl ⟨hx, rfl⟩⟩
  · exact (exists_roundedAt .toEven (fitPlace p) hx).imp fun _ ↦ .inr

/-- A multiple of a place within the range that has few enough digits above it stays as it is. -/
theorem self {q : ℤ} (hx : ∃ i : ℤ, x = i * 10 ^ q) (hsize : |x| < 10 ^ (q + p))
    (hq : minExponent - p + 1 ≤ q) : Fits p x x := by
  by_cases hzero : x = 0
  · exact .inl ⟨hzero, hzero⟩
  · obtain ⟨k, hk⟩ := exists_leadsAt hzero
    have hk' := ten_zpow_lt_iff.1 (hk.1.trans_lt hsize)
    obtain ⟨i, rfl⟩ := hx
    obtain ⟨j, hj⟩ := exists_ten_zpow_eq (by unfold fitPlace lastOf; omega : fitPlace p k ≤ q)
    exact .inr (.self hk ⟨i * j, by rw [hj]; push_cast; ring⟩)

/-- Within the range of exponents a number is fitted to its first digits. -/
theorem roundedAt_iff {k : ℤ} (hk : LeadsAt x k) (hleast : minExponent ≤ k) :
    Fits p x y ↔ RoundedAt .toEven (lastOf p) x y := by
  constructor
  · rintro (⟨rfl, -⟩ | ⟨k', hk', hround⟩)
    · exact absurd rfl hk.ne_zero
    · obtain rfl := hk.unique hk'
      exact ⟨k, hk, by rwa [fitPlace_eq hleast] at hround⟩
  · rintro ⟨k', hk', hround⟩
    obtain rfl := hk.unique hk'
    exact .inr ⟨k, hk, by rwa [fitPlace_eq hleast]⟩

/-- A power of ten within the range stays a lower bound. -/
theorem le_abs (hp : 0 < p) (h : Fits p x y) {m : ℤ} (hm : minExponent - p + 1 ≤ m)
    (hx : 10 ^ m ≤ |x|) : 10 ^ m ≤ |y| := by
  rcases h with ⟨rfl, -⟩ | ⟨k, hk, hround⟩
  · rw [abs_zero] at hx
    exact absurd hx (ten_zpow_pos m).not_ge
  · have hmk := ten_zpow_lt_iff.1 (hx.trans_lt hk.2)
    have hlow : 10 ^ k ≤ |y| := hround.le_abs (by unfold fitPlace lastOf; omega) hk.1
    exact (ten_zpow_le (by omega)).trans hlow

theorem abs_lt (hp : 0 < p) (h : Fits p x y) {m : ℤ} (hm : minExponent - p + 1 ≤ m)
    (hy : |y| < 10 ^ m) : |x| < 10 ^ m :=
  lt_of_not_ge fun hle ↦ hy.not_ge (h.le_abs hp hm hle)

/-- What is fitted stays as it is. -/
theorem eq_of_fits (hp : 0 < p) (h : Fits p x y) (h' : Fits p y z) : z = y := by
  rcases h with ⟨-, rfl⟩ | ⟨k, hk, hround⟩
  · exact h'.eq_zero
  rcases h' with ⟨rfl, rfl⟩ | ⟨k', hk', hround'⟩
  · rfl
  have hstep := ten_zpow_pos (fitPlace p k)
  -- the leading digit stays where it is, or moves to the next place, where the step is no greater
  -- than a power of ten that the number is a multiple of
  have hmultiple : ∃ i : ℤ, y = i * 10 ^ fitPlace p k' := by
    rcases le_or_gt k' k with hle | hgt
    · exact hround.exists_multiple (by unfold fitPlace lastOf; omega)
    · rcases le_or_gt (fitPlace p k) (k + 1) with hplace | hplace
      · have hhigh : |y| ≤ 10 ^ (k + 1) := hround.abs_le hplace hk.2.le
        have hnext : k' = k + 1 := by
          have := ten_zpow_le_iff.1 (hk'.1.trans hhigh)
          omega
        have hy : |y| = 10 ^ (k + 1) := le_antisymm hhigh (hnext ▸ hk'.1)
        obtain ⟨j, hj⟩ := exists_ten_zpow_eq
          (by unfold fitPlace lastOf at *; omega : fitPlace p k' ≤ k + 1)
        rcases abs_choice y with h | h
        · exact ⟨j, by rw [← h, hy, hj]⟩
        · exact ⟨-j, by rw [← neg_neg y, ← h, hy, hj]; push_cast; ring⟩
      · have hzero : Rounded .toEven (10 ^ fitPlace p k) x ((0 : ℤ) * 10 ^ fitPlace p k) := by
          refine .of_near ?_
          have hsmall : |x| < 10 ^ (fitPlace p k - 1) := hk.2.trans_le (ten_zpow_le (by omega))
          have hten : (10 : ℚ) ^ fitPlace p k = 10 ^ (fitPlace p k - 1) * 10 := by
            rw [← zpow_add_one₀ (by norm_num), sub_add_cancel]
          have := ten_zpow_pos (fitPlace p k - 1)
          rw [Int.cast_zero, zero_mul, zero_sub, abs_neg]
          linarith
        exact ⟨0, by rw [hround.unique hstep hzero]; push_cast; ring⟩
  obtain ⟨i, rfl⟩ := hmultiple
  exact hround'.unique (ten_zpow_pos _) (.self (ten_zpow_pos _) _ i)

theorem again (hp : 0 < p) (h : Fits p x y) : Fits p y y := by
  obtain ⟨z, hz⟩ := exists_fits p y
  rwa [h.eq_of_fits hp hz] at hz

end Fits

/-! ### Quotients -/

theorem decimalLength_eq {n k : ℕ} (hlow : 10 ^ k ≤ n) (hhigh : n < 10 ^ (k + 1)) :
    decimalLength n = k + 1 := by
  have hle := decimalLength_le hhigh (Nat.succ_pos k)
  have hlt := (Nat.pow_lt_pow_iff_right (by decide)).1 (hlow.trans_lt (lt_pow_decimalLength n))
  omega

/-- The quotient by a power of ten is found with thirty digits. -/
theorem divide_pow (hc : c ≠ 0) (s : Bool) (e : ℤ) (i : ℕ) (j : ℤ) :
    (finite s c e).divide (10 ^ i) j =
      let places : ℤ := 30 - decimalLength c
      let num := c * 10 ^ places.toNat
      let den := 10 ^ (-places).toNat
      if num % den ≠ 0 then
        fit defaultPrecision s (if num / den % 5 = 0 then num / den + 1 else num / den)
          (e - j - i - places)
      else
        fit defaultPrecision s (stripTens (num / den) (places + i).toNat).1
          (e - j - i - places + (stripTens (num / den) (places + i).toNat).2) := by
  obtain ⟨places, hplaces⟩ : ∃ places : ℤ, places = 30 - decimalLength c := ⟨_, rfl⟩
  have hten : decimalLength (10 ^ i) = i + 1 := 
    decimalLength_eq le_rfl (Nat.pow_lt_pow_right (by decide) (Nat.lt_succ_self i))
  have hexact : ((decimalLength (10 ^ i) : ℤ) - decimalLength c + defaultPrecision + 1) =
      places + i := by
    rw [hten, hplaces, defaultPrecision]
    push_cast
    ring
  -- a common factor changes neither the quotient nor whether it comes out even
  obtain ⟨k, hnum, hden⟩ : ∃ k, c * 10 ^ (places + i).toNat = c * 10 ^ places.toNat * 10 ^ k ∧
      10 ^ i * 10 ^ (-(places + i)).toNat = 10 ^ (-places).toNat * 10 ^ k := by
    refine ⟨(places + i).toNat - places.toNat, ?_, ?_⟩
    · rw [Nat.mul_assoc, ← pow_add]
      congr 2
      omega
    · rw [← pow_add, ← pow_add]
      congr 1
      omega
  have hpos : 0 < 10 ^ k := by positivity
  simp only [divide, if_neg hc, if_neg (show ¬ 10 ^ i = 0 by positivity), hexact, ← hplaces, hnum,
    hden, Nat.mul_div_mul_right _ _ hpos, Nat.mul_mod_mul_right]
  have hiff : c * 10 ^ places.toNat % 10 ^ (-places).toNat * 10 ^ k ≠ 0 ↔
      c * 10 ^ places.toNat % 10 ^ (-places).toNat ≠ 0 := by
    simp
  rw [if_congr hiff rfl rfl, show e - j - (places + i) = e - j - i - places by ring]

/-- A digit that is not a multiple of five keeps a number between the multiples of fifty between
which all numbers with this whole part lie. -/
theorem between_fifties {q : ℕ} {x : ℚ} (hlow : (q : ℚ) < x) (hhigh : x < q + 1) :
    ∃ i : ℕ, ∀ z : ℚ, z = x ∨ z = (if q % 5 = 0 then q + 1 else q : ℕ) →
      (i : ℤ) * ((100 : ℚ) / 2) < z ∧ z < ((i : ℤ) + 1) * (100 / 2) := by
  obtain ⟨q', hq'⟩ : ∃ q', q' = if q % 5 = 0 then q + 1 else q := ⟨_, rfl⟩
  have hbounds : 50 * (q' / 50) ≤ q ∧ q + 1 ≤ 50 * (q' / 50) + 50 ∧
      50 * (q' / 50) + 1 ≤ q' ∧ q' + 1 ≤ 50 * (q' / 50) + 50 := by
    split at hq' <;> omega
  obtain ⟨h₁, h₂, h₃, h₄⟩ := hbounds
  rw [← hq']
  generalize q' / 50 = i at *
  have h₁ : (50 : ℚ) * i ≤ q := by exact_mod_cast h₁
  have h₂ : (q : ℚ) + 1 ≤ 50 * i + 50 := by exact_mod_cast h₂
  have h₃ : (50 : ℚ) * i + 1 ≤ q' := by exact_mod_cast h₃
  have h₄ : (q' : ℚ) + 1 ≤ 50 * i + 50 := by exact_mod_cast h₄
  refine ⟨i, fun z hz ↦ ?_⟩
  push_cast
  rcases hz with rfl | rfl <;> constructor <;> linarith

/-- The quotient by a power of ten that gives up all digits but the first thirty, and what is
rounded in its place, are rounded to one number. -/
theorem exists_rounded_cut (s : Bool) {m : ℕ} (hrest : c % 10 ^ m ≠ 0) (e : ℤ) :
    ∃ y, Rounded .toEven (10 ^ (e + m + 2)) (finite s c e).value y ∧
      Rounded .toEven (10 ^ (e + m + 2))
        (finite s (if c / 10 ^ m % 5 = 0 then c / 10 ^ m + 1 else c / 10 ^ m) (e + m)).value y := by
  have hpow : (0 : ℚ) < (10 ^ m : ℕ) := by positivity
  have hsplit : (c : ℚ) = (10 ^ m : ℕ) * (c / 10 ^ m : ℕ) + (c % 10 ^ m : ℕ) := by
    exact_mod_cast (Nat.div_add_mod c (10 ^ m)).symm
  have hlow : ((c / 10 ^ m : ℕ) : ℚ) < c / (10 ^ m : ℕ) := by
    have : (0 : ℚ) < (c % 10 ^ m : ℕ) := by exact_mod_cast Nat.pos_of_ne_zero hrest
    rw [lt_div_iff₀ hpow]
    linarith
  have hhigh : (c : ℚ) / (10 ^ m : ℕ) < (c / 10 ^ m : ℕ) + 1 := by
    have : ((c % 10 ^ m : ℕ) : ℚ) < (10 ^ m : ℕ) := by
      exact_mod_cast Nat.mod_lt c (by positivity)
    rw [div_lt_iff₀ hpow]
    linarith
  obtain ⟨i, hi⟩ := between_fifties hlow hhigh
  have hstep : (10 : ℚ) ^ (e + m + 2) = 100 * 10 ^ (e + m) := by
    rw [zpow_add₀ (by norm_num)]
    norm_num [mul_comm]
  have hquotient : (c : ℚ) / (10 ^ m : ℕ) * 10 ^ (e + m) = c * 10 ^ e := by
    rw [zpow_add₀ (by norm_num), zpow_natCast]
    push_cast
    field_simp
  have hround (z : ℚ) (hz : z = c / (10 ^ m : ℕ) ∨
      z = (if c / 10 ^ m % 5 = 0 then c / 10 ^ m + 1 else c / 10 ^ m : ℕ)) :
      Rounded .toEven (10 ^ (e + m + 2)) (z * 10 ^ (e + m))
        ((((i : ℤ) + 1) / 2 : ℤ) * 100 * 10 ^ (e + m)) := by
    rw [hstep]
    exact (rounded_between (hi z hz).1 (hi z hz).2).mul_right (ten_zpow_pos _)
  have hexact := hround _ (.inl rfl)
  rw [hquotient] at hexact
  rw [value_finite, value_finite]
  cases s
  · exact ⟨_, hexact, hround _ (.inr rfl)⟩
  · exact ⟨_, hexact.neg, (hround _ (.inr rfl)).neg⟩

/-- The number that is rounded in place of a long quotient has thirty digits, too. -/
theorem length_cut {m : ℕ} (hc : c ≠ 0) (hlen : decimalLength c = m + 30) :
    (if c / 10 ^ m % 5 = 0 then c / 10 ^ m + 1 else c / 10 ^ m) ≠ 0 ∧
      decimalLength (if c / 10 ^ m % 5 = 0 then c / 10 ^ m + 1 else c / 10 ^ m) = 30 := by
  have hquotient : 10 ^ 29 ≤ c / 10 ^ m ∧ c / 10 ^ m < 10 ^ 30 := by
    have hlow := pow_decimalLength_le hc
    have hhigh := lt_pow_decimalLength c
    rw [hlen, pow_add] at hlow hhigh
    rw [Nat.le_div_iff_mul_le (by positivity), Nat.div_lt_iff_lt_mul (by positivity)]
    omega
  refine ⟨by split <;> omega, decimalLength_eq ?_ ?_⟩ <;> split <;> omega

/-- What is cut off a long quotient does not change what it is rounded to. -/
theorem roundedAt_cut {m : ℕ} (hlen : decimalLength c = m + 30) (hrest : c % 10 ^ m ≠ 0)
    (h : RoundedAt .toEven (lastOf 28)
      (finite s (if c / 10 ^ m % 5 = 0 then c / 10 ^ m + 1 else c / 10 ^ m) (e + m)).value y) :
    RoundedAt .toEven (lastOf 28) (finite s c e).value y := by
  have hc : c ≠ 0 := by
    rintro rfl
    exact hrest (Nat.zero_mod _)
  obtain ⟨y', hexact, hcut⟩ := exists_rounded_cut s hrest e
  obtain ⟨hne, hlength⟩ := length_cut hc hlen
  obtain ⟨k, hk, hround⟩ := h
  obtain rfl : k = e + m + 29 := by
    refine hk.unique ?_
    have hlead := leadsAt hne s (e + m)
    rwa [hlength, show e + m + (30 : ℕ) - 1 = e + m + 29 by omega] at hlead
  have hlast : lastOf 28 (e + m + 29) = e + m + 2 := by
    rw [lastOf]
    omega
  have hlead := leadsAt hc s e
  rw [hlen, show e + (m + 30 : ℕ) - 1 = e + m + 29 by omega] at hlead
  refine ⟨_, hlead, ?_⟩
  rw [hlast] at hround ⊢
  rwa [hround.unique (ten_zpow_pos _) hcut]

/-- Zeros at the end of a coefficient can go into the exponent. -/
theorem value_stripTens (s : Bool) (c limit : ℕ) (e : ℤ) :
    (finite s (stripTens c limit).1 (e + (stripTens c limit).2)).value = (finite s c e).value := by
  refine value_congr ?_
  conv_rhs => rw [stripTens_eq c limit, cast_mul_pow]

theorem stripTens_ne_zero (hc : c ≠ 0) (limit : ℕ) : (stripTens c limit).1 ≠ 0 := by
  intro h
  have := stripTens_eq c limit
  rw [h, Nat.zero_mul] at this
  exact hc this

theorem decimalLength_stripTens (hc : c ≠ 0) (limit : ℕ) :
    decimalLength (stripTens c limit).1 + (stripTens c limit).2 = decimalLength c := by
  conv_rhs => rw [stripTens_eq c limit, decimalLength_mul_pow (stripTens_ne_zero hc limit)]

theorem fit_stripTens (hc : c ≠ 0) (hleast : minExponent ≤ e + decimalLength c - 1)
    (hmost : e + decimalLength c ≤ maxExponent) (s : Bool) (limit : ℕ) :
    ∃ c' e', fit 28 s (stripTens c limit).1 (e + (stripTens c limit).2) = .ok (finite s c' e') ∧
      c' < 10 ^ 28 ∧ RoundedAt .toEven (lastOf 28) (finite s c e).value (finite s c' e').value := by
  have hlen := decimalLength_stripTens hc limit
  rw [← value_stripTens s c limit e]
  exact fit_normal (by decide) (stripTens_ne_zero hc limit) (by omega) (by omega) s

/-- The quotient of a number by a power of ten is the exact one, rounded to the working
precision. -/
theorem divide_ten (hc : c ≠ 0) {i : ℕ} {j : ℤ}
    (hleast : minExponent ≤ e - j - i + decimalLength c - 1)
    (hmost : e - j - i + decimalLength c ≤ maxExponent) (s : Bool) :
    ∃ c' e', (finite s c e).divide (10 ^ i) j = .ok (finite s c' e') ∧ c' < 10 ^ 28 ∧
      RoundedAt .toEven (lastOf 28) ((finite s c e).value * 10 ^ (-j - i))
        (finite s c' e').value := by
  rw [divide_pow hc, value_mul_ten_zpow, show e + (-j - i) = e - j - i by ring]
  dsimp only
  rcases le_total (decimalLength c) 30 with hshort | hlong
  · -- the quotient is written with thirty digits and comes out even
    obtain ⟨n, hn⟩ : ∃ n : ℕ, 30 - (decimalLength c : ℤ) = n := ⟨30 - decimalLength c, by omega⟩
    have hlen := decimalLength_mul_pow hc n
    rw [hn, Int.toNat_natCast, show (-(n : ℤ)).toNat = 0 by omega, pow_zero, Nat.mod_one,
      if_neg (not_not.2 rfl), Nat.div_one]
    have hfit := fit_stripTens (c := c * 10 ^ n) (e := e - j - i - n)
      (Nat.mul_ne_zero hc (by positivity)) (by omega) (by omega) s (n + i : ℤ).toNat
    have hvalue : (finite s (c * 10 ^ n) (e - j - i - n)).value =
        (finite s c (e - j - i)).value := by
      refine value_congr ?_
      rw [cast_mul_pow]
      congr 2
      omega
    rwa [hvalue] at hfit
  · obtain ⟨m, hm⟩ : ∃ m : ℕ, decimalLength c = m + 30 := ⟨decimalLength c - 30, by omega⟩
    rw [show 30 - (decimalLength c : ℤ) = -m by omega, neg_neg, Int.toNat_natCast,
      show (-(m : ℤ)).toNat = 0 by omega, pow_zero, Nat.mul_one, sub_neg_eq_add]
    by_cases hrest : c % 10 ^ m = 0
    · have hquotient : c = c / 10 ^ m * 10 ^ m :=
        (Nat.div_mul_cancel (Nat.dvd_of_mod_eq_zero hrest)).symm
      have hne : c / 10 ^ m ≠ 0 := by
        intro h
        rw [h, Nat.zero_mul] at hquotient
        exact hc hquotient
      have hlen := decimalLength_mul_pow hne m
      rw [← hquotient] at hlen
      have hvalue : (finite s (c / 10 ^ m) (e - j - i + m)).value =
          (finite s c (e - j - i)).value := by
        refine value_congr ?_
        conv_rhs => rw [hquotient, cast_mul_pow]
      rw [if_neg (not_not.2 hrest), ← hvalue]
      exact fit_stripTens hne (by omega) (by omega) s _
    · rw [if_pos hrest]
      obtain ⟨hne, hlen⟩ := length_cut hc hm
      obtain ⟨c', e', hfit, hc', hround⟩ :=
        fit_normal (p := 28) (e := e - j - i + m) (by decide) hne
        (by omega) (by omega) s
      exact ⟨c', e', hfit, hc', roundedAt_cut hm hrest hround⟩

/-! ### Absolute values and normal forms -/

/-- The absolute value of a number is that of the number fitted to the working precision. -/
theorem abs_sound {f : ℚ} (hf : Fits 28 (finite s c e).value f) {d : Decimal}
    (h : (finite s c e).abs = .ok d) :
    ∃ c' e', d = finite false c' e' ∧ (finite false c' e').value = |f| := by
  obtain ⟨c', e', rfl, -, hfits⟩ := fit_sound (by decide) h
  have hsize : (finite false c e).value = |(finite s c e).value| := by
    rw [abs_value, value_finite]
    rfl
  rw [hsize] at hfits
  exact ⟨c', e', rfl, hfits.unique hf.abs⟩

theorem exists_abs {f : ℚ} (hf : Fits 28 (finite s c e).value f) (hsize : |f| < 10 ^ maxExponent) :
    ∃ c' e', (finite s c e).abs = .ok (finite false c' e') ∧
      (finite false c' e').value = |f| := by
  have hlt : |(finite false c e).value| < 10 ^ maxExponent := by
    rw [show |(finite false c e).value| = |(finite s c e).value| by rw [abs_value, abs_value]]
    exact hf.abs_lt (by decide) (by decide) hsize
  obtain ⟨d, hd⟩ := exists_fit defaultPrecision hlt
  obtain ⟨c', e', rfl, hvalue⟩ := abs_sound (s := s) hf hd
  exact ⟨c', e', hd, hvalue⟩

/-- A number is brought into normal form by fitting it and leaving out the zeros at its end. -/
theorem normalize_sound {d : Decimal} (h : (finite false c e).normalize = .ok d) :
    ∃ c' e', d = finite false c' e' ∧ c' < 10 ^ 28 ∧ minExponent - 27 ≤ e' ∧
      Fits 28 (finite false c e).value d.value := by
  unfold normalize at h
  cases hfit : fit defaultPrecision false c e with
  | error f => simp [hfit] at h
  | ok d' =>
    obtain ⟨c', e', rfl, hdigits, hfits⟩ := fit_sound (by decide) hfit
    have hleast : minExponent - (28 : ℕ) + 1 ≤ e' := least_le_of_fit hfit
    simp only [hfit] at h
    by_cases hc : c' = 0
    · rw [if_pos hc] at h
      obtain rfl := Except.ok.inj h
      exact ⟨0, 0, rfl, by decide, by decide, by rwa [value_zero, ← value_zero false e', ← hc]⟩
    · rw [if_neg hc] at h
      obtain rfl := Except.ok.inj h
      have hle : (stripTens c' (decimalLength c')).1 ≤ c' := by
        conv_rhs => rw [stripTens_eq c' (decimalLength c')]
        exact Nat.le_mul_of_pos_right _ (by positivity)
      exact ⟨_, _, rfl, hle.trans_lt hdigits, by push_cast at hleast ⊢; omega,
        by rwa [value_stripTens]⟩

theorem exists_normalize (h : |(finite false c e).value| < 10 ^ maxExponent) :
    ∃ d, (finite false c e).normalize = .ok d := by
  obtain ⟨d, hfit⟩ := exists_fit defaultPrecision h
  obtain ⟨c', e', rfl, -⟩ := fit_sound (by decide) hfit
  simp only [normalize, hfit]
  split <;> exact ⟨_, rfl⟩

/-! ### Comparisons -/

theorem mul_zpow_lt_iff {low : ℤ} (h : low ≤ e) (h' : low ≤ e') :
    (c : ℚ) * 10 ^ e < c' * 10 ^ e' ↔ c * 10 ^ (e - low).toNat < c' * 10 ^ (e' - low).toNat := by
  have hscale (c : ℕ) {k : ℤ} (hk : low ≤ k) :
      (c : ℚ) * 10 ^ k = (c * 10 ^ (k - low).toNat : ℕ) * 10 ^ low := by
    rw [cast_mul_pow]
    congr 2
    omega
  rw [hscale c h, hscale c' h', mul_lt_mul_iff_left₀ (ten_zpow_pos low)]
  exact_mod_cast Iff.rfl

/-- A number with its leading digit at a lower place is smaller in size. -/
theorem size_lt_of_lead_lt (hc' : c' ≠ 0) (h : e + decimalLength c < e' + decimalLength c') :
    (c : ℚ) * 10 ^ e < c' * 10 ^ e' := by
  have hlow := abs_value_lt (s := false) (e := e) (lt_pow_decimalLength c)
  have hhigh := (leadsAt hc' false e').1
  rw [abs_value] at hlow hhigh
  exact hlow.trans_le ((ten_zpow_le (by omega)).trans hhigh)

theorem compareMagnitudes_lt_iff :
    compareMagnitudes c e c' e' = .lt ↔ (c : ℚ) * 10 ^ e < c' * 10 ^ e' := by
  unfold compareMagnitudes
  have hpos (c : ℕ) (e : ℤ) (hc : c ≠ 0) : 0 < (c : ℚ) * 10 ^ e := by positivity
  by_cases hc : c = 0
  · subst hc
    rw [if_pos rfl, Nat.cast_zero, zero_mul]
    by_cases hc' : c' = 0
    · simp [hc']
    · simp only [if_neg hc', true_iff]
      exact hpos c' e' hc'
  · rw [if_neg hc]
    by_cases hc' : c' = 0
    · rw [if_pos hc', hc', Nat.cast_zero, zero_mul]
      exact iff_of_false (by decide) (hpos c e hc).not_gt
    · rw [if_neg hc']
      dsimp only
      split
      · rename_i hlt
        exact iff_of_true rfl (size_lt_of_lead_lt hc' hlt)
      · split
        · rename_i hgt
          exact iff_of_false (by decide) (size_lt_of_lead_lt hc hgt).not_gt
        · rw [mul_zpow_lt_iff (min_le_left e e') (min_le_right e e')]
          exact Nat.compare_eq_lt

/-- Numbers compare by value. -/
theorem compare?_lt_iff :
    compare? (finite s c e) (finite t c' e') = some .lt ↔
      (finite s c e).value < (finite t c' e').value := by
  have hpos (c : ℕ) (e : ℤ) (hc : c ≠ 0) : 0 < (c : ℚ) * 10 ^ e := by positivity
  unfold compare?
  dsimp only
  rw [Option.some.injEq]
  by_cases hc : c = 0
  · subst hc
    rw [value_zero]
    by_cases hc' : c' = 0
    · simp [hc']
    · have := hpos c' e' hc'
      rw [value_finite]
      cases t <;> simp [hc', this, this.le]
  · have hsize := hpos c e hc
    by_cases hc' : c' = 0
    · subst hc'
      rw [value_zero, value_finite]
      cases s <;> simp [hc, hsize, hsize.le]
    · have hsize' := hpos c' e' hc'
      rw [if_neg fun h ↦ hc h.1, if_neg hc, if_neg hc', value_finite, value_finite]
      cases s <;> cases t
      · exact compareMagnitudes_lt_iff
      · exact iff_of_false Ordering.noConfusion (by simp; linarith)
      · exact iff_of_true rfl (by simp; linarith)
      · simp only [if_true, neg_lt_neg_iff]
        exact compareMagnitudes_lt_iff

/-- So do a number and a whole number. -/
theorem compare?_natCast_lt_iff (s : Bool) (c : ℕ) (e : ℤ) (n : ℕ) :
    (finite s c e).compare? (.ofInt n) = some .lt ↔ (finite s c e).value < n := by
  have hn : ofInt n = .finite false n 0 := by simp [ofInt]
  rw [hn, compare?_lt_iff]
  simp [value]

theorem lessThan_finite (s : Bool) (c : ℕ) (e : ℤ) (n : ℕ) :
    (finite s c e).lessThan n = .ok (decide ((finite s c e).value < n)) := by
  have hiff := compare?_natCast_lt_iff s c e n
  obtain ⟨o, ho⟩ : ∃ o, (finite s c e).compare? (.ofInt n) = some o := ⟨_, rfl⟩
  rw [lessThan]
  rw [ho] at hiff ⊢
  refine congrArg Except.ok ?_
  rw [Option.some.injEq] at hiff
  simp only [← hiff]
  cases o <;> rfl

end Decimal

end Phrasebook
