import Mathlib.Data.Rat.Floor
import Phrasebook.Proofs.NearestMultiples
import Phrasebook.Proofs.WholeDoubles

/-!
The double nearest to a fraction.

Around a positive number the doubles are the multiples of one power of two, the least of which the
number has at most 53 bits (`Binary64.Spaced`). The double made of a quotient is the nearest of
these multiples (`Binary64.exists_ofQuotient`), so rounding to a double does not pass a multiple of
any such power (`Binary64.exists_rounded_ofFraction`, `Binary64.exists_rounded_add`).
-/

set_option autoImplicit false

namespace Phrasebook

namespace Arithmetic.Rounded

variable {tie : Tie} {x y : ℚ} {e g k : ℤ}

theorem exists_finer (h : e ≤ g) (k : ℤ) : ∃ i : ℤ, (k : ℚ) * 2 ^ g = i * 2 ^ e := by
  refine ⟨k * 2 ^ (g - e).toNat, ?_⟩
  push_cast
  rw [mul_assoc, ← zpow_natCast, ← zpow_add₀ two_ne_zero]
  congr 2
  omega

/-- Rounding to a multiple of a power of two does not rise above a multiple of a larger one. -/
theorem le_multiple_of_le (h : Rounded tie (2 ^ e) x y) (hg : e ≤ g) (hx : x ≤ k * 2 ^ g) :
    y ≤ k * 2 ^ g := by
  obtain ⟨i, hi⟩ := exists_finer hg k
  rw [hi] at hx ⊢
  exact h.le_multiple (by positivity) hx

/-- Rounding to a multiple of a power of two does not fall below a multiple of a larger one. -/
theorem multiple_le_of_le (h : Rounded tie (2 ^ e) x y) (hg : e ≤ g) (hx : k * 2 ^ g ≤ x) :
    k * 2 ^ g ≤ y := by
  obtain ⟨i, hi⟩ := exists_finer hg k
  rw [hi] at hx ⊢
  exact h.multiple_le (by positivity) hx

end Arithmetic.Rounded

namespace Binary64

open Arithmetic

/-! ### The spacing of the doubles -/

/-- The doubles around the positive number `x` are the multiples of `2 ^ e`. -/
structure Spaced (x : ℚ) (e : ℤ) : Prop where
  least_le : -1074 ≤ e
  lt : x < 2 ^ 53 * 2 ^ e
  le_or : 2 ^ 52 * 2 ^ e ≤ x ∨ e = -1074

namespace Spaced

variable {x : ℚ} {e e' g : ℤ}

/-- The spacing is at most that of any power of two of which the number has 53 bits. -/
theorem le (h : Spaced x e) (hg : -1074 ≤ g) (hx : x < 2 ^ 53 * 2 ^ g) : e ≤ g := by
  rcases h.le_or with hle | rfl
  · have hlt : (2 : ℚ) ^ (52 + e) < 2 ^ (53 + g) := by
      rw [zpow_add₀ two_ne_zero, zpow_add₀ two_ne_zero]
      exact hle.trans_lt hx
    rw [zpow_lt_zpow_iff_right₀ one_lt_two] at hlt
    omega
  · exact hg

theorem unique (h : Spaced x e) (h' : Spaced x e') : e = e' :=
  le_antisymm (h.le h'.least_le h'.lt) (h'.le h.least_le h.lt)

end Spaced

section Canonical

variable {m : ℕ} {e : ℤ}

/-- A double lies among the doubles around it. -/
theorem Canonical.spaced (h : Canonical m e) : Spaced (m * 2 ^ e) e := by
  have hpow : (0 : ℚ) < 2 ^ e := by positivity
  refine ⟨h.2.1, mul_lt_mul_of_pos_right (by exact_mod_cast h.1) hpow,
    h.2.2.2.imp_left fun hle ↦ ?_⟩
  exact mul_le_mul_of_nonneg_right (by exact_mod_cast hle) hpow.le

theorem Spaced.canonical (h : Spaced (m * 2 ^ e) e) (he : e ≤ 971) : Canonical m e := by
  have hpow : (0 : ℚ) < 2 ^ e := by positivity
  refine ⟨?_, h.least_le, he, h.le_or.imp_left fun hle ↦ ?_⟩
  · exact_mod_cast lt_of_mul_lt_mul_right h.lt hpow.le
  · exact_mod_cast le_of_mul_le_mul_right hle hpow

end Canonical

/-! ### The double nearest to a quotient -/

section Quotients

variable {n d : ℕ}

theorem cast_scaled (a : ℕ) (e : ℤ) :
    (((scaled a e).1 : ℕ) : ℚ) = a * 2 ^ e * ((scaled a e).2 : ℕ) := by
  simp only [scaled]
  push_cast
  rw [mul_assoc, zpow_mul_pow_toNat two_ne_zero]

theorem scaled_snd_pos (a : ℕ) (e : ℤ) : 0 < (scaled a e).2 := by
  simp only [scaled]
  positivity

/-- A quotient as a multiple of a power of two, which is taken to the side where it is whole. -/
theorem scaled_div (n d : ℕ) (g : ℤ) :
    ((scaled n (-g)).1 : ℚ) / ((scaled n (-g)).2 * d : ℕ) = n / d / 2 ^ g := by
  have hpos : ((scaled n (-g)).2 : ℚ) ≠ 0 := by exact_mod_cast (scaled_snd_pos n (-g)).ne'
  rw [Nat.cast_mul, cast_scaled, zpow_neg, mul_comm, mul_div_mul_left _ _ hpos, div_right_comm,
    div_eq_mul_inv (n : ℚ)]

/-- The bits of a quotient, up to one of them. -/
theorem zpow_le_div (hn : n ≠ 0) (hd : 0 < d) :
    (2 : ℚ) ^ ((n.log2 : ℤ) - d.log2 - 1) ≤ n / d ∧
      (n : ℚ) / d < 2 ^ ((n.log2 : ℤ) - d.log2 + 1) := by
  have hd' : (0 : ℚ) < d := by exact_mod_cast hd
  have hsplit (i j : ℕ) : (2 : ℚ) ^ ((i : ℤ) - j) * 2 ^ j = 2 ^ i := by
    rw [← zpow_natCast, ← zpow_natCast, ← zpow_add₀ two_ne_zero, sub_add_cancel]
  constructor
  · have hnum : (2 : ℚ) ^ n.log2 ≤ n := by exact_mod_cast Nat.log2_self_le hn
    have hden : (d : ℚ) ≤ 2 ^ (d.log2 + 1) := by exact_mod_cast Nat.lt_log2_self.le
    rw [le_div_iff₀ hd', sub_sub]
    refine (mul_le_mul_of_nonneg_left hden (by positivity)).trans ?_
    rw [← Nat.cast_succ, hsplit]
    exact hnum
  · have hnum : (n : ℚ) < 2 ^ (n.log2 + 1) := by exact_mod_cast Nat.lt_log2_self
    have hden : (2 : ℚ) ^ d.log2 ≤ d := by exact_mod_cast Nat.log2_self_le hd.ne'
    rw [div_lt_iff₀ hd', sub_add_eq_add_sub]
    refine lt_of_lt_of_le ?_ (mul_le_mul_of_nonneg_left hden (by positivity))
    rw [← Nat.cast_succ, hsplit]
    exact hnum

/-- The exponent of a quotient is that of the doubles around it. -/
theorem spaced_exponentOf (hn : n ≠ 0) (hd : 0 < d) : Spaced ((n : ℚ) / d) (exponentOf n d) := by
  obtain ⟨hlow, hhigh⟩ := zpow_le_div hn hd
  obtain ⟨g, hg⟩ : ∃ g : ℤ, g = (n.log2 : ℤ) - d.log2 - 52 := ⟨_, rfl⟩
  have hden : 0 < (scaled n (-g)).2 * d := Nat.mul_pos (scaled_snd_pos n (-g)) hd
  have htest : (scaled n (-g)).1 < 2 ^ 52 * ((scaled n (-g)).2 * d) ↔
      (n : ℚ) / d < 2 ^ 52 * 2 ^ g := by
    rw [← div_lt_iff₀ (by positivity), ← scaled_div, div_lt_iff₀ (by exact_mod_cast hden)]
    exact_mod_cast Iff.rfl
  have hexponent : exponentOf n d =
      max (-1074) (if (n : ℚ) / d < 2 ^ 52 * 2 ^ g then g - 1 else g) := by
    rw [exponentOf, ← hg]
    simp only [htest]
  have hpow (i k : ℤ) : (2 : ℚ) ^ (i + k) = 2 ^ i * 2 ^ k := zpow_add₀ two_ne_zero i k
  -- before the least exponent is looked at
  obtain ⟨f, hf, hflow, hfhigh⟩ : ∃ f, exponentOf n d = max (-1074) f ∧
      (2 : ℚ) ^ 52 * 2 ^ f ≤ n / d ∧ (n : ℚ) / d < 2 ^ 53 * 2 ^ f := by
    by_cases htop : (n : ℚ) / d < 2 ^ 52 * 2 ^ g
    · rw [if_pos htop] at hexponent
      refine ⟨g - 1, hexponent, ?_, ?_⟩
      · rw [show (n.log2 : ℤ) - d.log2 - 1 = 52 + (g - 1) by omega, hpow] at hlow
        exact_mod_cast hlow
      · rw [show g = 1 + (g - 1) by omega, hpow] at htop
        linarith
    · rw [if_neg htop] at hexponent
      refine ⟨g, hexponent, not_lt.1 htop, ?_⟩
      rw [show (n.log2 : ℤ) - d.log2 + 1 = 53 + g by omega, hpow] at hhigh
      exact_mod_cast hhigh
  rw [hf]
  rcases le_total (-1074) f with hle | hle
  · rw [max_eq_right hle]
    exact ⟨hle, hfhigh, .inl hflow⟩
  · rw [max_eq_left hle]
    refine ⟨le_rfl, hfhigh.trans_le ?_, .inr rfl⟩
    exact mul_le_mul_of_nonneg_left (zpow_le_zpow_right₀ one_le_two hle) (by positivity)

/-- The double made of a quotient is the nearest multiple of the spacing around it, as long as this
is a double. -/
theorem exists_ofQuotient (s : Bool) (hn : n ≠ 0) (hd : 0 < d) :
    ∃ (m : ℕ) (e e' : ℤ), Spaced ((n : ℚ) / d) e ∧
      Rounded .toEven (2 ^ e) ((n : ℚ) / d) (m * 2 ^ e') ∧
      Spaced (m * 2 ^ e') e' ∧ e' ≤ e + 1 ∧ ofQuotient s n d = ofParts s m e' := by
  have hspaced := spaced_exponentOf hn hd
  have hden := Nat.mul_pos (scaled_snd_pos n (-exponentOf n d)) hd
  have hround := (rounded_roundQuotient .toEven (scaled n (-exponentOf n d)).1 hden).mul_right
    (zpow_pos two_pos (exponentOf n d) : (0 : ℚ) < _)
  have hquotient : ofQuotient s n d = if roundQuotient .toEven (scaled n (-exponentOf n d)).1
      ((scaled n (-exponentOf n d)).2 * d) = 2 ^ 53 then ofParts s (2 ^ 52) (exponentOf n d + 1)
      else ofParts s (roundQuotient .toEven (scaled n (-exponentOf n d)).1
        ((scaled n (-exponentOf n d)).2 * d)) (exponentOf n d) := by
    rw [ofQuotient, if_neg hn]
  rw [scaled_div, one_mul, div_mul_cancel₀ _ (by positivity)] at hround
  generalize roundQuotient .toEven _ _ = m at hround hquotient
  generalize exponentOf n d = e at *
  have hpow : (0 : ℚ) < 2 ^ e := by positivity
  by_cases hm : m = 2 ^ 53
  · -- the significand has one bit too many, and loses it
    have hshift : (2 ^ 53 : ℕ) * (2 : ℚ) ^ e = (2 ^ 52 : ℕ) * 2 ^ (e + 1) := by
      rw [zpow_add_one₀ two_ne_zero]
      push_cast
      ring
    rw [hm, hshift] at hround
    rw [if_pos hm] at hquotient
    refine ⟨2 ^ 52, e, e + 1, hspaced, hround, ⟨by linarith [hspaced.least_le], ?_, .inl ?_⟩,
      le_rfl, hquotient⟩
    · push_cast
      exact mul_lt_mul_of_pos_right (by norm_num) (by positivity)
    · push_cast
      exact le_rfl
  · rw [if_neg hm] at hquotient
    have hle : (m : ℚ) * 2 ^ e ≤ ((2 ^ 53 : ℤ) : ℚ) * 2 ^ e :=
      hround.le_multiple hpow (by exact_mod_cast hspaced.lt.le)
    have hlt : m < 2 ^ 53 := lt_of_le_of_ne (by exact_mod_cast le_of_mul_le_mul_right hle hpow) hm
    refine ⟨m, e, e, hspaced, hround, ⟨hspaced.least_le, ?_, hspaced.le_or.imp_left fun hlow ↦ ?_⟩,
      by omega, hquotient⟩
    · exact mul_lt_mul_of_pos_right (by exact_mod_cast hlt) hpow
    · have hlow := hround.multiple_le (k := 2 ^ 52) hpow (by exact_mod_cast hlow)
      exact_mod_cast hlow

/-- A quotient makes the double that is its nearest multiple of the spacing around it. -/
theorem ofQuotient_eq_finite {m : ℕ} {e g : ℤ} (h : Canonical m e) (s : Bool) (hn : n ≠ 0)
    (hd : 0 < d) (hspaced : Spaced ((n : ℚ) / d) g)
    (hround : Rounded .toEven (2 ^ g) ((n : ℚ) / d) (m * 2 ^ e)) :
    ofQuotient s n d = finite s m e h := by
  obtain ⟨m', f, f', hspaced', hround', hvalue, -, hquotient⟩ := exists_ofQuotient s hn hd
  obtain rfl := hspaced'.unique hspaced
  rw [hround'.unique (by positivity) hround] at hvalue
  obtain rfl := hvalue.unique h.spaced
  have hm : m' = m := by
    have hpow : (2 : ℚ) ^ f' ≠ 0 := by positivity
    exact_mod_cast mul_right_cancel₀ hpow (hround'.unique (by positivity) hround)
  rw [hquotient, hm, ofParts, dif_pos h]

/-- A quotient below `2 ^ 53` steps is rounded to a multiple of no longer steps. -/
theorem exists_rounded_ofFraction {n : ℤ} {g : ℤ} (zeroSign : Bool) (hd : 0 < d) (hg : -1074 ≤ g)
    (hg' : g ≤ 970) (hlt : |(n : ℚ) / d| < 2 ^ 53 * 2 ^ g) :
    (ofFraction zeroSign n d).isFinite = true ∧
      ∃ e ≤ g, Rounded .toEven (2 ^ e) ((n : ℚ) / d) (ofFraction zeroSign n d).value := by
  by_cases hn : n = 0
  · refine ⟨by simp [ofFraction, ofQuotient, hn, zero, isFinite], g, le_rfl, ?_⟩
    have hzero : (ofFraction zeroSign n d).value = 0 := by
      simp [ofFraction, ofQuotient, hn, zero, value]
    rw [hzero, hn]
    simpa using Rounded.self (zpow_pos two_pos g) .toEven 0
  · have habs : |(n : ℚ) / d| = (n.natAbs : ℚ) / d := by
      rw [abs_div, Nat.abs_cast, Nat.cast_natAbs, Int.cast_abs]
    obtain ⟨m, e, e', hspaced, hround, hvalue, hle, hquotient⟩ :=
      exists_ofQuotient (decide (n < 0)) (Int.natAbs_ne_zero.2 hn) hd
    rw [habs] at hlt
    have heg := hspaced.le hg hlt
    rw [ofFraction, if_neg hn, hquotient, ofParts, dif_pos (hvalue.canonical (by omega))]
    refine ⟨rfl, e, heg, ?_⟩
    rw [← habs] at hround
    by_cases hsign : n < 0
    · have hneg : (n : ℚ) / d ≤ 0 := div_nonpos_of_nonpos_of_nonneg (by exact_mod_cast hsign.le)
        (by positivity)
      rw [abs_of_nonpos hneg] at hround
      simpa [value, hsign] using hround.neg
    · have hpos : 0 ≤ (n : ℚ) / d := div_nonneg (by exact_mod_cast not_lt.1 hsign) (by positivity)
      rw [abs_of_nonneg hpos] at hround
      simpa [value, hsign] using hround

end Quotients

/-! ### Sums and whole parts -/

section Finite

variable {x y : Binary64} {g : ℤ}

theorem exists_quotient? (hx : x.isFinite = true) :
    ∃ (a : ℤ) (d : ℕ), x.quotient? = some (a, d) ∧ 0 < d ∧ (a : ℚ) / d = x.value := by
  cases x with
  | nan | infinite => cases hx
  | finite s m e h =>
    obtain ⟨a, d, hquotient, hd, ha⟩ := quotient?_finite s m e h
    refine ⟨a, d, hquotient, hd, ?_⟩
    rw [ha, mul_div_cancel_right₀ _ (by positivity)]

/-- A sum below `2 ^ 53` steps is rounded to a multiple of no longer steps. -/
theorem exists_rounded_add (hx : x.isFinite = true) (hy : y.isFinite = true) (hg : -1074 ≤ g)
    (hg' : g ≤ 970) (hlt : |x.value + y.value| < 2 ^ 53 * 2 ^ g) :
    (x.add y).isFinite = true ∧
      ∃ e ≤ g, Rounded .toEven (2 ^ e) (x.value + y.value) (x.add y).value := by
  obtain ⟨a, b, hxq, hb, hxv⟩ := exists_quotient? hx
  obtain ⟨c, d, hyq, hd, hyv⟩ := exists_quotient? hy
  have hsum : x.add y = ofFraction (x.isNegative && y.isNegative) (a * d + c * b) (b * d) := by
    cases x with
    | nan | infinite => cases hx
    | finite s m e _ =>
      cases y with
      | nan | infinite => cases hy
      | finite t m' e' _ =>
        unfold add
        simp only [hxq, hyq]
  have hvalue : ((a * d + c * b : ℤ) : ℚ) / (b * d : ℕ) = x.value + y.value := by
    rw [← hxv, ← hyv, div_add_div _ _ (by positivity) (by positivity)]
    push_cast
    rw [mul_comm (c : ℚ)]
  rw [hsum, ← hvalue]
  rw [← hvalue] at hlt
  exact exists_rounded_ofFraction _ (Nat.mul_pos hb hd) hg hg' hlt

/-- The whole number below a finite double. -/
theorem floor?_eq (hx : x.isFinite = true) : x.floor? = some ⌊x.value⌋ := by
  obtain ⟨a, d, hquotient, hd, hvalue⟩ := exists_quotient? hx
  rw [floor?, hquotient, ← hvalue, Rat.floor_intCast_div_natCast]
  exact congrArg some (Int.fdiv_eq_ediv_of_nonneg a (by positivity))

end Finite

end Binary64

end Phrasebook
