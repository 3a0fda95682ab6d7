import Mathlib.Algebra.Order.Archimedean.Basic
import Phrasebook.Proofs.NearestMultiples

/-!
Rounding to a place that depends on where a number begins.

`LeadsAt x k` says that the leading digit of `x` counts `10 ^ k`. A number can be rounded to a
number of digits, or to the digits that compact notation shows: to a place that its leading digit
determines (`RoundedAt`). Such a rounding has a step that jumps where numbers get longer, and it
keeps their order all the same, since it never leaves the powers of ten between which a number lies
(`RoundedAt.bounds`, `RoundedAt.mono`). What it has rounded it leaves alone (`RoundedAt.again`).
-/

set_option autoImplicit false

namespace Phrasebook.Arithmetic

/-- The leading digit of the number counts `10 ^ k`. -/
def LeadsAt (x : ℚ) (k : ℤ) : Prop :=
  10 ^ k ≤ |x| ∧ |x| < 10 ^ (k + 1)

/-- The number is rounded to the place that belongs to its leading one. -/
def RoundedAt (tie : Tie) (place : ℤ → ℤ) (x y : ℚ) : Prop :=
  ∃ k, LeadsAt x k ∧ Rounded tie (10 ^ place k) x y

theorem ten_zpow_pos (k : ℤ) : (0 : ℚ) < 10 ^ k := by
  positivity

theorem ten_zpow_le {k l : ℤ} (h : k ≤ l) : (10 : ℚ) ^ k ≤ 10 ^ l :=
  zpow_le_zpow_right₀ (by norm_num) h

theorem ten_zpow_lt_iff {k l : ℤ} : (10 : ℚ) ^ k < 10 ^ l ↔ k < l :=
  zpow_lt_zpow_iff_right₀ (by norm_num)

theorem ten_zpow_le_iff {k l : ℤ} : (10 : ℚ) ^ k ≤ 10 ^ l ↔ k ≤ l :=
  zpow_le_zpow_iff_right₀ (by norm_num)

/-- A power of ten is a multiple of every lower one. -/
theorem exists_ten_zpow_eq {k l : ℤ} (h : l ≤ k) : ∃ i : ℤ, (10 : ℚ) ^ k = i * 10 ^ l := by
  refine ⟨10 ^ (k - l).toNat, ?_⟩
  push_cast
  rw [← zpow_natCast, ← zpow_add₀ (by norm_num)]
  congr 1
  omega

/-- Rounding to a place commutes with powers of ten. -/
theorem Rounded.mul_ten_zpow {tie : Tie} {x y : ℚ} {k : ℤ} (h : Rounded tie (10 ^ k) x y) (j : ℤ) :
    Rounded tie (10 ^ (k + j)) (x * 10 ^ j) (y * 10 ^ j) := by
  rw [zpow_add₀ (by norm_num)]
  exact h.mul_right (ten_zpow_pos j)

/-- What is rounded to a place has no digits below it. -/
theorem Rounded.exists_multiple {tie : Tie} {x y : ℚ} {k l : ℤ} (h : Rounded tie (10 ^ k) x y)
    (hle : l ≤ k) : ∃ i : ℤ, y = i * 10 ^ l := by
  obtain ⟨i, rfl⟩ := h.multiple
  obtain ⟨j, hj⟩ := exists_ten_zpow_eq hle
  exact ⟨i * j, by rw [hj]; push_cast; ring⟩

/-- Rounding to a place does not take a number below a power of ten that is not less than the
step. -/
theorem Rounded.le_abs {tie : Tie} {x y : ℚ} {k l : ℤ} (h : Rounded tie (10 ^ l) x y) (hle : l ≤ k)
    (hx : 10 ^ k ≤ |x|) : 10 ^ k ≤ |y| := by
  have hstep := ten_zpow_pos l
  obtain ⟨i, hi⟩ := exists_ten_zpow_eq hle
  rw [hi] at hx ⊢
  exact (h.abs hstep).multiple_le hstep hx

/-- Nor above one. -/
theorem Rounded.abs_le {tie : Tie} {x y : ℚ} {k l : ℤ} (h : Rounded tie (10 ^ l) x y) (hle : l ≤ k)
    (hx : |x| ≤ 10 ^ k) : |y| ≤ 10 ^ k := by
  have hstep := ten_zpow_pos l
  obtain ⟨i, hi⟩ := exists_ten_zpow_eq hle
  rw [hi] at hx ⊢
  exact (h.abs hstep).le_multiple hstep hx

theorem exists_leadsAt {x : ℚ} (hx : x ≠ 0) : ∃ k, LeadsAt x k :=
  exists_mem_Ico_zpow (abs_pos.2 hx) (by norm_num)

namespace LeadsAt

variable {x x' : ℚ} {k k' : ℤ}

theorem ne_zero (h : LeadsAt x k) : x ≠ 0 := by
  rintro rfl
  exact absurd h.1 (by rw [abs_zero]; exact (ten_zpow_pos k).not_ge)

theorem le_of_le (h : LeadsAt x k) (h' : LeadsAt x' k') (hle : |x| ≤ |x'|) : k ≤ k' := by
  have := ten_zpow_lt_iff.1 (lt_of_le_of_lt (h.1.trans hle) h'.2)
  omega

theorem unique (h : LeadsAt x k) (h' : LeadsAt x k') : k = k' :=
  le_antisymm (h.le_of_le h' (le_refl _)) (h'.le_of_le h (le_refl _))

theorem neg (h : LeadsAt x k) : LeadsAt (-x) k := by
  rwa [LeadsAt, abs_neg]

theorem abs (h : LeadsAt x k) : LeadsAt |x| k := by
  rwa [LeadsAt, abs_abs]

theorem mul_ten_zpow (h : LeadsAt x k) (j : ℤ) : LeadsAt (x * 10 ^ j) (k + j) := by
  have hpos := ten_zpow_pos j
  rw [LeadsAt, abs_mul, abs_of_pos hpos, add_right_comm, zpow_add₀ (by norm_num),
    zpow_add₀ (by norm_num)]
  exact ⟨mul_le_mul_of_nonneg_right h.1 hpos.le, mul_lt_mul_of_pos_right h.2 hpos⟩

end LeadsAt

theorem exists_roundedAt (tie : Tie) (place : ℤ → ℤ) {x : ℚ} (hx : x ≠ 0) :
    ∃ y, RoundedAt tie place x y := by
  obtain ⟨k, hk⟩ := exists_leadsAt hx
  obtain ⟨y, hy⟩ := exists_rounded tie (ten_zpow_pos (place k)) x
  exact ⟨y, k, hk, hy⟩

namespace RoundedAt

variable {tie : Tie} {place : ℤ → ℤ} {x x' y y' : ℚ} {k : ℤ}

theorem neg (h : RoundedAt tie place x y) : RoundedAt tie place (-x) (-y) := by
  obtain ⟨k, hk, hround⟩ := h
  exact ⟨k, hk.neg, hround.neg⟩

theorem abs (h : RoundedAt tie place x y) : RoundedAt tie place |x| |y| := by
  obtain ⟨k, hk, hround⟩ := h
  exact ⟨k, hk.abs, hround.abs (ten_zpow_pos _)⟩

theorem unique (h : RoundedAt tie place x y) (h' : RoundedAt tie place x y') : y = y' := by
  obtain ⟨k, hk, hround⟩ := h
  obtain ⟨k', hk', hround'⟩ := h'
  obtain rfl := hk.unique hk'
  exact hround.unique (ten_zpow_pos _) hround'

theorem ne_zero (h : RoundedAt tie place x y) : x ≠ 0 := by
  obtain ⟨k, hk, -⟩ := h
  exact hk.ne_zero

/-- A number that is a multiple of the step at its own place is its own rounding. -/
theorem self (hk : LeadsAt x k) (hx : ∃ i : ℤ, x = i * 10 ^ place k) :
    RoundedAt tie place x x := by
  obtain ⟨i, rfl⟩ := hx
  exact ⟨k, hk, .self (ten_zpow_pos _) tie i⟩

section Places

variable (hplace : ∀ k, place k ≤ k)

include hplace

/-- The rounding lies between the powers of ten between which the number lies. -/
theorem bounds (hk : LeadsAt x k) (h : RoundedAt tie place x y) :
    10 ^ k ≤ |y| ∧ |y| ≤ 10 ^ (k + 1) := by
  obtain ⟨k', hk', hround⟩ := h
  obtain rfl := hk.unique hk'
  exact ⟨hround.le_abs (hplace k) hk.1, hround.abs_le (by have := hplace k; omega) hk.2.le⟩

/-- A power of ten that the number reaches is reached by the rounding. -/
theorem le_abs (h : RoundedAt tie place x y) {j : ℤ} (hx : 10 ^ j ≤ |x|) : 10 ^ j ≤ |y| := by
  obtain ⟨k, hk, hround⟩ := h
  have hjk := ten_zpow_lt_iff.1 (hx.trans_lt hk.2)
  exact (ten_zpow_le (by omega)).trans (bounds hplace hk ⟨k, hk, hround⟩).1

/-- The rounding begins where the number does, or is the power of ten above it. -/
theorem leads (hk : LeadsAt x k) (h : RoundedAt tie place x y) :
    LeadsAt y k ∨ |y| = 10 ^ (k + 1) := by
  obtain ⟨hlow, hhigh⟩ := h.bounds hplace hk
  exact hhigh.lt_or_eq.imp (⟨hlow, ·⟩) id

/-- What is rounded is a multiple of the step at its own place. -/
theorem exists_multiple (h : RoundedAt tie place x y) :
    ∃ k, LeadsAt y k ∧ ∃ i : ℤ, y = i * 10 ^ place k := by
  obtain ⟨k, hk, hround⟩ := h
  rcases leads hplace hk ⟨k, hk, hround⟩ with hlead | hcarry
  · exact ⟨k, hlead, hround.multiple⟩
  · refine ⟨k + 1, ⟨hcarry.ge, hcarry.trans_lt (ten_zpow_lt_iff.2 (by omega))⟩, ?_⟩
    obtain ⟨i, hi⟩ := exists_ten_zpow_eq (hplace (k + 1))
    rcases abs_choice y with hy | hy
    · exact ⟨i, by rw [← hy, hcarry, hi]⟩
    · exact ⟨-i, by rw [← neg_neg y, ← hy, hcarry, hi]; push_cast; ring⟩

/-- Rounding what is rounded changes nothing. -/
theorem again (h : RoundedAt tie place x y) : RoundedAt tie place y y := by
  obtain ⟨k, hk, hmultiple⟩ := h.exists_multiple hplace
  exact self hk hmultiple

theorem pos (h : RoundedAt tie place x y) (hx : 0 < x) : 0 < y := by
  obtain ⟨k, hk, hround⟩ := h
  have hlow := (bounds hplace hk ⟨k, hk, hround⟩).1
  have hnonneg := hround.nonneg (ten_zpow_pos _) hx.le
  rw [abs_of_nonneg hnonneg] at hlow
  exact (ten_zpow_pos k).trans_le hlow

/-- Positive numbers keep their order. -/
theorem mono_of_pos (h : RoundedAt tie place x y) (h' : RoundedAt tie place x' y') (hx : 0 < x)
    (hle : x ≤ x') : y ≤ y' := by
  have hy := h.pos hplace hx
  have hy' := h'.pos hplace (hx.trans_le hle)
  obtain ⟨k, hk, hround⟩ := h
  obtain ⟨k', hk', hround'⟩ := h'
  have hkk' : k ≤ k' := by
    refine hk.le_of_le hk' ?_
    rwa [abs_of_pos hx, abs_of_pos (hx.trans_le hle)]
  rcases hkk'.eq_or_lt with rfl | hlt
  · exact hround.mono (ten_zpow_pos _) hround' hle
  · -- a power of ten lies between the two numbers, and between what they are rounded to
    have hhigh := (bounds hplace hk ⟨k, hk, hround⟩).2
    have hlow := (bounds hplace hk' ⟨k', hk', hround'⟩).1
    rw [abs_of_pos hy] at hhigh
    rw [abs_of_pos hy'] at hlow
    exact hhigh.trans ((ten_zpow_le (by omega)).trans hlow)

/-- Rounding keeps the order of numbers. -/
theorem mono (h : RoundedAt tie place x y) (h' : RoundedAt tie place x' y') (hle : x ≤ x') :
    y ≤ y' := by
  rcases lt_or_gt_of_ne h.ne_zero with hx | hx
  · rcases lt_or_gt_of_ne h'.ne_zero with hx' | hx'
    · exact neg_le_neg_iff.1 (h'.neg.mono_of_pos hplace h.neg (by linarith) (by linarith))
    · have := h.neg.pos hplace (by linarith)
      have := h'.pos hplace hx'
      linarith
  · exact h.mono_of_pos hplace h' hx hle

end Places

end RoundedAt

end Phrasebook.Arithmetic
