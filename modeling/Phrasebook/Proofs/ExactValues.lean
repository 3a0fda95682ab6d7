import Phrasebook.Number
import Phrasebook.Proofs.Decimals
import Mathlib.Algebra.Order.Field.Power
import Mathlib.Tactic.Linarith

/-!
The rational numbers that doubles and decimal numbers stand for.

A double is a whole number just if its value is one (`Binary64.toInt?_eq_some_iff`), and two decimal
numbers compare as equal just if they have one value (`Decimal.compare?_eq_iff`), although the
comparison first looks at the places of their leading digits. So a double equals another one that
is a whole number just if it is that whole number too (`Number.equalsBinary_binary`).
-/

set_option autoImplicit false

namespace Phrasebook

open Arithmetic

/-- The number that a finite double stands for. -/
def Binary64.value : Binary64 → ℚ
  | .finite s m e _ => (if s then -(m : ℚ) else m) * 2 ^ e
  | _ => 0

/-- The number that a finite decimal number stands for. -/
def Decimal.value : Decimal → ℚ
  | .finite s c e => (if s then -(c : ℚ) else c) * 10 ^ e
  | _ => 0

/-- A power, its exponent taken to either side. -/
theorem zpow_mul_pow_toNat {b : ℚ} (hb : b ≠ 0) (e : ℤ) : b ^ e * b ^ (-e).toNat = b ^ e.toNat := by
  rw [← zpow_natCast, ← zpow_natCast, ← zpow_add₀ hb]
  congr 1
  omega

/-! ### Doubles -/

namespace Binary64

variable {x : Binary64} {n : ℤ}

theorem quotient?_finite (s : Bool) (m : ℕ) (e : ℤ) (h : Canonical m e) :
    ∃ (a : ℤ) (d : ℕ), (finite s m e h).quotient? = some (a, d) ∧ 0 < d ∧
      (a : ℚ) = (finite s m e h).value * d := by
  refine ⟨if s then -((m * 2 ^ e.toNat : ℕ) : ℤ) else (m * 2 ^ e.toNat : ℕ), 2 ^ (-e).toNat, rfl,
    by positivity, ?_⟩
  rw [value, Nat.cast_pow, Nat.cast_ofNat, mul_assoc, zpow_mul_pow_toNat two_ne_zero]
  cases s <;> simp

theorem toInt?_eq_some_iff : x.toInt? = some n ↔ x.isFinite = true ∧ x.value = n := by
  cases x with
  | nan => simp [toInt?, quotient?, isFinite]
  | infinite s => simp [toInt?, quotient?, isFinite]
  | finite s m e h =>
    obtain ⟨a, d, hquotient, hd, ha⟩ := quotient?_finite s m e h
    have hd' : (d : ℚ) ≠ 0 := by positivity
    rw [toInt?, hquotient]
    dsimp only
    constructor
    · intro h
      split at h
      · rename_i hdvd
        obtain rfl := Option.some.inj h
        refine ⟨rfl, mul_right_cancel₀ hd' ?_⟩
        rw [← ha]
        exact_mod_cast (Int.ediv_mul_cancel_of_emod_eq_zero hdvd).symm
      · cases h
    · rintro ⟨-, hvalue⟩
      rw [hvalue] at ha
      have ha : a = n * d := by exact_mod_cast ha
      have hd : (d : ℤ) ≠ 0 := by positivity
      rw [ha, Int.mul_emod_left, if_pos rfl, Int.mul_ediv_cancel _ hd]

theorem value_abs (x : Binary64) : x.abs.value = |x.value| := by
  cases x with
  | nan => exact abs_zero.symm
  | infinite s => exact abs_zero.symm
  | finite s m e h =>
    have hpos : (0 : ℚ) < 2 ^ e := by positivity
    have hm : |(m : ℚ)| = m := abs_of_nonneg m.cast_nonneg
    cases s <;> simp [abs, value, abs_mul, abs_of_pos hpos, hm]

theorem isFinite_abs (x : Binary64) : x.abs.isFinite = x.isFinite := by
  cases x <;> rfl

theorem toInt?_abs (h : x.toInt? = some n) : x.abs.toInt? = some |n| := by
  rw [toInt?_eq_some_iff] at h ⊢
  rw [isFinite_abs, value_abs, h.2, Int.cast_abs]
  exact ⟨h.1, rfl⟩

end Binary64

/-! ### Decimal numbers -/

namespace Decimal

variable {c c' : ℕ} {e e' : ℤ}

theorem mul_zpow_eq_zero_iff : (c : ℚ) * 10 ^ e = 0 ↔ c = 0 := by
  have hpos : (10 : ℚ) ^ e ≠ 0 := by positivity
  rw [mul_eq_zero, or_iff_left hpos, Nat.cast_eq_zero]

/-- Two magnitudes are one number just if they are equal as multiples of one power of ten. -/
theorem mul_zpow_eq_iff {low : ℤ} (h : low ≤ e) (h' : low ≤ e') :
    (c : ℚ) * 10 ^ e = c' * 10 ^ e' ↔ c * 10 ^ (e - low).toNat = c' * 10 ^ (e' - low).toNat := by
  have hscale {k : ℤ} (hk : low ≤ k) : (10 : ℚ) ^ k = 10 ^ (k - low).toNat * 10 ^ low := by
    rw [← zpow_natCast, ← zpow_add₀ (by norm_num)]
    congr 1
    omega
  have hpos : (10 : ℚ) ^ low ≠ 0 := by positivity
  rw [hscale h, hscale h', ← mul_assoc, ← mul_assoc, mul_left_inj' hpos]
  exact_mod_cast Iff.rfl

theorem compareMagnitudes_eq_iff :
    compareMagnitudes c e c' e' = .eq ↔ (c : ℚ) * 10 ^ e = c' * 10 ^ e' := by
  unfold compareMagnitudes
  by_cases hc : c = 0
  · rw [if_pos hc, hc]
    split
    · rename_i hc'
      rw [hc']
      simp
    · rename_i hc'
      rw [Nat.cast_zero, zero_mul, eq_comm (a := (0 : ℚ)), mul_zpow_eq_zero_iff]
      exact iff_of_false (by decide) hc'
  · rw [if_neg hc]
    split
    · rename_i hc'
      rw [hc', Nat.cast_zero, zero_mul, mul_zpow_eq_zero_iff]
      exact iff_of_false (by decide) hc
    · rename_i hc'
      rw [mul_zpow_eq_iff (min_le_left e e') (min_le_right e e')]
      -- equal numbers begin at the same place, so the first comparison refuses none of them
      have hlength (h : c * 10 ^ (e - min e e').toNat = c' * 10 ^ (e' - min e e').toNat) :
          e + decimalLength c = e' + decimalLength c' := by
        have h := congrArg decimalLength h
        rw [decimalLength_mul_pow hc, decimalLength_mul_pow hc'] at h
        omega
      dsimp only
      split
      · exact iff_of_false (by decide) fun h ↦ by have := hlength h; omega
      · split
        · exact iff_of_false (by decide) fun h ↦ by have := hlength h; omega
        · exact Nat.compare_eq_eq

theorem compare?_eq_iff {s t : Bool} :
    compare? (.finite s c e) (.finite t c' e') = some .eq ↔
      (finite s c e).value = (finite t c' e').value := by
  have hvalue (s : Bool) (c : ℕ) (e : ℤ) :
      (finite s c e).value = if s then -((c : ℚ) * 10 ^ e) else c * 10 ^ e := by
    cases s <;> simp [value]
  have hzero (s : Bool) (c : ℕ) (e : ℤ) : (finite s c e).value = 0 ↔ c = 0 := by
    rw [hvalue, ← mul_zpow_eq_zero_iff (e := e)]
    cases s <;> simp only [Bool.false_eq_true, if_false, if_true, neg_eq_zero]
  unfold compare?
  dsimp only
  by_cases hc : c = 0
  · rw [(hzero s c e).2 hc, eq_comm (a := (0 : ℚ)), hzero]
    by_cases hc' : c' = 0
    · simp [hc, hc']
    · cases t <;> simp [hc, hc']
  · by_cases hc' : c' = 0
    · rw [(hzero t c' e').2 hc', hzero]
      cases s <;> simp [hc, hc']
    · have hpos : 0 < (c : ℚ) * 10 ^ e := by positivity
      have hpos' : 0 < (c' : ℚ) * 10 ^ e' := by positivity
      rw [if_neg fun h ↦ hc h.1, if_neg hc, if_neg hc', hvalue, hvalue, Option.some.injEq]
      cases s with
      | false =>
        cases t with
        | false => exact compareMagnitudes_eq_iff
        | true => exact iff_of_false Ordering.noConfusion (by simp; linarith)
      | true =>
        cases t with
        | false => exact iff_of_false Ordering.noConfusion (by simp; linarith)
        | true =>
          rw [if_pos rfl, if_pos rfl, neg_inj]
          exact compareMagnitudes_eq_iff.trans eq_comm

theorem ofBinary64Exact_finite {s : Bool} {m : ℕ} {e : ℤ} (h : Binary64.Canonical m e) :
    ∃ c e', ofBinary64Exact (.finite s m e h) = .finite s c e' := by
  unfold ofBinary64Exact
  dsimp only
  split <;> exact ⟨_, _, rfl⟩

theorem value_ofBinary64Exact (x : Binary64) : (ofBinary64Exact x).value = x.value := by
  cases x with
  | nan => rfl
  | infinite s => rfl
  | finite s m e h =>
    unfold ofBinary64Exact
    dsimp only
    split
    · rename_i he
      obtain ⟨k, rfl⟩ := Int.eq_ofNat_of_zero_le he
      cases s <;> simp [value, Binary64.value]
    · rename_i he
      obtain ⟨k, rfl⟩ : ∃ k : ℕ, e = -(k : ℤ) := ⟨(-e).toNat, by omega⟩
      have hten : (5 : ℚ) ^ k * 10 ^ (-(k : ℤ)) = 2 ^ (-(k : ℤ)) := by
        have hsplit : (10 : ℚ) ^ k = 2 ^ k * 5 ^ k := by rw [← mul_pow]; norm_num
        have hfive : (5 : ℚ) ^ k ≠ 0 := by positivity
        rw [zpow_neg, zpow_neg, zpow_natCast, zpow_natCast, hsplit, mul_inv, mul_left_comm,
          mul_inv_cancel₀ hfive, mul_one]
      have htoNat : (- -(k : ℤ)).toNat = k := by omega
      rw [htoNat]
      cases s <;> simp only [value, Binary64.value, Nat.cast_mul, Nat.cast_pow, Nat.cast_ofNat,
        if_true, Bool.false_eq_true, if_false, neg_mul, mul_assoc, hten]

end Decimal

namespace Number

/-- A double equals one that is a whole number just if it is that whole number. -/
theorem equalsBinary_binary {x y : Binary64} {n : ℤ} (hy : y.toInt? = some n) :
    (binary y).equalsBinary x = (integer n).equalsBinary x := by
  obtain ⟨hfinite, hvalue⟩ := Binary64.toInt?_eq_some_iff.1 hy
  rw [equalsBinary, equalsBinary, decide_eq_decide, Binary64.toInt?_eq_some_iff, ← hvalue]
  cases y with
  | nan | infinite => cases hfinite
  | finite t m' e' h' =>
    have hy := Decimal.value_ofBinary64Exact (.finite t m' e' h')
    obtain ⟨c', k', he'⟩ := Decimal.ofBinary64Exact_finite (s := t) h'
    rw [he'] at hy ⊢
    cases x with
    | nan =>
      refine iff_of_false ?_ fun h ↦ Bool.false_ne_true h.1
      simp [Decimal.ofBinary64Exact, Decimal.compare?]
    | infinite s =>
      refine iff_of_false ?_ fun h ↦ Bool.false_ne_true h.1
      cases s <;> simp [Decimal.ofBinary64Exact, Decimal.compare?]
    | finite s m e h =>
      have hx := Decimal.value_ofBinary64Exact (.finite s m e h)
      obtain ⟨c, k, he⟩ := Decimal.ofBinary64Exact_finite (s := s) h
      rw [he] at hx ⊢
      rw [Decimal.compare?_eq_iff, hx, hy]
      exact (and_iff_right rfl).symm

end Number

end Phrasebook
