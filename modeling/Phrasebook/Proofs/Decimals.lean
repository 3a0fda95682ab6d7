import Mathlib.Algebra.Order.Ring.Nat
import Mathlib.Tactic.Positivity
import Mathlib.Tactic.Ring
import Phrasebook.Decimal.Arithmetic

/-!
The sizes of decimal numbers.

How many digits a number has bounds it from both sides, so the exponent of a result is bounded by
the exponents of what it comes from: fitting a number to the working precision adds at most one
place in front (`Decimal.fit_cases`). It follows where arithmetic has a result: subtraction of a
whole number but beyond the range of exponents (`Decimal.subInt_cases`), and a remainder for numbers
with few digits before their point (`Decimal.exists_modNat`).
-/

set_option autoImplicit false

namespace Phrasebook

open Arithmetic

namespace Arithmetic

theorem decimalLength_pos (n : Nat) : 0 < decimalLength n := by
  unfold decimalLength
  split <;> omega

theorem lt_pow_decimalLength (n : Nat) : n < 10 ^ decimalLength n := by
  fun_induction decimalLength n with
  | case1 n h => simpa using h
  | case2 n h ih =>
    rw [pow_succ]
    omega

theorem pow_decimalLength_le {n : Nat} (h : n ≠ 0) : 10 ^ decimalLength n ≤ 10 * n := by
  fun_induction decimalLength n with
  | case1 n _ => omega
  | case2 n hn ih =>
    have := ih (by omega)
    rw [pow_succ]
    omega

/-- A number has at most as many digits as a power of ten above it has zeros. -/
theorem decimalLength_le {n k : Nat} (h : n < 10 ^ k) (hk : 0 < k) : decimalLength n ≤ k := by
  by_cases hn : n = 0
  · subst hn
    simpa [decimalLength] using Nat.succ_le_of_lt hk
  · by_contra hlt
    have hpow : 10 ^ (k + 1) ≤ 10 ^ decimalLength n := Nat.pow_le_pow_right (by decide) (by omega)
    have := pow_decimalLength_le hn
    rw [pow_succ] at hpow
    omega

theorem decimalLength_mul_pow {n : Nat} (h : n ≠ 0) (k : Nat) :
    decimalLength (n * 10 ^ k) = decimalLength n + k := by
  induction k with
  | zero => simp
  | succ k ih =>
    have hpos : 0 < n * 10 ^ k := by positivity
    have hstep : n * 10 ^ (k + 1) = n * 10 ^ k * 10 := by ring
    rw [hstep, decimalLength, if_neg (by omega), Nat.mul_div_cancel _ (by decide), ih]
    omega

theorem decimalLength_div_ten {n : Nat} (h : n / 10 ≠ 0) :
    decimalLength (n / 10) + 1 = decimalLength n := by
  conv_rhs => rw [decimalLength]
  rw [if_neg (by omega)]

/-- The digits that are left when zeros at the end are taken off, and the zeros. -/
theorem stripTens_eq (n limit : Nat) : n = (stripTens n limit).1 * 10 ^ (stripTens n limit).2 := by
  fun_induction stripTens n limit with
  | case1 => simp
  | case2 n limit h r ih =>
    have hn : n = n / 10 * 10 := by omega
    rw [pow_succ, ← Nat.mul_assoc, ← ih, ← hn]
  | case3 => simp

end Arithmetic

namespace Decimal

/-- A number is less than `10 ^ k` in size, or not finite. -/
def Within (k : Int) : Decimal → Prop
  | .finite _ c e => c = 0 ∨ e + decimalLength c ≤ k
  | _ => True

theorem Within.mono {d : Decimal} {k l : Int} (h : d.Within k) (hkl : k ≤ l) : d.Within l := by
  cases d with
  | finite s c e => exact h.imp_right fun h ↦ Int.le_trans h hkl
  | _ => trivial

theorem dropDigits_le {c x k : Nat} (h : c < 10 ^ k) (hx : x ≤ k) (tie : Tie) :
    dropDigits tie c x ≤ 10 ^ (k - x) := by
  have hlt : c / 10 ^ x < 10 ^ (k - x) := by
    rw [Nat.div_lt_iff_lt_mul (by positivity), ← pow_add]
    rwa [Nat.sub_add_cancel hx]
  rcases roundQuotient_mem tie c (10 ^ x) with h | h
  · rw [dropDigits, h]
    omega
  · rw [dropDigits, h]
    omega

/-- The digits that are kept have at most one digit more than what they were kept of. -/
theorem decimalLength_dropDigits_le {c x : Nat} (hx : x ≤ decimalLength c) (tie : Tie) :
    decimalLength (dropDigits tie c x) + x ≤ decimalLength c + 1 := by
  have hle := dropDigits_le (lt_pow_decimalLength c) hx tie
  have hlt : dropDigits tie c x < 10 ^ (decimalLength c - x + 1) := by
    rw [pow_succ]
    have : 0 < 10 ^ (decimalLength c - x) := by positivity
    omega
  have := decimalLength_le hlt (by omega)
  omega

/-- Of a number less than a tenth of the step nothing is kept, whatever happens to ties. -/
theorem dropDigits_eq_zero (tie : Tie) (c : Nat) : dropDigits tie c (decimalLength c + 1) = 0 := by
  have hlt := lt_pow_decimalLength c
  have hpow : 10 ^ (decimalLength c + 1) = 10 * 10 ^ decimalLength c := pow_succ' 10 _
  unfold dropDigits roundQuotient
  rw [hpow, Nat.mod_eq_of_lt (by omega), Nat.div_eq_of_lt (by omega), if_pos (by omega)]

/-- Fitting adds at most one place in front, or the number is beyond the range. -/
theorem fit_cases (p : Nat) (s : Bool) (c : Nat) (e : Int) :
    (∃ t c' e', fit p s c e = .ok (.finite t c' e') ∧
      ∀ k, (finite s c e).Within k → (finite t c' e').Within (k + 1)) ∨
    fit p s c e = .error .overflow ∧ ¬ (finite s c e).Within maxExponent := by
  unfold fit
  by_cases hc : c = 0
  · rw [if_pos hc]
    exact .inl ⟨_, 0, _, rfl, fun _ _ ↦ .inl rfl⟩
  have hfitted (m : Nat) (g : Int) (h : m = 0 ∨ g + decimalLength m ≤ e + decimalLength c + 1) :
      let fitted : Except Fault Decimal :=
        if m = 0 then .ok (.finite s 0 (max (minExponent - ↑p + 1) g))
        else if maxExponent < g + decimalLength m - 1 then .error .overflow
        else .ok (.finite s m g)
      (∃ t c' e', fitted = .ok (.finite t c' e') ∧
        ∀ k, (finite s c e).Within k → (finite t c' e').Within (k + 1)) ∨
      fitted = .error .overflow ∧ ¬ (finite s c e).Within maxExponent := by
    intro fitted
    by_cases hm : m = 0
    · exact .inl ⟨s, 0, _, if_pos hm, fun _ _ ↦ .inl rfl⟩
    have hsize := h.resolve_left hm
    by_cases hlarge : maxExponent < g + decimalLength m - 1
    · refine .inr ⟨(if_neg hm).trans (if_pos hlarge), fun hwithin ↦ ?_⟩
      have := hwithin.resolve_left hc
      omega
    · refine .inl ⟨s, m, g, (if_neg hm).trans (if_neg hlarge), fun k hwithin ↦ .inr ?_⟩
      have := hwithin.resolve_left hc
      omega
  rw [if_neg hc]
  dsimp only
  generalize hx : min (max (decimalLength c - p) (minExponent - ↑p + 1 - e).toNat)
    (decimalLength c + 1) = x
  have hkept : dropDigits .toEven c x = 0 ∨
      decimalLength (dropDigits .toEven c x) + x ≤ decimalLength c + 1 := by
    by_cases hlast : x = decimalLength c + 1
    · exact .inl (hlast ▸ dropDigits_eq_zero .toEven c)
    · exact .inr (decimalLength_dropDigits_le (by omega) _)
  generalize dropDigits .toEven c x = kept at hkept
  split
  · refine hfitted (kept / 10) (e + x + 1) ?_
    by_cases hm : kept / 10 = 0
    · exact .inl hm
    · have := decimalLength_div_ten hm
      have := hkept.resolve_left (by omega)
      exact .inr (by omega)
  · refine hfitted kept (e + x) (hkept.imp_right fun h ↦ ?_)
    omega

/-! ### Subtraction and the absolute value -/

/-- A defined number less a whole number is a defined number, or its size is beyond the range. -/
theorem subInt_cases {d : Decimal} (hd : d.isNaN = false) (n : Int) :
    (∃ d', d.subInt n = .ok d' ∧ d'.isNaN = false) ∨ d.subInt n = .error .overflow := by
  cases d with
  | nan s signaling payload => cases hd
  | infinite s => exact .inl ⟨.infinite s, rfl, rfl⟩
  | finite s c e =>
    have hfit (t : Bool) (c : Nat) (e : Int) :
        (∃ d', fit defaultPrecision t c e = .ok d' ∧ d'.isNaN = false) ∨
        fit defaultPrecision t c e = .error .overflow := by
      rcases fit_cases defaultPrecision t c e with ⟨_, _, _, h, -⟩ | ⟨h, -⟩
      · exact .inl ⟨_, h, rfl⟩
      · exact .inr h
    exact hfit _ _ _

/-- The remainder of a number with at most as many digits before its point as are kept. -/
theorem exists_modNat {c : Nat} {e : Int} (h : c = 0 ∨ e + decimalLength c ≤ defaultPrecision)
    (m : Nat) : ∃ q, modNat c e m = .ok q := by
  have hquotient {n : Nat} (hn : n < 10 ^ defaultPrecision) (k : Nat) :
      ¬ defaultPrecision < decimalLength (n / k) :=
    Nat.not_lt.2 (decimalLength_le (Nat.lt_of_le_of_lt (Nat.div_le_self n k) hn) (by decide))
  unfold modNat
  by_cases hc : c = 0
  · exact ⟨_, if_pos hc⟩
  have hsize := h.resolve_left hc
  have hlt := lt_pow_decimalLength c
  rw [if_neg hc, if_neg (by omega)]
  by_cases he : 0 ≤ e
  · have hn : c * 10 ^ e.toNat < 10 ^ defaultPrecision := by
      calc c * 10 ^ e.toNat
          < 10 ^ decimalLength c * 10 ^ e.toNat :=
            Nat.mul_lt_mul_of_pos_right hlt (by positivity)
        _ = 10 ^ (decimalLength c + e.toNat) := (pow_add 10 _ _).symm
        _ ≤ 10 ^ defaultPrecision := Nat.pow_le_pow_right (by decide) (by omega)
    rw [if_pos he]
    dsimp only
    rw [if_neg (hquotient hn m)]
    exact ⟨_, rfl⟩
  · have hn : c / 10 ^ (-e).toNat < 10 ^ defaultPrecision := by
      rw [Nat.div_lt_iff_lt_mul (by positivity), ← pow_add]
      exact Nat.lt_of_lt_of_le hlt (Nat.pow_le_pow_right (by decide) (by omega))
    have hdiv : c / (m * 10 ^ (-e).toNat) = c / 10 ^ (-e).toNat / m := by
      rw [Nat.mul_comm, Nat.div_div_eq_div_mul]
    rw [if_neg he]
    dsimp only
    rw [hdiv, if_neg (hquotient hn m)]
    exact ⟨_, rfl⟩

end Decimal

end Phrasebook
