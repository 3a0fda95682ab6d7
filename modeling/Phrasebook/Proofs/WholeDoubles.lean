import Phrasebook.Proofs.ExactValues
import Phrasebook.Proofs.SteadyNumbers

/-!
Whole numbers among the doubles.

A whole number of at most `2 ^ 53` is a double, and any fraction that is equal to it is rounded to
that double (`Binary64.toInt?_ofFraction`). So differences of such numbers are exact as long as they
are not larger themselves. A whole number beyond `2 ^ 53` has its nearest double at or beyond it
(`Binary64.le_of_toInt?_ofInt`), so a double below `2 ^ 53` is nearest to no other whole number than
the one that it is (`Binary64.toInt?_ofInt_iff`).
-/

set_option autoImplicit false

namespace Phrasebook

open Arithmetic

theorem Arithmetic.roundQuotient_mul (tie : Tie) (n d : ℕ) {c : ℕ} (hc : 0 < c) :
    roundQuotient tie (n * c) (d * c) = roundQuotient tie n d := by
  have hmod : 2 * (n % d * c) = 2 * (n % d) * c := (Nat.mul_assoc _ _ _).symm
  unfold roundQuotient
  rw [Nat.mul_mod_mul_right, Nat.mul_div_mul_right _ _ hc, hmod]
  simp only [Nat.mul_lt_mul_right hc]

namespace Binary64

/-! ### Fractions of whole numbers -/

section Fractions

variable {k d : ℕ}

theorem log2_mul_mem (hk : k ≠ 0) (hd : d ≠ 0) :
    (k * d).log2 = k.log2 + d.log2 ∨ (k * d).log2 = k.log2 + d.log2 + 1 := by
  have hkd : k * d ≠ 0 := Nat.mul_ne_zero hk hd
  have hlow : k.log2 + d.log2 ≤ (k * d).log2 := by
    rw [Nat.le_log2 hkd, pow_add]
    exact Nat.mul_le_mul (Nat.log2_self_le hk) (Nat.log2_self_le hd)
  have hhigh : (k * d).log2 < k.log2 + 1 + (d.log2 + 1) := by
    rw [Nat.log2_lt hkd, pow_add]
    exact Nat.mul_lt_mul'' Nat.lt_log2_self Nat.lt_log2_self
  omega

/-- The exponent of a fraction does not change when the fraction is extended. -/
theorem exponentOf_mul (hk : k ≠ 0) (hd : 0 < d) : exponentOf (k * d) d = exponentOf k 1 := by
  have hlog := log2_mul_mem hk hd.ne'
  have hguess (g : ℤ) : k * d * 2 ^ (-g).toNat < 2 ^ 52 * (2 ^ g.toNat * d) ↔ k.log2 < g + 52 := by
    have hpow : k * 2 ^ (-g).toNat ≠ 0 := Nat.mul_ne_zero hk (by positivity)
    rw [Nat.mul_right_comm, ← Nat.mul_assoc, Nat.mul_lt_mul_right hd, ← pow_add,
      ← Nat.log2_lt hpow, log2_mul_two_pow hk]
    omega
  rw [exponentOf_one hk, exponentOf]
  simp only [scaled, Int.neg_neg, hguess]
  split <;> omega

theorem ofQuotient_mul (s : Bool) (k : ℕ) (hd : 0 < d) :
    ofQuotient s (k * d) d = ofQuotient s k 1 := by
  unfold ofQuotient
  by_cases hk : k = 0
  · rw [hk, Nat.zero_mul, if_pos rfl, if_pos rfl]
  · have hkd : k * d ≠ 0 := Nat.mul_ne_zero hk hd.ne'
    rw [if_neg hk, if_neg hkd, exponentOf_mul hk hd]
    simp only [scaled, Nat.mul_right_comm k d, roundQuotient_mul _ _ _ hd, Nat.mul_one]

/-- A whole number that is not too large is a double. -/
theorem exists_ofQuotient_eq (hk : k ≠ 0) (hle : k ≤ 2 ^ 53) (s : Bool) :
    ∃ m e h, ofQuotient s k 1 = finite s m e h ∧ (m : ℚ) * 2 ^ e = k := by
  rcases Nat.lt_or_eq_of_le hle with hlt | rfl
  · -- the significand is the number itself, shifted to 53 bits
    obtain ⟨i, hi⟩ : ∃ i, k.log2 + i = 52 := by
      have := (Nat.log2_lt hk).2 hlt
      exact ⟨52 - k.log2, by omega⟩
    have hlog : (k * 2 ^ i).log2 = 52 := by rw [log2_mul_two_pow hk, hi]
    have hne : k * 2 ^ i ≠ 0 := Nat.mul_ne_zero hk (by positivity)
    obtain ⟨hlow, hhigh⟩ := (Nat.log2_eq_iff hne).1 hlog
    have hcanonical : Canonical (k * 2 ^ i) (-(i : ℤ)) := ⟨hhigh, by omega, by omega, .inl hlow⟩
    refine ⟨_, _, hcanonical, ?_, ?_⟩
    · rw [← ofQuotient_scaled hcanonical hne s 0, pow_zero, Nat.mul_one, Nat.mul_one, scaled_neg]
      exact (ofQuotient_mul s k (by positivity)).symm
    · rw [zpow_neg, zpow_natCast]
      push_cast
      exact mul_inv_cancel_right₀ (by positivity) _
  · have hcanonical : Canonical (2 ^ 52) 1 := by decide
    refine ⟨_, _, hcanonical, ?_, by norm_num⟩
    rw [← ofQuotient_scaled hcanonical (by decide) s 0]
    rfl

theorem toInt?_ofQuotient (hle : k ≤ 2 ^ 53) (s : Bool) :
    (ofQuotient s k 1).toInt? = some (if s then -(k : ℤ) else k) := by
  rw [toInt?_eq_some_iff]
  by_cases hk : k = 0
  · rw [hk, ofQuotient, if_pos rfl]
    refine ⟨rfl, ?_⟩
    cases s <;> simp [zero, value]
  · obtain ⟨m, e, h, hquotient, hvalue⟩ := exists_ofQuotient_eq hk hle s
    rw [hquotient]
    refine ⟨rfl, ?_⟩
    cases s <;> simp [value, hvalue]

end Fractions

section Whole

variable {x y : Binary64} {n k : ℤ}

theorem ite_natAbs (n : ℤ) : (if decide (n < 0) then -(n.natAbs : ℤ) else n.natAbs) = n := by
  by_cases hn : n < 0
  · rw [decide_eq_true hn, if_pos rfl]
    omega
  · rw [decide_eq_false hn, if_neg Bool.false_ne_true]
    omega

/-- A fraction that is a whole number is rounded to it. -/
theorem toInt?_ofFraction (h : n.natAbs ≤ 2 ^ 53) (zeroSign : Bool) {d : ℕ} (hd : 0 < d) :
    (ofFraction zeroSign (n * d) d).toInt? = some n := by
  have hd' : (d : ℤ) ≠ 0 := by positivity
  have hnegative : n * d < 0 ↔ n < 0 := by
    rw [mul_neg_iff]
    omega
  rw [ofFraction, Int.natAbs_mul, Int.natAbs_natCast, ofQuotient_mul _ _ hd, toInt?_ofQuotient h]
  congr 1
  by_cases hn : n = 0
  · rw [hn]
    cases zeroSign <;> simp
  · rw [if_neg (mul_ne_zero hn hd'), decide_eq_decide.2 hnegative, ite_natAbs]

theorem toInt?_ofInt (h : n.natAbs ≤ 2 ^ 53) : (ofInt n).toInt? = some n := by
  rw [ofInt, toInt?_ofQuotient h, ite_natAbs]

theorem isFinite_of_toInt? (h : x.toInt? = some n) : x.isFinite = true :=
  (toInt?_eq_some_iff.1 h).1

/-- A double that is a whole number is a fraction of it. -/
theorem exists_quotient?_of_toInt? (h : x.toInt? = some n) :
    ∃ d : ℕ, 0 < d ∧ x.quotient? = some (n * d, d) := by
  obtain ⟨hfinite, hvalue⟩ := toInt?_eq_some_iff.1 h
  cases x with
  | nan | infinite => cases hfinite
  | finite s m e hcanonical =>
    obtain ⟨a, d, hquotient, hd, ha⟩ := quotient?_finite s m e hcanonical
    rw [hvalue] at ha
    have ha : a = n * d := by exact_mod_cast ha
    exact ⟨d, hd, ha ▸ hquotient⟩

theorem toInt?_neg (h : x.toInt? = some n) : x.neg.toInt? = some (-n) := by
  rw [toInt?_eq_some_iff] at h ⊢
  obtain ⟨hfinite, hvalue⟩ := h
  cases x with
  | nan | infinite => cases hfinite
  | finite s m e h =>
    refine ⟨rfl, ?_⟩
    rw [Int.cast_neg, ← hvalue]
    cases s <;> simp [neg, value]

/-- The sum of two whole numbers is exact if it is a double. -/
theorem toInt?_add (hx : x.toInt? = some n) (hy : y.toInt? = some k)
    (h : (n + k).natAbs ≤ 2 ^ 53) : (x.add y).toInt? = some (n + k) := by
  obtain ⟨b, hb, hxq⟩ := exists_quotient?_of_toInt? hx
  obtain ⟨d, hd, hyq⟩ := exists_quotient?_of_toInt? hy
  have hsum : x.add y =
      ofFraction (x.isNegative && y.isNegative) ((n + k) * (b * d : ℕ)) (b * d) := by
    have hnum : n * b * d + k * d * b = (n + k) * (b * d : ℕ) := by push_cast; ring
    cases x with
    | nan | infinite => cases isFinite_of_toInt? hx
    | finite s m e _ =>
      cases y with
      | nan | infinite => cases isFinite_of_toInt? hy
      | finite t m' e' _ =>
        unfold add
        simp only [hxq, hyq]
        rw [hnum]
  rw [hsum]
  exact toInt?_ofFraction h _ (Nat.mul_pos hb hd)

theorem toInt?_sub (hx : x.toInt? = some n) (hy : y.toInt? = some k)
    (h : (n - k).natAbs ≤ 2 ^ 53) : (x.sub y).toInt? = some (n - k) :=
  toInt?_add hx (toInt?_neg hy) h

theorem le_of_toInt?_ofParts {s : Bool} {m : ℕ} {e : ℤ} (hm : 2 ^ 52 ≤ m) (he : 1 ≤ e)
    (h : (ofParts s m e).toInt? = some k) : 2 ^ 53 ≤ k.natAbs := by
  rw [toInt?_eq_some_iff] at h
  unfold ofParts at h
  split at h
  · obtain ⟨-, hvalue⟩ := h
    obtain ⟨i, rfl⟩ : ∃ i : ℕ, e = i + 1 := ⟨(e - 1).toNat, by omega⟩
    have hpow : (2 : ℚ) ^ ((i : ℤ) + 1) = 2 ^ (i + 1) := by
      rw [← Nat.cast_succ]
      exact zpow_natCast 2 _
    have habs : (k.natAbs : ℚ) = m * 2 ^ (i + 1) := by
      rw [Nat.cast_natAbs, Int.cast_abs, ← hvalue, ← value_abs, ← hpow]
      rfl
    have habs : k.natAbs = m * 2 ^ (i + 1) := by exact_mod_cast habs
    rw [habs]
    calc 2 ^ 53 = 2 ^ 52 * 2 ^ (0 + 1) := by norm_num
      _ ≤ m * 2 ^ (i + 1) := Nat.mul_le_mul hm (Nat.pow_le_pow_right (by decide) (by omega))
  · exact absurd h.1 Bool.false_ne_true

/-- The nearest double to a whole number beyond `2 ^ 53` is not below it. -/
theorem le_of_toInt?_ofInt (h : (ofInt n).toInt? = some k) (hn : 2 ^ 53 ≤ n.natAbs) :
    2 ^ 53 ≤ k.natAbs := by
  have hne : n.natAbs ≠ 0 := by omega
  have hlog : 53 ≤ n.natAbs.log2 := (Nat.le_log2 hne).2 hn
  generalize hscaled : scaled n.natAbs (-((n.natAbs.log2 : ℤ) - 52)) = x
  obtain ⟨num, den⟩ := x
  obtain ⟨hlow, -⟩ := quotient_mem hne hscaled
  have hround := roundQuotient_mem .toEven num den
  rw [ofInt, ofQuotient, if_neg hne] at h
  simp only [exponentOf_one hne, hscaled, Nat.mul_one] at h
  split at h
  · exact le_of_toInt?_ofParts (Nat.le_refl _) (by omega) h
  · exact le_of_toInt?_ofParts (by omega) (by omega) h

/-- A whole number has that double next to it which it is itself, and no other, as long as one of
the two is small. -/
theorem toInt?_ofInt_iff (h : n.natAbs ≤ 2 ^ 53 ∨ k.natAbs < 2 ^ 53) :
    (ofInt n).toInt? = some k ↔ n = k := by
  by_cases hn : n.natAbs ≤ 2 ^ 53
  · rw [toInt?_ofInt hn, Option.some.injEq]
  · have hk := h.resolve_left hn
    refine iff_of_false (fun hround ↦ ?_) (by omega)
    have := le_of_toInt?_ofInt hround (by omega)
    omega

end Whole

end Binary64

end Phrasebook
