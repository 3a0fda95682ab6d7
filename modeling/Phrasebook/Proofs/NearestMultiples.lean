import Mathlib.Algebra.Order.Field.Power
import Mathlib.Data.Rat.Lemmas
import Mathlib.Tactic.FieldSimp
import Mathlib.Tactic.Linarith
import Mathlib.Tactic.Positivity
import Mathlib.Tactic.Ring
import Phrasebook.Arithmetic.Rounding

/-!
Rounding a rational number to a multiple of a step.

`Rounded tie step x y` says that no multiple of `step` is nearer to `x` than `y`, and that a tie
goes where `tie` sends it. There is one such multiple for every number (`exists_rounded`,
`Rounded.unique`). Rounding keeps the order of numbers (`Rounded.mono`), turns with the sign
(`Rounded.neg`) and leaves multiples alone (`Rounded.self`). The quotients that the arithmetic of
this library rounds are rounded in this sense (`rounded_roundQuotient`).
-/

set_option autoImplicit false

namespace Phrasebook.Arithmetic

/-- Whether `y` is where a tie sends `x`: farther from zero, or to an even multiple. -/
def Tie.Takes (tie : Tie) (step x y : ℚ) : Prop :=
  match tie with
  | .toEven => ∃ k : ℤ, y = 2 * k * step
  | .awayFromZero => |x| < |y|

/-- The multiple `y` of `step` is the nearest one to `x`; of two that are equally near, it is the
one that `tie` names. -/
structure Rounded (tie : Tie) (step x y : ℚ) : Prop where
  multiple : ∃ k : ℤ, y = k * step
  near : |y - x| ≤ step / 2
  tied : |y - x| = step / 2 → tie.Takes step x y

namespace Rounded

variable {tie : Tie} {step x x' y y' : ℚ}

/-- Rounding keeps the order of numbers. -/
theorem mono (hstep : 0 < step) (h : Rounded tie step x y) (h' : Rounded tie step x' y')
    (hx : x ≤ x') : y ≤ y' := by
  by_contra hlt
  obtain ⟨k, rfl⟩ := h.multiple
  obtain ⟨k', rfl⟩ := h'.multiple
  have hk : k' < k := by
    by_contra hle
    have hle : (k : ℚ) ≤ k' := by exact_mod_cast not_lt.1 hle
    exact hlt (mul_le_mul_of_nonneg_right hle hstep.le)
  have hk' : (k' : ℚ) + 1 ≤ k := by exact_mod_cast hk
  have hgap : k' * step + step ≤ k * step := by nlinarith
  have hnear := abs_le.1 h.near
  have hnear' := abs_le.1 h'.near
  -- the two numbers are one, which lies halfway between two multiples next to each other
  obtain rfl : x = x' := by linarith
  have hmiddle : k * step - x = step / 2 := by linarith
  have hmiddle' : k' * step - x = -(step / 2) := by linarith
  have htied := h.tied (by rw [hmiddle, abs_of_pos (by linarith)])
  have htied' := h'.tied (by rw [hmiddle', abs_neg, abs_of_pos (by linarith)])
  cases tie with
  | toEven =>
    obtain ⟨i, hi⟩ := htied
    obtain ⟨j, hj⟩ := htied'
    have hi : k = 2 * i := by exact_mod_cast mul_right_cancel₀ hstep.ne' hi
    have hj : k' = 2 * j := by exact_mod_cast mul_right_cancel₀ hstep.ne' hj
    have hnext : ((k : ℤ) : ℚ) = ((k' + 1 : ℤ) : ℚ) := by
      refine mul_right_cancel₀ hstep.ne' ?_
      push_cast
      linarith
    have hnext : k = k' + 1 := by exact_mod_cast hnext
    omega
  | awayFromZero =>
    -- one of the two neighbours lies between `x` and zero
    rcases le_or_gt 0 k' with hsign | hsign
    · have hk' : (0 : ℚ) ≤ k' := by exact_mod_cast hsign
      have hpos : 0 ≤ k' * step := mul_nonneg hk' hstep.le
      have hfar : |x| < |k' * step| := htied'
      rw [abs_of_nonneg hpos, abs_of_nonneg (by linarith)] at hfar
      linarith
    · have hnext : (k : ℚ) * step = k' * step + step := by linarith
      have hk : (k' : ℚ) + 1 ≤ 0 := by exact_mod_cast hsign
      have hneg : (k : ℚ) * step ≤ 0 := by nlinarith
      have hfar : |x| < |k * step| := htied
      rw [abs_of_nonpos hneg, abs_of_nonpos (by linarith)] at hfar
      linarith

/-- There is one nearest multiple. -/
theorem unique (hstep : 0 < step) (h : Rounded tie step x y) (h' : Rounded tie step x y') :
    y = y' :=
  le_antisymm (h.mono hstep h' (le_refl x)) (h'.mono hstep h (le_refl x))

/-- A multiple of the step is its own rounding. -/
theorem self (hstep : 0 < step) (tie : Tie) (k : ℤ) :
    Rounded tie step (k * step) (k * step) := by
  refine ⟨⟨k, rfl⟩, ?_, fun h ↦ ?_⟩
  · rw [sub_self, abs_zero]
    positivity
  · rw [sub_self, abs_zero] at h
    linarith

/-- A multiple that is nearer than half a step is the rounding, whatever happens to ties. -/
theorem of_near {k : ℤ} (h : |k * step - x| < step / 2) : Rounded tie step x (k * step) :=
  ⟨⟨k, rfl⟩, h.le, fun htie ↦ absurd htie h.ne⟩

/-- The rounding of the opposite number is the opposite of the rounding. -/
theorem neg (h : Rounded tie step x y) : Rounded tie step (-x) (-y) := by
  have hdiff : -y - -x = -(y - x) := by ring
  refine ⟨?_, ?_, fun htie ↦ ?_⟩
  · obtain ⟨k, rfl⟩ := h.multiple
    exact ⟨-k, by push_cast; ring⟩
  · rw [hdiff, abs_neg]
    exact h.near
  · rw [hdiff, abs_neg] at htie
    have htied := h.tied htie
    cases tie with
    | toEven =>
      obtain ⟨k, hk⟩ := htied
      exact ⟨-k, by rw [hk]; push_cast; ring⟩
    | awayFromZero => simpa only [Tie.Takes, abs_neg] using htied

/-- Rounding commutes with a positive factor. -/
theorem mul_right (h : Rounded tie step x y) {c : ℚ} (hc : 0 < c) :
    Rounded tie (step * c) (x * c) (y * c) := by
  have hdiff : |y * c - x * c| = |y - x| * c := by rw [← sub_mul, abs_mul, abs_of_pos hc]
  have hhalf : step * c / 2 = step / 2 * c := by ring
  refine ⟨?_, ?_, fun htie ↦ ?_⟩
  · obtain ⟨k, rfl⟩ := h.multiple
    exact ⟨k, mul_assoc _ _ _⟩
  · rw [hdiff, hhalf]
    exact mul_le_mul_of_nonneg_right h.near hc.le
  · rw [hdiff, hhalf] at htie
    have htied := h.tied (mul_right_cancel₀ hc.ne' htie)
    cases tie with
    | toEven =>
      obtain ⟨k, hk⟩ := htied
      exact ⟨k, by rw [hk]; ring⟩
    | awayFromZero =>
      rw [Tie.Takes, abs_mul, abs_mul, abs_of_pos hc]
      exact mul_lt_mul_of_pos_right htied hc

/-- A number at most a multiple is rounded to at most that multiple. -/
theorem le_multiple (hstep : 0 < step) (h : Rounded tie step x y) {k : ℤ} (hx : x ≤ k * step) :
    y ≤ k * step :=
  h.mono hstep (self hstep tie k) hx

/-- A number at least a multiple is rounded to at least that multiple. -/
theorem multiple_le (hstep : 0 < step) (h : Rounded tie step x y) {k : ℤ} (hx : k * step ≤ x) :
    k * step ≤ y :=
  (self hstep tie k).mono hstep h hx

theorem nonneg (hstep : 0 < step) (h : Rounded tie step x y) (hx : 0 ≤ x) : 0 ≤ y := by
  simpa using h.multiple_le (k := 0) hstep (by simpa using hx)

/-- The size of a number is rounded to the size of its rounding. -/
theorem abs (hstep : 0 < step) (h : Rounded tie step x y) : Rounded tie step |x| |y| := by
  rcases le_total 0 x with hx | hx
  · rwa [abs_of_nonneg hx, abs_of_nonneg (h.nonneg hstep hx)]
  · have hy := h.neg.nonneg hstep (by linarith)
    rw [abs_of_nonpos hx, abs_of_nonpos (by linarith)]
    exact h.neg

/-- The two ways to break ties differ just where a number lies halfway between an even multiple and
the next one away from zero. -/
theorem toEven_eq_iff {z : ℚ} (hstep : 0 < step) (h : Rounded .toEven step x y)
    (h' : Rounded .awayFromZero step x z) : y = z ↔ ¬ ∃ k : ℤ, |x| = (2 * k + 1 / 2) * step := by
  have hsize {x y z : ℚ} (hx : 0 ≤ x) (h : Rounded .toEven step x y)
      (h' : Rounded .awayFromZero step x z) : y = z ↔ ¬ ∃ k : ℤ, x = (2 * k + 1 / 2) * step := by
    have hy := h.nonneg hstep hx
    constructor
    · rintro rfl ⟨k, hk⟩
      have heven : Rounded .toEven step x ((2 * k : ℤ) * step) := by
        refine ⟨⟨_, rfl⟩, ?_, fun _ ↦ ⟨k, by push_cast; ring⟩⟩
        rw [hk, abs_le]
        push_cast
        constructor <;> linarith
      have heq := h.unique hstep heven
      have hfar := h'.tied (by rw [heq, hk, abs_eq (by positivity)]; push_cast; right; ring)
      rw [Tie.Takes, abs_of_nonneg hx, abs_of_nonneg hy, heq, hk] at hfar
      push_cast at hfar
      linarith
    · intro hnot
      by_contra hne
      have htie : |y - x| = step / 2 := by
        refine h.near.eq_of_not_lt fun hlt ↦ hne ?_
        obtain ⟨k, rfl⟩ := h.multiple
        exact (of_near hlt).unique hstep h'
      rcases lt_or_ge x y with hlt | hle
      · refine hne (unique hstep ⟨h.multiple, h.near, fun _ ↦ ?_⟩ h')
        rwa [Tie.Takes, abs_of_nonneg hx, abs_of_nonneg hy]
      · obtain ⟨k, hk⟩ := h.tied htie
        rw [abs_of_nonpos (by linarith)] at htie
        exact hnot ⟨k, by linarith⟩
  rcases le_total 0 x with hx | hx
  · rw [abs_of_nonneg hx]
    exact hsize hx h h'
  · rw [abs_of_nonpos hx, ← neg_inj]
    exact hsize (by linarith) h.neg h'.neg

end Rounded

/-! ### Quotients -/

/-- Halfway between two whole numbers the tie decides. -/
theorem rounded_half (tie : Tie) (q : ℕ) :
    Rounded tie 1 (q + 1 / 2) ((match tie with
      | .toEven => if q % 2 = 0 then q else q + 1
      | .awayFromZero => q + 1 : ℕ) : ℚ) := by
  have hnear (k : ℕ) (h : k = q ∨ k = q + 1) : |(k : ℚ) - (q + 1 / 2)| ≤ 1 / 2 := by
    rw [abs_le]
    rcases h with rfl | rfl <;> constructor <;> push_cast <;> linarith
  have hmultiple (k : ℕ) : ∃ i : ℤ, (k : ℚ) = i * 1 := ⟨k, by push_cast; ring⟩
  cases tie with
  | toEven =>
    refine ⟨hmultiple _, hnear _ (by dsimp only; split <;> simp), fun _ ↦ ?_⟩
    obtain ⟨j, hj⟩ : ∃ j, (if q % 2 = 0 then q else q + 1) = 2 * j :=
      ⟨(q + 1) / 2, by split <;> omega⟩
    exact ⟨j, by rw [hj]; push_cast; ring⟩
  | awayFromZero =>
    refine ⟨hmultiple _, hnear _ (.inr rfl), fun _ ↦ ?_⟩
    rw [Tie.Takes, abs_of_nonneg (by positivity), abs_of_nonneg (by positivity)]
    push_cast
    linarith

/-- The arithmetic of whole numbers rounds a quotient to the nearest whole number. -/
theorem rounded_roundQuotient (tie : Tie) (n : ℕ) {d : ℕ} (hd : 0 < d) :
    Rounded tie 1 ((n : ℚ) / d) (roundQuotient tie n d) := by
  have hd' : (0 : ℚ) < d := by exact_mod_cast hd
  have hrest : ((n % d : ℕ) : ℚ) < d := by exact_mod_cast Nat.mod_lt n hd
  obtain ⟨f, hf⟩ : ∃ f, f = ((n % d : ℕ) : ℚ) / d := ⟨_, rfl⟩
  have hlow : 0 ≤ f := by rw [hf]; positivity
  have hhigh : f < 1 := by rw [hf]; exact (div_lt_one hd').2 hrest
  have hdouble : 2 * f * d = (2 * (n % d) : ℕ) := by
    rw [hf]
    push_cast
    field_simp
  have hquotient : (n : ℚ) / d = (n / d : ℕ) + f := by
    rw [div_eq_iff hd'.ne', add_mul, hf, div_mul_cancel₀ _ hd'.ne', mul_comm]
    exact_mod_cast (Nat.div_add_mod n d).symm
  have hnear (k : ℕ) (h : |(k : ℚ) - (n / d : ℕ) - f| < 1 / 2) :
      Rounded tie 1 ((n / d : ℕ) + f) k := by
    have hmultiple : Rounded tie 1 ((n / d : ℕ) + f) ((k : ℤ) * 1) :=
      .of_near (by simpa [sub_sub] using h)
    simpa using hmultiple
  unfold roundQuotient
  rw [hquotient]
  split
  · rename_i h
    have h : ((2 * (n % d) : ℕ) : ℚ) < d := by exact_mod_cast h
    have hsmall : f < 1 / 2 := by nlinarith
    exact hnear _ (by rw [abs_lt]; constructor <;> linarith)
  · split
    · rename_i h
      have h : (d : ℚ) < (2 * (n % d) : ℕ) := by exact_mod_cast h
      have hlarge : 1 / 2 < f := by nlinarith
      exact hnear _ (by rw [abs_lt]; constructor <;> push_cast <;> linarith)
    · have h : (d : ℚ) = (2 * (n % d) : ℕ) := by exact_mod_cast (by omega : d = 2 * (n % d))
      obtain rfl : f = 1 / 2 := mul_right_cancel₀ hd'.ne' (by linarith)
      exact rounded_half tie (n / d)

/-- Every number has a nearest multiple. -/
theorem exists_rounded (tie : Tie) {step : ℚ} (hstep : 0 < step) (x : ℚ) :
    ∃ y, Rounded tie step x y := by
  have hsize : ∃ y, Rounded tie step |x| y := by
    have hquotient : 0 ≤ |x| / step := by positivity
    have hround := rounded_roundQuotient tie (|x| / step).num.natAbs (|x| / step).den_pos
    have hnum : (((|x| / step).num.natAbs : ℤ) : ℚ) = (|x| / step).num := by
      rw [Int.natAbs_of_nonneg (Rat.num_nonneg.2 hquotient)]
    rw [← Int.cast_natCast, hnum, Rat.num_div_den] at hround
    have hround := hround.mul_right hstep
    rw [one_mul, div_mul_cancel₀ _ hstep.ne'] at hround
    exact ⟨_, hround⟩
  obtain ⟨y, hy⟩ := hsize
  rcases abs_choice x with hx | hx
  · exact ⟨y, hx ▸ hy⟩
  · have hneg := hy.neg
    rw [hx, neg_neg] at hneg
    exact ⟨-y, hneg⟩

end Phrasebook.Arithmetic
