import Phrasebook.Proofs.RoundedArithmetic
import Phrasebook.Proofs.RoundedPlaces

/-!
How compact notation rounds.

A number of at least a thousand is rounded to the place that its own magnitude determines
(`Compact.place`), and a smaller one is left alone (`Compact.Compacts`). The second pass of the
rounding changes nothing (`Compact.exists_round`), so rounding is a rounding to a place that depends
on the leading digit and keeps the order of numbers (`Compact.Compacts.mono`).
-/

set_option autoImplicit false

namespace Phrasebook

open Arithmetic

namespace Decimal

variable {s : Bool} {c : ℕ} {e : ℤ} {f : ℚ}

theorem ne_zero_of_roundedAt {tie : Tie} {place : ℤ → ℤ} {y : ℚ}
    (h : RoundedAt tie place (finite s c e).value y) : c ≠ 0 :=
  value_eq_zero_iff.not.1 h.ne_zero

/-- The leading digit of a number stands where that of its rounding stands, or one place below. -/
theorem lead_of_roundedAt (h : RoundedAt .toEven (lastOf 28) (finite s c e).value f) {k : ℤ}
    (hk : LeadsAt f k) : k = e + decimalLength c - 1 ∨ k = e + decimalLength c := by
  have hlast : ∀ k, lastOf 28 k ≤ k := fun k ↦ lastOf_le (by decide) k
  rcases h.leads hlast (leadsAt (ne_zero_of_roundedAt h) s e) with hlead | hlead
  · exact .inl (hk.unique hlead)
  · refine .inr (hk.unique ⟨?_, ?_⟩)
    · rw [hlead, Int.sub_add_cancel]
    · rw [hlead]
      exact ten_zpow_lt_iff.2 (by omega)

end Decimal

namespace Compact

open Decimal

variable {s : Bool} {c k : ℕ} {e : ℤ} {f x x' y y' : ℚ}

/-- The place to which a number is rounded that has its leading digit at `10 ^ k`. -/
def place (k : ℤ) : ℤ :=
  k - k % 3 - if k % 3 = 0 then 1 else 0

theorem place_le (k : ℤ) : place k ≤ k := by
  unfold place
  split <;> omega

theorem place_natCast (k : ℕ) :
    place k = (k : ℤ) - k % 3 - ((if k % 3 = 0 then 1 else 0 : ℕ) : ℤ) := by
  unfold place
  by_cases h : k % 3 = 0
  · rw [if_pos h, if_pos (by omega), Nat.cast_one]
  · rw [if_neg h, if_neg (by omega), Nat.cast_zero]

theorem stepOf_eq (hk : 3 ≤ k) :
    ∃ step : ℕ, stepOf k = (step, if k % 3 = 0 then 1 else 0) ∧ (step : ℤ) = place k := by
  refine ⟨_, rfl, ?_⟩
  unfold place
  split <;> split <;> omega

/-! ### What is rounded to what -/

/-- What compact notation makes of a number, which it sees fitted to 28 digits: one of at least a
thousand is rounded to the place that belongs to it, and a smaller one stays as it is. -/
def Compacts (x y : ℚ) : Prop :=
  ∃ f, Fits 28 x f ∧ (|f| < 1000 ∧ y = x ∨ 1000 ≤ |f| ∧ RoundedAt .awayFromZero place f y)

theorem lead_of_le (h : 1000 ≤ |x|) {k : ℤ} (hk : LeadsAt x k) : 3 ≤ k := by
  have : (10 : ℚ) ^ (3 : ℤ) < 10 ^ (k + 1) := lt_of_le_of_lt (by norm_num [h]) hk.2
  have := ten_zpow_lt_iff.1 this
  omega

theorem le_of_lead (hk : LeadsAt x k) (h : 3 ≤ k) : 1000 ≤ |x| := by
  have : (10 : ℚ) ^ (3 : ℤ) ≤ 10 ^ (k : ℤ) := ten_zpow_le (by omega)
  norm_num at this
  exact_mod_cast this.trans (by exact_mod_cast hk.1)

/-- A number below a thousand has no more digits than are read. -/
theorem thousand_le_limit : (1000 : ℚ) ≤ 10 ^ (Text.LongNumeral.limit : ℤ) :=
  le_trans (by norm_num) (ten_zpow_le (by decide : (3 : ℤ) ≤ Text.LongNumeral.limit))

/-- A rounding to a place below the leading digit does not bring a large number below a thousand. -/
theorem thousand_le {tie : Tie} {place : ℤ → ℤ} (hplace : ∀ k, place k ≤ k) (h : 1000 ≤ |x|)
    (hround : RoundedAt tie place x y) : 1000 ≤ |y| := by
  have hlow := hround.le_abs hplace (j := 3) (by norm_num [h])
  norm_num at hlow
  exact hlow

theorem lead_of_large (hf : Fits 28 x f) (hlarge : 1000 ≤ |f|) : ∃ k, LeadsAt x k ∧ 2 ≤ k := by
  rcases hf with ⟨-, rfl⟩ | ⟨k, hk, hround⟩
  · norm_num at hlarge
  refine ⟨k, hk, ?_⟩
  by_contra hlt
  have hsmall := hround.abs_le (by unfold fitPlace lastOf minExponent; omega)
    (hk.2.le.trans (ten_zpow_le (by omega : k + 1 ≤ 2)))
  norm_num at hsmall
  linarith

/-- A large number is seen rounded to its first digits. -/
theorem roundedAt_of_large (hf : Fits 28 x f) (hlarge : 1000 ≤ |f|) :
    RoundedAt .toEven (lastOf 28) x f := by
  obtain ⟨k, hk, htwo⟩ := lead_of_large hf hlarge
  exact (Fits.roundedAt_iff hk (by unfold minExponent; omega)).1 hf

theorem ne_zero_of_large (h : 1000 ≤ |x|) : x ≠ 0 := by
  rintro rfl
  norm_num at h

/-- The leading digit of a large number stands before its point. -/
theorem exists_lead (h : 1000 ≤ |x|) : ∃ k : ℕ, 3 ≤ k ∧ LeadsAt x k := by
  obtain ⟨k, hk⟩ := exists_leadsAt (ne_zero_of_large h)
  have hthree := lead_of_le h hk
  obtain ⟨n, rfl⟩ := Int.eq_ofNat_of_zero_le (by omega : 0 ≤ k)
  exact ⟨n, by omega, hk⟩

theorem lt_thousand (hf : Fits 28 x f) (h : |f| < 1000) : |x| < 1000 := by
  have := hf.abs_lt (m := 3) (by decide) (by decide) (by norm_num [h])
  norm_num at this
  exact this

/-- A multiple of the step at its own place has no digits beyond those that are shown. -/
theorem multiple_of_place {k : ℕ} (hk : LeadsAt y k)
    (h : ∃ k, LeadsAt y k ∧ ∃ i : ℤ, y = i * 10 ^ place k) :
    ∃ i : ℤ, y = i * 10 ^ (-((if k % 3 = 0 then 1 else 0 : ℕ) : ℤ)) := by
  obtain ⟨k', hk', i, hi⟩ := h
  obtain rfl := hk.unique hk'
  have hplace : -((if k % 3 = 0 then 1 else 0 : ℕ) : ℤ) ≤ place k := by
    rw [place_natCast]
    omega
  obtain ⟨j, hj⟩ := exists_ten_zpow_eq hplace
  exact ⟨i * j, by rw [hi, hj]; push_cast; ring⟩

/-- A multiple of the step at its own place is seen as it is. -/
theorem fits_of_multiple (hlarge : 1000 ≤ |y|)
    (h : ∃ k, LeadsAt y k ∧ ∃ i : ℤ, y = i * 10 ^ place k) : Fits 28 y y := by
  obtain ⟨k, hk, hmultiple⟩ := h
  have hthree := lead_of_le hlarge hk
  have hplace : k - 2 ≤ place k + 1 := by
    unfold place
    split <;> omega
  refine .self hmultiple ?_ (by unfold minExponent; omega)
  exact hk.2.trans_le (ten_zpow_le (by push_cast; omega))

namespace Compacts

theorem unique (h : Compacts x y) (h' : Compacts x y') : y = y' := by
  obtain ⟨f, hf, hy⟩ := h
  obtain ⟨f', hf', hy'⟩ := h'
  obtain rfl := hf.unique hf'
  rcases hy with ⟨hsmall, rfl⟩ | ⟨hlarge, hy⟩
  · rcases hy' with ⟨-, rfl⟩ | ⟨hlarge', -⟩
    · rfl
    · exact absurd hsmall hlarge'.not_gt
  · rcases hy' with ⟨hsmall', -⟩ | ⟨-, hy'⟩
    · exact absurd hsmall' hlarge.not_gt
    · exact hy.unique hy'

/-- What was rounded is not rounded again. -/
theorem again (h : Compacts x y) : Compacts y y := by
  obtain ⟨f, hf, ⟨hsmall, rfl⟩ | ⟨hlarge, hy⟩⟩ := h
  · exact ⟨f, hf, .inl ⟨hsmall, rfl⟩⟩
  · have hlarge' := thousand_le place_le hlarge hy
    exact ⟨y, fits_of_multiple hlarge' (hy.exists_multiple place_le),
      .inr ⟨hlarge', hy.again place_le⟩⟩

/-- A number that stays as it is keeps its place below one that is rounded. -/
theorem small_le (hf : Fits 28 x f) (hsmall : |f| < 1000) {f' : ℚ} (hf' : Fits 28 x' f')
    (hlarge : 1000 ≤ |f'|) (hy' : RoundedAt .awayFromZero place f' y') (hle : x ≤ x') : x ≤ y' := by
  have hlast : ∀ k, lastOf 28 k ≤ k := fun k ↦ lastOf_le (by decide) k
  have hround' := roundedAt_of_large hf' hlarge
  rcases le_or_gt 0 f' with hpos | hneg
  · have hy := hy'.pos place_le (hpos.lt_of_ne fun h ↦ by norm_num [← h] at hlarge)
    have hfar := thousand_le place_le hlarge hy'
    rw [abs_of_pos hy] at hfar
    exact (le_abs_self x).trans ((lt_thousand hf hsmall).le.trans hfar)
  · -- a number below one that is rounded to a negative number is rounded itself
    have hx' : x' < 0 := by
      refine lt_of_le_of_ne (not_lt.1 fun hpos ↦ ?_) hround'.ne_zero
      exact absurd (hround'.pos hlast hpos) hneg.not_gt
    have hx := hle.trans_lt hx'
    obtain ⟨k', hk', htwo⟩ := lead_of_large hf' hlarge
    obtain ⟨k, hk⟩ := exists_leadsAt hx.ne
    have hkk' := hk'.le_of_le hk (by rw [abs_of_neg hx, abs_of_neg hx']; linarith)
    have hround := (Fits.roundedAt_iff hk (by unfold minExponent; omega)).1 hf
    have hff' := hround.mono hlast hround' hle
    rw [abs_of_neg hneg] at hlarge
    rw [abs_of_neg (by linarith)] at hsmall
    linarith

/-- Compact rounding keeps the order of numbers. -/
theorem mono (h : Compacts x y) (h' : Compacts x' y') (hle : x ≤ x') : y ≤ y' := by
  obtain ⟨f, hf, ⟨hsmall, rfl⟩ | ⟨hlarge, hy⟩⟩ := h
  · obtain ⟨f', hf', ⟨hsmall', rfl⟩ | ⟨hlarge', hy'⟩⟩ := h'
    · exact hle
    · exact small_le hf hsmall hf' hlarge' hy' hle
  · obtain ⟨f', hf', ⟨hsmall', rfl⟩ | ⟨hlarge', hy'⟩⟩ := h'
    · refine neg_le_neg_iff.1 (small_le (x := -y') hf'.neg (by rwa [abs_neg]) hf.neg
        (by rwa [abs_neg]) hy.neg (neg_le_neg hle))
    · exact hy.mono place_le hy' ((roundedAt_of_large hf hlarge).mono
        (fun k ↦ lastOf_le (by decide) k) (roundedAt_of_large hf' hlarge') hle)

end Compacts

/-! ### The two passes -/

/-- In units of its step a number is rounded to a whole number, which has few digits. -/
theorem rounded_units {step : ℕ} (hk : LeadsAt f k) (hstep : (step : ℤ) = place k)
    (hy : RoundedAt .awayFromZero place f y) :
    Rounded .awayFromZero (10 ^ (0 : ℤ)) (f * 10 ^ (-step : ℤ)) (y * 10 ^ (-step : ℤ)) ∧
      |y * 10 ^ (-step : ℤ)| < 10 ^ (28 : ℤ) := by
  obtain ⟨k', hk', hround⟩ := hy
  obtain rfl := hk.unique hk'
  have hbound := (RoundedAt.bounds place_le hk ⟨_, hk, hround⟩).2
  have hnear : (k : ℤ) - 3 ≤ step := by
    rw [hstep]
    unfold place
    split <;> omega
  constructor
  · have hunits := (hstep ▸ hround).mul_right (ten_zpow_pos (-step))
    rwa [← zpow_add₀ (by norm_num), add_neg_cancel] at hunits
  · rw [abs_mul, abs_of_pos (ten_zpow_pos _)]
    refine (mul_le_mul_of_nonneg_right hbound (ten_zpow_pos _).le).trans_lt ?_
    rw [← zpow_add₀ (by norm_num)]
    exact ten_zpow_lt_iff.2 (by omega)

/-- One pass rounds to the place that the leading digit determines. -/
theorem roundOnce_eq (hf : Fits 28 (finite s c e).value f) (hk : LeadsAt f k) (hlow : 3 ≤ k)
    (hhigh : k < Text.LongNumeral.limit)
    (hy : RoundedAt .awayFromZero place f y) :
    ∃ kept e', roundOnce (finite s c e) = .ok (finite s kept e', if k % 3 = 0 then 1 else 0) ∧
      kept < 10 ^ 28 ∧ (finite s kept e').value = y := by
  have hlimit : k < 4300 := hhigh
  have hsize : |f| < 10 ^ maxExponent :=
    hk.2.trans_le (ten_zpow_le (by unfold maxExponent; omega))
  obtain ⟨a, g, habs, hvalue⟩ := exists_abs hf hsize
  have hexponent : (finite false a g).leadingExponent.toNat = k := by
    have ha : a ≠ 0 := value_eq_zero_iff.not.1 (hvalue ▸ hk.abs.ne_zero)
    have := (leadsAt ha false g).unique (hvalue ▸ hk.abs)
    rw [leadingExponent, this, Int.toNat_natCast]
  -- the number in units of the step
  have hf := roundedAt_of_large hf (le_of_lead hk hlow)
  have hlead := lead_of_roundedAt hf hk
  obtain ⟨step, hstep, hplace⟩ := stepOf_eq hlow
  have hbelow : (step : ℤ) ≤ k := hplace ▸ place_le k
  obtain ⟨c', e', hdivide, -, hquotient⟩ := divide_ten (ne_zero_of_roundedAt hf) (e := e) (i := 0)
    (j := step) (by unfold minExponent; omega) (by unfold maxExponent; omega) s
  rw [pow_zero] at hdivide
  rw [Nat.cast_zero, sub_zero] at hquotient
  have hquotient := hquotient.unique (roundedAt_mul_ten_zpow hf (-step))
  -- its rounding to a whole number, and back
  obtain ⟨hround, hsmall⟩ := rounded_units hk hplace hy
  rw [← hquotient] at hround
  obtain ⟨kept, hquantize, hkept⟩ := quantize_eq_ok (p := 28) hround (by decide) (by decide)
    (by decide) (by simpa using hsmall) (hsmall.trans (ten_zpow_lt_iff.2 (by decide)))
  have hdigits : kept < 10 ^ 28 := by
    refine coefficient_lt (s := s) (e := 0) ?_
    rw [hkept]
    simpa using hsmall
  have hscale : (finite s kept 0).scale 1 step = .ok (finite s kept step) := by
    have hlen := decimalLength_le hdigits (by decide)
    rw [scale, Nat.mul_one, Int.zero_add]
    exact fit_eq hdigits (by decide) (by unfold minExponent; omega)
      (by unfold maxExponent; omega)
  refine ⟨kept, step, ?_, hdigits, ?_⟩
  · unfold roundOnce
    have hquantize : (finite s c' e').quantize defaultPrecision .awayFromZero 0 = _ := hquantize
    simp only [habs, bind, Except.bind, hexponent, hstep, hdivide]
    rw [if_neg (Nat.not_le.2 hhigh), hquantize]
    dsimp only
    rw [hscale]
    rfl
  · have hback := value_mul_ten_zpow (s := s) (c := kept) (e := 0) step
    rw [Int.zero_add, hkept, mul_assoc, ← zpow_add₀ (by norm_num), neg_add_cancel, zpow_zero,
      mul_one] at hback
    exact hback.symm

/-- A pass has a result only for a number with no more digits before its point than are read. -/
theorem lt_limit_of_roundOnce (hf : Fits 28 (finite s c e).value f) {k : ℤ} (hk : LeadsAt f k)
    {r : Decimal × ℕ} (h : roundOnce (finite s c e) = .ok r) :
    k < Text.LongNumeral.limit := by
  obtain ⟨d, habs, h⟩ := bind_eq_ok h
  obtain ⟨a, g, rfl, hvalue⟩ := abs_sound hf habs
  have ha : a ≠ 0 := value_eq_zero_iff.not.1 (hvalue ▸ hk.abs.ne_zero)
  have hlead := (leadsAt ha false g).unique (hvalue ▸ hk.abs)
  by_contra hle
  dsimp only at h
  rw [if_pos (by rw [leadingExponent, hlead]; omega)] at h
  cases h

theorem round_of_abs {t : Bool} {a : ℕ} {g : ℤ} (h : (finite s c e).abs = .ok (finite t a g)) :
    round (finite s c e) =
      if (finite t a g).value < 1000 then
        .ok (finite s c e, if (finite t a g).value < 10 then 1 else 0)
      else roundOnce (finite s c e) >>= fun once ↦ roundOnce once.1 := by
  unfold round
  simp only [h, bind, Except.bind, lessThan_finite, isInfinite, pure, Except.pure, Nat.cast_ofNat,
    decide_eq_true_eq, Bool.false_eq_true, if_false]

/-- Rounding has a result for every number whose rounding has at most 4300 digits. The second pass
rounds what the first one gave, which stays as it is. -/
theorem exists_round
    (hread : ∀ y, Compacts (finite s c e).value y → |y| < 10 ^ (Text.LongNumeral.limit : ℤ)) :
    ∃ c' e' places, round (finite s c e) = .ok (finite s c' e', places) ∧
      Compacts (finite s c e).value (finite s c' e').value ∧
      (1000 ≤ |(finite s c' e').value| → ∃ k : ℕ, LeadsAt (finite s c' e').value k ∧
        places = if k % 3 = 0 then 1 else 0) ∧
      (|(finite s c' e').value| < 1000 → finite s c' e' = finite s c e) := by
  have hlimit : (Text.LongNumeral.limit : ℤ) = 4300 := rfl
  obtain ⟨f, hf⟩ := Fits.exists_fits 28 (finite s c e).value
  rcases lt_or_ge |f| 1000 with hsmall | hlarge
  · obtain ⟨a, g, habs, hvalue⟩ := exists_abs hf (hsmall.trans (lt_of_lt_of_le (by norm_num)
      (ten_zpow_le (by decide : (4 : ℤ) ≤ maxExponent))))
    refine ⟨c, e, _, by rw [round_of_abs habs, hvalue, if_pos hsmall],
      ⟨f, hf, .inl ⟨hsmall, rfl⟩⟩, fun hlarge ↦ ?_, fun _ ↦ rfl⟩
    exact absurd (lt_thousand hf hsmall) hlarge.not_gt
  · obtain ⟨y, hy⟩ := exists_roundedAt .awayFromZero place (ne_zero_of_large hlarge)
    have hcompacts : Compacts (finite s c e).value y := ⟨f, hf, .inr ⟨hlarge, hy⟩⟩
    obtain ⟨n, hthree, hk⟩ := exists_lead hlarge
    have hbelow := ten_zpow_lt_iff.1 ((hy.bounds place_le hk).1.trans_lt (hread y hcompacts))
    obtain ⟨a, g, habs, hvalue⟩ := exists_abs hf
      (hk.2.trans_le (ten_zpow_le (by unfold maxExponent; omega)))
    obtain ⟨c₁, e₁, honce, -, rfl⟩ := roundOnce_eq hf hk (by omega) (by omega) hy
    -- the second pass sees the result of the first one as it is
    have hlarge' := thousand_le place_le hlarge hy
    have hself := fits_of_multiple hlarge' (hy.exists_multiple place_le)
    obtain ⟨n', hthree', hk'⟩ := exists_lead hlarge'
    have hbelow' := ten_zpow_lt_iff.1 (hk'.1.trans_lt (hread _ hcompacts))
    obtain ⟨c₂, e₂, htwice, -, hvalue'⟩ := roundOnce_eq hself hk' (by omega) (by omega)
      (hy.again place_le)
    refine ⟨c₂, e₂, _, ?_, hvalue' ▸ hcompacts, fun _ ↦ ⟨n', hvalue' ▸ hk', rfl⟩, fun h ↦ ?_⟩
    · rw [round_of_abs habs, hvalue, if_neg hlarge.not_gt, honce]
      exact htwice
    · rw [hvalue'] at h
      exact absurd h hlarge'.not_gt

/-- Conversely, only such a number has a result. -/
theorem lt_limit_of_round {r : Decimal × ℕ} (h : round (finite s c e) = .ok r)
    (hy : Compacts (finite s c e).value y) : |y| < 10 ^ (Text.LongNumeral.limit : ℤ) := by
  obtain ⟨f, hf, ⟨hsmall, rfl⟩ | ⟨hlarge, hy⟩⟩ := hy
  · exact (lt_thousand hf hsmall).trans_le thousand_le_limit
  obtain ⟨d, habs, -⟩ := bind_eq_ok h
  obtain ⟨a, g, rfl, hvalue⟩ := abs_sound hf habs
  rw [round_of_abs habs, hvalue, if_neg hlarge.not_gt] at h
  obtain ⟨once, honce, htwice⟩ := bind_eq_ok h
  obtain ⟨n, hthree, hk⟩ := exists_lead hlarge
  have hlimit := lt_limit_of_roundOnce hf hk honce
  obtain ⟨c₁, e₁, honce', -, rfl⟩ := roundOnce_eq hf hk hthree (by omega) hy
  obtain rfl := Except.ok.inj (honce'.symm.trans honce)
  have hlarge' := thousand_le place_le hlarge hy
  obtain ⟨k', -, hk'⟩ := exists_lead hlarge'
  have hlimit' := lt_limit_of_roundOnce
    (fits_of_multiple hlarge' (hy.exists_multiple place_le)) hk' htwice
  exact hk'.2.trans_le (ten_zpow_le hlimit')

/-- A bound that is a power of ten bounds the rounded number, too. -/
theorem Compacts.abs_le (h : Compacts x y) {j : ℤ} (hx : |x| ≤ 10 ^ j) : |y| ≤ 10 ^ j := by
  have hpower {tie : Tie} {place : ℤ → ℤ} (hplace : ∀ k, place k ≤ k) {z w : ℚ}
      (hz : RoundedAt tie place z w) (hle : |z| ≤ 10 ^ j) : |w| ≤ 10 ^ j := by
    have hlead : LeadsAt ((10 : ℚ) ^ j) j := by
      rw [LeadsAt, abs_of_pos (ten_zpow_pos j)]
      exact ⟨le_rfl, ten_zpow_lt_iff.2 (Int.lt_succ j)⟩
    exact hz.abs.mono hplace (.self hlead (exists_ten_zpow_eq (hplace j))) hle
  obtain ⟨f, hf, ⟨-, rfl⟩ | ⟨hlarge, hy⟩⟩ := h
  · exact hx
  · exact hpower place_le hy
      (hpower (fun k ↦ lastOf_le (by decide) k) (roundedAt_of_large hf hlarge) hx)

/-- A number of at most 28 digits is rounded as it is. -/
theorem Compacts.rounded (h : Compacts x y) (hx : 1000 ≤ |x|) (hdigits : FewDigits 28 x) :
    RoundedAt .awayFromZero place x y := by
  obtain ⟨f, hf, ⟨hsmall, -⟩ | ⟨hlarge, hy⟩⟩ := h
  · exact absurd (lt_thousand hf hsmall) hx.not_gt
  · have hround := roundedAt_of_large hf hlarge
    obtain rfl := hround.unique (hdigits.roundedAt hround.ne_zero)
    exact hy

/-- What a large number is rounded to is a multiple of the step at its own place. -/
theorem Compacts.exists_multiple (h : Compacts x y) (hx : 1000 ≤ |x|) :
    ∃ k, LeadsAt y k ∧ ∃ i : ℤ, y = i * 10 ^ place k := by
  obtain ⟨f, hf, ⟨hsmall, -⟩ | ⟨-, hy⟩⟩ := h
  · exact absurd (lt_thousand hf hsmall) hx.not_gt
  · exact RoundedAt.exists_multiple place_le hy

/-- Rounding keeps the sign, and a large number large. -/
theorem Compacts.large (h : Compacts x y) (hx : 1000 ≤ |x|) :
    1000 ≤ |y| ∧ (0 < x ↔ 0 < y) := by
  obtain ⟨f, hf, ⟨hsmall, -⟩ | ⟨hlarge, hy⟩⟩ := h
  · exact absurd (lt_thousand hf hsmall) hx.not_gt
  · have hf := roundedAt_of_large hf hlarge
    have hlast : ∀ k, lastOf 28 k ≤ k := fun k ↦ lastOf_le (by decide) k
    have hfar := thousand_le place_le hlarge hy
    refine ⟨hfar, fun hpos ↦ hy.pos place_le (hf.pos hlast hpos), fun hpos ↦ ?_⟩
    by_contra hneg
    have hx' : x < 0 := (not_lt.1 hneg).lt_of_ne fun h ↦ by norm_num [h] at hx
    have := hy.neg.pos place_le (hf.neg.pos hlast (neg_pos.2 hx'))
    linarith

end Compact

/-- A finite number that can be written and whose rounding in compact notation has at most as many
digits as are read. -/
structure Number.Compactable (n : Number) : Prop where
  written : n.isOverlong = false
  finite : ∃ s c e, n.toDecimal = .finite s c e
  read : ∀ y, Compact.Compacts n.toDecimal.value y → |y| < 10 ^ (Text.LongNumeral.limit : ℤ)

namespace Format

open Phrasebook.Compact

/-- A number rounded the way compact notation shows it, with its fraction digits. -/
def compacted (v : Value) : Except FormatFault (Decimal × ℕ) := do
  arith (Compact.round (← decimalOf v))

theorem exists_compacted {n : Number} (h : n.Compactable) :
    ∃ s c e places, compacted (.number n) = .ok (.finite s c e, places) ∧
      Compacts n.toDecimal.value (Decimal.finite s c e).value ∧
      (1000 ≤ |(Decimal.finite s c e).value| → ∃ k : ℕ, LeadsAt (Decimal.finite s c e).value k ∧
        places = if k % 3 = 0 then 1 else 0) ∧
      (|(Decimal.finite s c e).value| < 1000 → Decimal.finite s c e = n.toDecimal) := by
  obtain ⟨s, c, e, hn⟩ := h.finite
  have hread := h.read
  rw [hn] at hread ⊢
  obtain ⟨c', e', places, hround, hcompacts⟩ := exists_round hread
  refine ⟨s, c', e', places, ?_, hcompacts⟩
  rw [compacted, decimalOf_number h.written, hn]
  exact congrArg arith hround

/-- Compact rounding has a result for every number that stays within the numerals that are read. It
keeps the order of numbers and does nothing to its own results. A number of at least a thousand
keeps its sign; it gets one fraction digit just if a single digit stands before the point in its
unit, is a multiple of the last digit that is shown, and, if it has no more digits than decimal
arithmetic keeps, is the nearest one of the step that belongs to its magnitude, ties going away from
zero. -/
theorem compacted_stable (n : Number) (h : n.Compactable) :
    ∃ r places, compacted (.number n) = .ok (r, places) ∧
      (∀ (m : Number) (q : Decimal) (l : ℕ), m.Compactable →
        compacted (.number m) = .ok (q, l) → n.toDecimal.value ≤ m.toDecimal.value →
          r.value ≤ q.value) ∧
      (∃ r', compacted (.number (.decimal r)) = .ok (r', places) ∧ r'.value = r.value) ∧
      (1000 ≤ |n.toDecimal.value| →
        (0 < n.toDecimal.value ↔ 0 < r.value) ∧
        ∃ k : ℕ, LeadsAt r.value k ∧ places = (if (k + 1) % 3 = 1 then 1 else 0) ∧
          (∃ i : ℤ, r.value = i * 10 ^ ((k : ℤ) - k % 3 - places)) ∧
          (Decimal.FewDigits 28 n.toDecimal.value → ∃ j, LeadsAt n.toDecimal.value j ∧
            Rounded .awayFromZero (10 ^ place j) n.toDecimal.value r.value)) := by
  obtain ⟨s, c, e, places, hround, hcompacts, hplaces, hsmall⟩ := exists_compacted h
  refine ⟨_, places, hround, fun m q l hm hq hle ↦ ?_, ?_, fun hlarge ↦ ?_⟩
  · obtain ⟨s', c', e', places', hround', hcompacts', -⟩ := exists_compacted hm
    obtain ⟨rfl, -⟩ := Prod.mk.inj (Except.ok.inj (hround'.symm.trans hq))
    exact hcompacts.mono hcompacts' hle
  · have hagain : (Number.decimal (.finite s c e)).Compactable :=
      ⟨rfl, ⟨s, c, e, rfl⟩, fun y hy ↦ hcompacts.again.unique hy ▸ h.read _ hcompacts⟩
    rcases lt_or_ge |(Decimal.finite s c e).value| 1000 with hlt | hle
    · refine ⟨.finite s c e, ?_, rfl⟩
      rw [← hround, compacted, compacted, decimalOf_number hagain.written,
        decimalOf_number h.written, ← hsmall hlt]
      rfl
    · obtain ⟨s', c', e', places', hround', hcompacts', hplaces', -⟩ := exists_compacted hagain
      have hvalue := hcompacts'.unique hcompacts.again
      rw [hvalue] at hplaces'
      obtain ⟨k, hk, rfl⟩ := hplaces hle
      obtain ⟨k', hk', rfl⟩ := hplaces' hle
      obtain rfl : k = k' := by exact_mod_cast hk.unique hk'
      exact ⟨_, hround', hvalue⟩
  · obtain ⟨hfar, hsign⟩ := hcompacts.large hlarge
    obtain ⟨k, hk, rfl⟩ := hplaces hfar
    have hthree := lead_of_le hfar hk
    refine ⟨hsign, k, hk, ?_, ?_, hcompacts.rounded hlarge⟩
    · congr 1
      rw [eq_iff_iff]
      omega
    · obtain ⟨k', hk', i, hi⟩ := hcompacts.exists_multiple hlarge
      obtain rfl := hk.unique hk'
      refine ⟨i, hi.trans ?_⟩
      rw [place_natCast]

theorem compactable_of_le {n : Number} {s : Bool} {c : ℕ} {e : ℤ} (hn : n.isOverlong = false)
    (hd : n.toDecimal = .finite s c e) (hsize : |n.toDecimal.value| ≤ 10 ^ (4299 : ℤ)) :
    n.Compactable :=
  ⟨hn, ⟨s, c, e, hd⟩, fun _ hy ↦ (hy.abs_le hsize).trans_lt (ten_zpow_lt_iff.2 (by decide))⟩

theorem compacted_stable_carry :
    (Number.integer 999950).Compactable ∧
      compacted (.number (.integer 999950)) = .ok (.finite false 10 5, 1) ∧
      Rounded .awayFromZero (10 ^ 3) 999950 1000000 := by
  have hvalue : (Number.integer 999950).toDecimal.value = 999950 := by
    norm_num [Number.toDecimal, Decimal.ofInt, Decimal.value]
  have hvalue' : (Decimal.finite false 10 5).value = 1000000 := by
    norm_num [Decimal.value]
  have hlead : LeadsAt (999950 : ℚ) 5 := by norm_num [LeadsAt, abs_of_pos]
  have hrange : (Number.integer 999950).Compactable := by
    refine compactable_of_le (by decide +kernel) rfl ?_
    rw [hvalue]
    exact hlead.2.le.trans (ten_zpow_le (by decide))
  have hcarry : compacted (.number (.integer 999950)) = .ok (.finite false 10 5, 1) := by
    decide +kernel
  obtain ⟨r, places, hr, -, -, hlarge⟩ := compacted_stable _ hrange
  obtain ⟨rfl, rfl⟩ := Prod.mk.inj (Except.ok.inj (hcarry.symm.trans hr))
  rw [hvalue, hvalue'] at hlarge
  obtain ⟨-, k, -, -, -, hnear⟩ := hlarge (by norm_num [abs_of_pos])
  obtain ⟨j, hj, hround⟩ := hnear ⟨999950, 0, by decide, by norm_num⟩
  obtain rfl := hj.unique hlead
  have hplace : place 5 = 3 := by decide
  rw [hplace] at hround
  exact ⟨hrange, hcarry, by exact_mod_cast hround⟩

/-- A double is rounded as the number that its shortest text spells. This one is spelled as a number
halfway between two steps and lies below it, where the whole number of its value is rounded down.
And a number with more digits before its point than are read is not rounded at all. -/
theorem compacted_belowTie :
    compacted (.number (.decimal (.finite false 1 4300))) = .error .invalidOperation ∧
    ∃ x : Binary64, x.value = 1149999999999999953862656 ∧
      compacted (.number (.integer 1149999999999999953862656)) =
        .ok (.finite false 11 23, 1) ∧
      compacted (.number (.binary x)) = .ok (.finite false 12 23, 1) ∧
      (Decimal.finite false 11 23).value < (Decimal.finite false 12 23).value ∧
      (10 : ℚ) ^ 23 / 2 < |(Decimal.finite false 12 23).value - x.value| := by
  refine ⟨by decide +kernel, .finite false 8568167686462402 27 (by decide), ?_, by decide +kernel,
    by decide +kernel, ?_, ?_⟩
  · norm_num [Binary64.value]
  · norm_num [Decimal.value]
  · norm_num [Decimal.value, Binary64.value, abs_of_pos]

end Format

end Phrasebook
