import Phrasebook.Proofs.NearestDoubles
import Phrasebook.Proofs.RoundedArithmetic

/-!
The shortest decimal number of a double.

A number is rounded to a double just if it lies between the points halfway to the neighbours of the
double (`Binary64.Inside`), and the decimal number that is found for the double lies there
(`Binary64.inside_shortest`): on a grid of seventeen digits one step is less than the distance of
the halfway points, so a point is found on it or before. Hence a double is read back from its
shortest decimal number (`Binary64.toBinary64_shortest`). Up to `2 ^ 53` the whole numbers are at
least half their distance apart from the halfway points, and a whole double is its own shortest
decimal number (`Binary64.shortest_of_whole`).
-/

set_option autoImplicit false

namespace Phrasebook

open Arithmetic

namespace Binary64

/-! ### The numbers that round to a double -/

/-- A number between the points halfway to the two neighbours of the positive double `m * 2 ^ e`.
The points themselves count if the significand is even. -/
structure Inside (m : ℕ) (e : ℤ) (x : ℚ) : Prop where
  low : (roundingInterval m e).1 * 2 ^ (e - 2) ≤ x
  high : x ≤ (roundingInterval m e).2.2 * 2 ^ (e - 2)
  ends : m % 2 ≠ 0 → (roundingInterval m e).1 * 2 ^ (e - 2) ≠ x ∧
    x ≠ (roundingInterval m e).2.2 * 2 ^ (e - 2)

section Interval

variable {m : ℕ} {e : ℤ} {x : ℚ}

theorem Inside.of_lt (hlow : (roundingInterval m e).1 * 2 ^ (e - 2) < x)
    (hhigh : x < (roundingInterval m e).2.2 * 2 ^ (e - 2)) : Inside m e x :=
  ⟨hlow.le, hhigh.le, fun _ ↦ ⟨hlow.ne, hhigh.ne⟩⟩

theorem two_zpow_eq (e : ℤ) :
    (2 : ℚ) ^ e = 4 * 2 ^ (e - 2) ∧ (2 : ℚ) ^ (e - 1) = 2 * 2 ^ (e - 2) := by
  rw [zpow_sub₀ two_ne_zero, zpow_sub₀ two_ne_zero]
  constructor <;> ring

theorem roundingInterval_high (m : ℕ) (e : ℤ) :
    ((roundingInterval m e).2.2 : ℚ) = 4 * m + 2 := by
  simp only [roundingInterval]
  push_cast
  ring

/-- The halfway point below is nearer where the doubles below are closer together. -/
theorem roundingInterval_low (hm : m ≠ 0) (e : ℤ) : ((roundingInterval m e).1 : ℚ) =
    if m = 2 ^ 52 ∧ e ≠ -1074 then 4 * (m : ℚ) - 1 else 4 * m - 2 := by
  simp only [roundingInterval]
  split
  · rw [Nat.cast_sub (by omega)]
    push_cast
    ring
  · rw [Nat.cast_sub (by omega)]
    push_cast
    ring

/-- A double is between the points halfway to its neighbours. -/
theorem roundingInterval_lt (hm : m ≠ 0) (e : ℤ) :
    (roundingInterval m e).1 * 2 ^ (e - 2) < m * (2 : ℚ) ^ e ∧
      m * (2 : ℚ) ^ e < (roundingInterval m e).2.2 * 2 ^ (e - 2) := by
  have hpos : (0 : ℚ) < 2 ^ (e - 2) := by positivity
  rw [roundingInterval_low hm, roundingInterval_high, (two_zpow_eq e).1]
  constructor
  · split <;> linarith
  · linarith

/-- Such a number is rounded to the double, on the spacing around the number itself: that is half
the spacing around the double for a number below the power of two that the double is. -/
theorem Inside.exists_rounded (h : Canonical m e) (hm : m ≠ 0) (hx : Inside m e x) :
    ∃ e', Spaced x e' ∧ Rounded .toEven (2 ^ e') x (m * 2 ^ e) := by
  obtain ⟨hlow, hhigh, hends⟩ := hx
  rw [roundingInterval_low hm] at hlow hends
  rw [roundingInterval_high] at hhigh hends
  obtain ⟨hstep, hhalf⟩ := two_zpow_eq e
  have hpos : (0 : ℚ) < 2 ^ (e - 2) := by positivity
  have hlt : ((m : ℚ) + 1) * 2 ^ (e - 2) ≤ 2 ^ 53 * 2 ^ (e - 2) :=
    mul_le_mul_of_nonneg_right (by exact_mod_cast h.1) hpos.le
  by_cases habove : 2 ^ 52 * 2 ^ e ≤ x ∨ e = -1074
  · refine ⟨e, ⟨h.2.1, ?_, habove⟩, ⟨m, rfl⟩, ?_, fun htie ↦ ?_⟩
    · rw [hstep]
      linarith
    · rw [abs_le, hstep]
      split at hlow <;> constructor <;> linarith
    · by_cases heven : m % 2 = 0
      · obtain ⟨i, rfl⟩ := Nat.dvd_of_mod_eq_zero heven
        exact ⟨i, by push_cast; ring⟩
      · have hlow := lt_of_le_of_ne hlow (hends heven).1
        have hhigh := lt_of_le_of_ne hhigh (hends heven).2
        refine absurd htie (ne_of_lt ?_)
        rw [abs_lt, hstep]
        split at hlow <;> constructor <;> linarith
  · obtain ⟨hbelow, hleast⟩ := not_or.1 habove
    have hm52 : m = 2 ^ 52 := by
      refine le_antisymm (not_lt.1 fun hgt ↦ hbelow ?_) (h.2.2.2.resolve_right hleast)
      have hgt : (2 ^ 52 + 1) * (2 : ℚ) ^ (e - 2) ≤ m * 2 ^ (e - 2) :=
        mul_le_mul_of_nonneg_right (by exact_mod_cast hgt) hpos.le
      rw [hstep]
      split at hlow <;> linarith
    subst hm52
    rw [if_pos ⟨rfl, hleast⟩] at hlow
    push_cast at hlow hhigh
    rw [hstep] at hbelow
    refine ⟨e - 1, ⟨by have := h.2.1; omega, ?_, .inl ?_⟩, ⟨2 ^ 53, ?_⟩, ?_, fun _ ↦ ⟨2 ^ 52, ?_⟩⟩
    all_goals
      simp only [hhalf, hstep]
      push_cast
    · linarith
    · linarith
    · ring
    · rw [abs_le]
      constructor <;> linarith
    · ring

/-- A quotient between the halfway points makes the double. -/
theorem Inside.ofQuotient_eq (h : Canonical m e) (hm : m ≠ 0) (s : Bool) {n d : ℕ} (hn : n ≠ 0)
    (hd : 0 < d) (hx : Inside m e ((n : ℚ) / d)) : ofQuotient s n d = finite s m e h := by
  obtain ⟨e', hspaced, hround⟩ := hx.exists_rounded h hm
  exact ofQuotient_eq_finite h s hn hd hspaced hround

/-- The least double and the greatest one bound the numbers that are rounded to doubles. -/
theorem Inside.bounds (h : Canonical m e) (hm : m ≠ 0) (hx : Inside m e x) :
    (10 : ℚ) ^ (-330 : ℤ) ≤ x ∧ x < 10 ^ (309 : ℤ) := by
  obtain ⟨hlow, hhigh, -⟩ := hx
  rw [roundingInterval_low hm] at hlow
  rw [roundingInterval_high] at hhigh
  have hm' : (1 : ℚ) ≤ m := by exact_mod_cast Nat.one_le_iff_ne_zero.2 hm
  have hlt : (m : ℚ) + 1 ≤ 2 ^ 53 := by exact_mod_cast h.1
  constructor
  · have hpow : ((2 ^ 1076 : ℕ) : ℚ)⁻¹ ≤ 2 ^ (e - 2) := by
      rw [Nat.cast_pow, Nat.cast_ofNat, ← zpow_natCast, ← zpow_neg]
      exact zpow_le_zpow_right₀ one_le_two (by have := h.2.1; omega)
    have hten : ((10 ^ 330 : ℕ) : ℚ)⁻¹ ≤ ((2 ^ 1076 : ℕ) : ℚ)⁻¹ :=
      inv_anti₀ (by positivity) (Nat.cast_le.2 (by decide +kernel))
    rw [Nat.cast_pow, Nat.cast_ofNat, ← zpow_natCast, ← zpow_neg] at hten
    refine (hten.trans hpow).trans (le_trans ?_ hlow)
    refine le_mul_of_one_le_left (by positivity) ?_
    split <;> linarith
  · have hpow : (2 : ℚ) ^ (e - 2) ≤ (2 ^ 969 : ℕ) := by
      rw [Nat.cast_pow, Nat.cast_ofNat, ← zpow_natCast]
      exact zpow_le_zpow_right₀ one_le_two (by have := h.2.2.1; omega)
    have hten : ((2 ^ 55 * 2 ^ 969 : ℕ) : ℚ) < (10 ^ 309 : ℕ) :=
      Nat.cast_lt.2 (by decide +kernel)
    rw [Nat.cast_mul, Nat.cast_pow 10, Nat.cast_ofNat (n := 10), ← zpow_natCast] at hten
    refine lt_of_le_of_lt (hhigh.trans ?_) hten
    refine mul_le_mul ?_ hpow (by positivity) (by positivity)
    push_cast
    linarith

/-- A decimal number between the halfway points is read as the double. -/
theorem Inside.toBinary64_eq (h : Canonical m e) (hm : m ≠ 0) (s : Bool) {c : ℕ} {g : ℤ}
    (hx : Inside m e (c * 10 ^ g)) : (Decimal.finite s c g).toBinary64 = finite s m e h := by
  obtain ⟨hleast, hmost⟩ := hx.bounds h hm
  have hc : c ≠ 0 := by
    rintro rfl
    rw [Nat.cast_zero, zero_mul] at hleast
    exact absurd hleast (ten_zpow_pos _).not_ge
  obtain ⟨hlead, hlead'⟩ := Decimal.leadsAt hc false g
  rw [Decimal.abs_value] at hlead hlead'
  have hhigh := ten_zpow_lt_iff.1 (hlead.trans_lt hmost)
  have hlow := ten_zpow_lt_iff.1 (hleast.trans_lt hlead')
  unfold Decimal.toBinary64
  dsimp only
  rw [if_neg hc, if_neg (by omega), if_neg (by omega)]
  split
  · rename_i hg
    obtain ⟨k, rfl⟩ := Int.eq_ofNat_of_zero_le hg
    refine Inside.ofQuotient_eq h hm s (Nat.mul_ne_zero hc (by positivity)) Nat.one_pos ?_
    simpa using hx
  · rename_i hg
    obtain ⟨k, rfl⟩ : ∃ k : ℕ, g = -(k : ℤ) := ⟨(-g).toNat, by omega⟩
    refine Inside.ofQuotient_eq h hm s hc (by positivity) ?_
    simpa [div_eq_mul_inv] using hx

end Interval

/-! ### The search on the decimal grids -/

section Grids

variable {m c : ℕ} {e g : ℤ}

/-- The test whether a point of a grid is between the halfway points. -/
def isInside (m : ℕ) (e g : ℤ) (c : ℕ) : Bool :=
  let ten := 10 ^ (-g).toNat * 2 ^ (e - 2).toNat
  let unit := 10 ^ g.toNat * 2 ^ (2 - e).toNat
  if m % 2 = 0 then
    decide ((roundingInterval m e).1 * ten ≤ c * unit) &&
      decide (c * unit ≤ (roundingInterval m e).2.2 * ten)
  else
    decide ((roundingInterval m e).1 * ten < c * unit) &&
      decide (c * unit < (roundingInterval m e).2.2 * ten)

/-- The point of the grid that is next to the double from below. -/
def gridBelow (m : ℕ) (e g : ℤ) : ℕ :=
  4 * m * (10 ^ (-g).toNat * 2 ^ (e - 2).toNat) / (10 ^ g.toNat * 2 ^ (2 - e).toNat)

/-- A search on one grid finds one of its two points next to the double if one of them passes the
test. -/
theorem onGrid_cases (m : ℕ) (e g : ℤ) :
    (∃ c, onGrid m e g = some c ∧ isInside m e g c = true) ∨
      onGrid m e g = none ∧ isInside m e g (gridBelow m e g) = false ∧
        isInside m e g (gridBelow m e g + 1) = false := by
  have hgrid : onGrid m e g =
      if isInside m e g (gridBelow m e g) then
        if isInside m e g (gridBelow m e g + 1) then
          let unit := 10 ^ g.toNat * 2 ^ (2 - e).toNat
          let rest := 4 * m * (10 ^ (-g).toNat * 2 ^ (e - 2).toNat) - gridBelow m e g * unit
          if 2 * rest < unit then some (gridBelow m e g)
          else if unit < 2 * rest then some (gridBelow m e g + 1)
          else if gridBelow m e g % 2 = 0 then some (gridBelow m e g)
          else some (gridBelow m e g + 1)
        else some (gridBelow m e g)
      else if isInside m e g (gridBelow m e g + 1) then some (gridBelow m e g + 1)
      else none := rfl
  rw [hgrid]
  cases hbelow : isInside m e g (gridBelow m e g) <;>
    cases habove : isInside m e g (gridBelow m e g + 1)
  · exact .inr ⟨rfl, rfl, rfl⟩
  · exact .inl ⟨_, rfl, habove⟩
  · exact .inl ⟨_, rfl, hbelow⟩
  · refine .inl ?_
    simp only [if_true]
    split_ifs
    · exact ⟨_, rfl, hbelow⟩
    · exact ⟨_, rfl, habove⟩
    · exact ⟨_, rfl, hbelow⟩
    · exact ⟨_, rfl, habove⟩

/-- Multiples of a power of two and of a power of ten, compared as whole numbers. -/
theorem grid_cast (e g : ℤ) : ∃ k : ℚ, 0 < k ∧
    (∀ a : ℕ, ((a * (10 ^ (-g).toNat * 2 ^ (e - 2).toNat) : ℕ) : ℚ) = a * 2 ^ (e - 2) * k) ∧
    ∀ c : ℕ, ((c * (10 ^ g.toNat * 2 ^ (2 - e).toNat) : ℕ) : ℚ) = c * 10 ^ g * k := by
  refine ⟨10 ^ (-g).toNat * 2 ^ (2 - e).toNat, by positivity, fun a ↦ ?_, fun c ↦ ?_⟩
  · have hpow := zpow_mul_pow_toNat (two_ne_zero (α := ℚ)) (e - 2)
    rw [neg_sub] at hpow
    push_cast
    rw [← hpow]
    ring
  · have hpow := zpow_mul_pow_toNat (b := (10 : ℚ)) (by norm_num) g
    push_cast
    rw [← hpow]
    ring

/-- The points that pass the test are those that are rounded to the double. -/
theorem isInside_iff : isInside m e g c = true ↔ Inside m e (c * 10 ^ g) := by
  obtain ⟨k, hk, hbinary, hdecimal⟩ := grid_cast e g
  unfold isInside
  dsimp only
  split
  · rename_i heven
    rw [Bool.and_eq_true, decide_eq_true_eq, decide_eq_true_eq, ← Nat.cast_le (α := ℚ),
      ← Nat.cast_le (α := ℚ), hbinary, hbinary, hdecimal, mul_le_mul_iff_left₀ hk,
      mul_le_mul_iff_left₀ hk]
    exact ⟨fun h ↦ ⟨h.1, h.2, fun hodd ↦ absurd heven hodd⟩, fun h ↦ ⟨h.low, h.high⟩⟩
  · rename_i hodd
    rw [Bool.and_eq_true, decide_eq_true_eq, decide_eq_true_eq, ← Nat.cast_lt (α := ℚ),
      ← Nat.cast_lt (α := ℚ), hbinary, hbinary, hdecimal, mul_lt_mul_iff_left₀ hk,
      mul_lt_mul_iff_left₀ hk]
    exact ⟨fun h ↦ ⟨h.1.le, h.2.le, fun _ ↦ ⟨h.1.ne, h.2.ne⟩⟩,
      fun h ↦ ⟨h.low.lt_of_ne (h.ends hodd).1, h.high.lt_of_ne (h.ends hodd).2⟩⟩

/-- The points next to the double lie on its two sides. -/
theorem gridBelow_le (m : ℕ) (e g : ℤ) : gridBelow m e g * (10 : ℚ) ^ g ≤ m * 2 ^ e ∧
    (m : ℚ) * 2 ^ e < (gridBelow m e g + 1 : ℕ) * 10 ^ g := by
  obtain ⟨k, hk, hbinary, hdecimal⟩ := grid_cast e g
  have hvalue : (m : ℚ) * 2 ^ e * k = (4 * m : ℕ) * 2 ^ (e - 2) * k := by
    rw [(two_zpow_eq e).1]
    push_cast
    ring
  have hpos : 0 < 10 ^ g.toNat * 2 ^ (2 - e).toNat := by positivity
  have hbelow : gridBelow m e g * (10 ^ g.toNat * 2 ^ (2 - e).toNat) ≤
      4 * m * (10 ^ (-g).toNat * 2 ^ (e - 2).toNat) := Nat.div_mul_le_self _ _
  have habove : 4 * m * (10 ^ (-g).toNat * 2 ^ (e - 2).toNat) <
      (gridBelow m e g + 1) * (10 ^ g.toNat * 2 ^ (2 - e).toNat) := by
    rw [← Nat.div_lt_iff_lt_mul hpos]
    exact Nat.lt_succ_self _
  rw [← Nat.cast_le (α := ℚ), hbinary, hdecimal, ← hvalue, mul_le_mul_iff_left₀ hk] at hbelow
  rw [← Nat.cast_lt (α := ℚ), hbinary, hdecimal, ← hvalue, mul_lt_mul_iff_left₀ hk] at habove
  exact ⟨hbelow, habove⟩

/-- On a grid of seventeen digits a point is found: its step is less than the distance of the
halfway points. -/
theorem exists_onGrid (h : Canonical m e) (hm : m ≠ 0) (hg : (10 : ℚ) ^ (g + 16) ≤ m * 2 ^ e) :
    ∃ c, onGrid m e g = some c := by
  rcases onGrid_cases m e g with ⟨c, hc, -⟩ | ⟨-, hout, hout'⟩
  · exact ⟨c, hc⟩
  rw [← Bool.not_eq_true, isInside_iff] at hout hout'
  obtain ⟨hbelow, habove⟩ := gridBelow_le m e g
  generalize gridBelow m e g = b at *
  have hlow := roundingInterval_low hm e
  have hhigh := roundingInterval_high m e
  obtain ⟨hstep, -⟩ := two_zpow_eq e
  have hpos : (0 : ℚ) < 2 ^ (e - 2) := by positivity
  obtain ⟨hunder, hover⟩ := roundingInterval_lt hm e
  -- both points are out, so one step reaches from halfway point to halfway point
  have hleft : b * (10 : ℚ) ^ g ≤ (roundingInterval m e).1 * 2 ^ (e - 2) :=
    not_lt.1 fun hlt ↦ hout (.of_lt hlt (hbelow.trans_lt hover))
  have hright : (roundingInterval m e).2.2 * 2 ^ (e - 2) ≤ (b + 1 : ℕ) * (10 : ℚ) ^ g :=
    not_lt.1 fun hlt ↦ hout' (.of_lt (hunder.trans habove) hlt)
  have hgrid : (10 : ℚ) ^ (g + 16) = 10 ^ 16 * 10 ^ g := by
    rw [add_comm, zpow_add₀ (by norm_num)]
    norm_cast
  have hm' : (m : ℚ) * 2 ^ (e - 2) < 2 ^ 53 * 2 ^ (e - 2) :=
    mul_lt_mul_of_pos_right (by exact_mod_cast h.1) hpos
  rw [hhigh, Nat.cast_succ] at hright
  rw [hgrid, hstep] at hg
  rw [hlow] at hleft
  split at hleft
  · rename_i hfirst
    rw [hfirst.1] at hg hleft hright
    push_cast at hg hleft hright
    linarith
  · linarith

/-- The search stops no later than on a grid with a point. -/
theorem searchGrids_of_onGrid {n : ℕ} {k : ℤ} (hg : g ≤ k) (hcount : k - n ≤ g)
    (h : onGrid m e g = some c) :
    g ≤ (searchGrids m e n k).2 ∧
      onGrid m e (searchGrids m e n k).2 = some (searchGrids m e n k).1 := by
  fun_induction searchGrids m e n k with
  | case1 k =>
    obtain rfl : g = k := by
      rw [Nat.cast_zero] at hcount
      omega
    exact ⟨le_rfl, by rw [h]; rfl⟩
  | case2 n k c' h' => exact ⟨hg, h'⟩
  | case3 n k h' ih =>
    have hne : g ≠ k := by
      rintro rfl
      rw [h] at h'
      cases h'
    exact ih (by omega) (by push_cast at hcount; omega)

/-- The exponent of the leading digit of a fraction is what its name says. -/
theorem leadsAt_leadingExponent {n d : ℕ} (hn : n ≠ 0) (hd : 0 < d) :
    LeadsAt ((n : ℚ) / d) (leadingExponent n d) := by
  have hd' : (0 : ℚ) < d := by exact_mod_cast hd
  rw [LeadsAt, abs_of_nonneg (by positivity)]
  constructor
  · unfold leadingExponent
    split
    · rename_i hle
      have hq : n / d ≠ 0 := (Nat.div_pos hle hd).ne'
      have hlead := (Decimal.leadsAt hq false 0).1
      rw [Decimal.abs_value, zpow_zero, mul_one, zero_add] at hlead
      refine hlead.trans ((le_div_iff₀ hd').2 ?_)
      exact_mod_cast Nat.div_mul_le_self n d
    · rename_i hlt
      have hpos : 0 < n := Nat.pos_of_ne_zero hn
      generalize hq : (d + n - 1) / n - 1 = q
      have hceil : d + n - 1 < (q + 1 + 1) * n := by
        have hdiv := Nat.lt_mul_div_succ (d + n - 1) hpos
        have htwo : 1 ≤ (d + n - 1) / n := Nat.div_pos (by omega) hpos
        rw [Nat.mul_comm] at hdiv
        rwa [← hq, Nat.sub_add_cancel htwo]
      have hle : d ≤ (q + 1) * n := by
        rw [Nat.add_mul (q + 1)] at hceil
        omega
      have hten : d ≤ 10 ^ decimalLength q * n :=
        hle.trans (Nat.mul_le_mul_right n (lt_pow_decimalLength q))
      have hten : (d : ℚ) ≤ 10 ^ decimalLength q * n := by exact_mod_cast hten
      rw [zpow_neg, zpow_natCast, le_div_iff₀ hd', inv_mul_le_iff₀ (by positivity)]
      exact hten
  · have hlt : (n : ℚ) * 10 ^ (-(leadingExponent n d + 1)).toNat <
        d * 10 ^ (leadingExponent n d + 1).toNat := by
      exact_mod_cast lt_pow_leadingExponent hn hd
    have hpow := zpow_mul_pow_toNat (b := (10 : ℚ)) (by norm_num) (leadingExponent n d + 1)
    rw [← hpow, ← mul_assoc, mul_lt_mul_iff_left₀ (by positivity)] at hlt
    rwa [div_lt_iff₀ hd', mul_comm]

theorem leadsAt_scaled (hm : m ≠ 0) (e : ℤ) :
    LeadsAt (m * 2 ^ e) (leadingExponent (scaled m e).1 (scaled m e).2) := by
  have hpos : ((scaled m e).2 : ℚ) ≠ 0 := by exact_mod_cast (scaled_snd_pos m e).ne'
  have hne : (scaled m e).1 ≠ 0 := Nat.mul_ne_zero hm (by positivity)
  have hlead := leadsAt_leadingExponent hne (scaled_snd_pos m e)
  rwa [cast_scaled, mul_div_cancel_right₀ _ hpos] at hlead

theorem value_shortest (m : ℕ) (e : ℤ) : ((shortest m e).1 : ℚ) * 10 ^ (shortest m e).2 =
    (searchGrids m e 16 (leadingExponent (scaled m e).1 (scaled m e).2)).1 *
      10 ^ (searchGrids m e 16 (leadingExponent (scaled m e).1 (scaled m e).2)).2 := by
  have hstrip := Decimal.value_stripTens false
    (searchGrids m e 16 (leadingExponent (scaled m e).1 (scaled m e).2)).1 20
    (searchGrids m e 16 (leadingExponent (scaled m e).1 (scaled m e).2)).2
  rw [Decimal.value_finite, Decimal.value_finite] at hstrip
  exact hstrip

/-- The shortest decimal number of a double is rounded to it. -/
theorem inside_shortest (h : Canonical m e) (hm : m ≠ 0) :
    Inside m e ((shortest m e).1 * 10 ^ (shortest m e).2) := by
  have hlead := (leadsAt_scaled hm e).1
  rw [abs_of_nonneg (by positivity)] at hlead
  generalize hg : leadingExponent (scaled m e).1 (scaled m e).2 = g at hlead
  obtain ⟨c, hc⟩ := exists_onGrid (g := g - 16) h hm (by rwa [sub_add_cancel])
  obtain ⟨-, hfound⟩ := searchGrids_of_onGrid (n := 16) (k := g) (by omega) (by omega) hc
  rw [value_shortest, hg]
  rcases onGrid_cases m e (searchGrids m e 16 g).2 with ⟨c', hc', hinside⟩ | ⟨hnone, -⟩
  · obtain rfl := Option.some.inj (hc'.symm.trans hfound)
    exact isInside_iff.1 hinside
  · rw [hnone] at hfound
    cases hfound

/-- A double is read back from its shortest decimal number. -/
theorem toBinary64_shortest (h : Canonical m e) (hm : m ≠ 0) (s : Bool) {c : ℕ} {g : ℤ}
    (hvalue : (c : ℚ) * 10 ^ g = (shortest m e).1 * 10 ^ (shortest m e).2) :
    (Decimal.finite s c g).toBinary64 = finite s m e h :=
  Inside.toBinary64_eq h hm s (hvalue ▸ inside_shortest h hm)

end Grids

/-! ### Whole doubles -/

section Wholes

variable {m k : ℕ} {e : ℤ}

/-- Between the points halfway to the neighbours of a double below `2 ^ 53` there is at most one
whole number. -/
theorem Inside.eq_of_whole (hm : m ≠ 0) (he : e ≤ 0) (hk : (m : ℚ) * 2 ^ e = k) {i : ℤ}
    (hi : Inside m e i) : i = k := by
  obtain ⟨hlow, hhigh, -⟩ := hi
  rw [roundingInterval_low hm] at hlow
  rw [roundingInterval_high] at hhigh
  rw [(two_zpow_eq e).1] at hk
  have hpos : (0 : ℚ) < 2 ^ (e - 2) := by positivity
  have hstep : (2 : ℚ) ^ (e - 2) ≤ 1 / 4 :=
    (zpow_le_zpow_right₀ one_le_two (by omega : e - 2 ≤ -2)).trans (by norm_num)
  have hbelow : (k : ℚ) - 1 < i := by
    split at hlow <;> linarith
  have habove : (i : ℚ) < k + 1 := by linarith
  have hbelow : (k : ℤ) - 1 < i := by exact_mod_cast hbelow
  have habove : i < (k : ℤ) + 1 := by exact_mod_cast habove
  omega

/-- A double that is a whole number is a point of the grid of whole numbers. -/
theorem exists_onGrid_zero (hm : m ≠ 0) (hk : (m : ℚ) * 2 ^ e = k) :
    ∃ c, onGrid m e 0 = some c := by
  obtain ⟨hbelow, habove⟩ := gridBelow_le m e 0
  rw [zpow_zero, mul_one, hk] at hbelow habove
  have hgrid : gridBelow m e 0 = k := by
    have hbelow : gridBelow m e 0 ≤ k := by exact_mod_cast hbelow
    have habove : k < gridBelow m e 0 + 1 := by exact_mod_cast habove
    omega
  obtain ⟨hlow, hhigh⟩ := roundingInterval_lt hm e
  have hself : isInside m e 0 (gridBelow m e 0) = true := by
    rw [isInside_iff, hgrid, zpow_zero, mul_one, ← hk]
    exact .of_lt hlow hhigh
  rcases onGrid_cases m e 0 with ⟨c, hc, -⟩ | ⟨-, hout, -⟩
  · exact ⟨c, hc⟩
  · rw [hself] at hout
    cases hout

/-- The search from the leading digit of a whole double below `2 ^ 53` reaches the grid of whole
numbers. -/
theorem leadingExponent_mem (hm : m ≠ 0) (hk : (m : ℚ) * 2 ^ e = k) (hlt : k < 2 ^ 53) :
    0 ≤ leadingExponent (scaled m e).1 (scaled m e).2 ∧
      leadingExponent (scaled m e).1 (scaled m e).2 < 16 := by
  have hpos : (1 : ℚ) ≤ k := by
    have hne : (k : ℚ) ≠ 0 := by rw [← hk]; positivity
    exact_mod_cast Nat.one_le_iff_ne_zero.2 (by exact_mod_cast hne)
  have hmost : (k : ℚ) < 10 ^ (16 : ℤ) :=
    lt_trans (b := 2 ^ 53) (by exact_mod_cast hlt) (by norm_num)
  obtain ⟨hlow, hhigh⟩ := leadsAt_scaled hm e
  rw [hk, abs_of_pos (by linarith)] at hlow hhigh
  have hnext := ten_zpow_lt_iff.1 ((zpow_zero (10 : ℚ)).le.trans_lt (hpos.trans_lt hhigh))
  exact ⟨by omega, ten_zpow_lt_iff.1 (hlow.trans_lt hmost)⟩

/-- A double that is a whole number up to `2 ^ 53` has this number as its shortest decimal
number. -/
theorem shortest_of_whole (h : Canonical m e) (hm : m ≠ 0) (hk : (m : ℚ) * 2 ^ e = k)
    (hle : k ≤ 2 ^ 53) : ((shortest m e).1 : ℚ) * 10 ^ (shortest m e).2 = k := by
  rcases Nat.lt_or_eq_of_le hle with hlt | rfl
  · have he : e ≤ 0 := h.spaced.le (by decide) (by rw [hk]; exact_mod_cast hlt)
    have hmem := leadingExponent_mem hm hk hlt
    have hinside := inside_shortest h hm
    rw [value_shortest] at hinside ⊢
    generalize leadingExponent (scaled m e).1 (scaled m e).2 = g at hmem hinside ⊢
    obtain ⟨c, hc⟩ := exists_onGrid_zero hm hk
    obtain ⟨hcoarse, -⟩ := searchGrids_of_onGrid (n := 16) (k := g) hmem.1 (by omega) hc
    -- what is found on a coarser grid is a whole number as well
    generalize searchGrids m e 16 g = r at hcoarse hinside ⊢
    obtain ⟨i, hi⟩ := exists_ten_zpow_eq hcoarse
    rw [zpow_zero, mul_one] at hi
    rw [hi] at hinside ⊢
    exact_mod_cast Inside.eq_of_whole (i := r.1 * i) hm he hk (by exact_mod_cast hinside)
  · -- the only whole double of this size is the power itself
    have hpower : Canonical (2 ^ 52) 1 := by decide
    have hk : (m : ℚ) * 2 ^ e = (2 ^ 52 : ℕ) * 2 ^ (1 : ℤ) := hk.trans (by norm_num)
    obtain rfl := (hk ▸ h.spaced).unique hpower.spaced
    obtain rfl : m = 2 ^ 52 := by exact_mod_cast mul_right_cancel₀ (by norm_num) hk
    have hshortest : shortest (2 ^ 52) 1 = (2 ^ 53, 0) := by decide +kernel
    rw [hshortest, zpow_zero, mul_one]

end Wholes

end Binary64

/-- The number that the text of a double spells is its shortest decimal number, perhaps with a zero
after the point. -/
theorem Decimal.exists_ofBinary64 {m : ℕ} {e : ℤ} (h : Binary64.Canonical m e) (hm : m ≠ 0)
    (s : Bool) : ∃ c g, Decimal.ofBinary64 (.finite s m e h) = .finite s c g ∧
      (c : ℚ) * 10 ^ g = (Binary64.shortest m e).1 * 10 ^ (Binary64.shortest m e).2 := by
  unfold ofBinary64
  dsimp only
  rw [if_neg hm]
  split
  · rename_i hg
    refine ⟨_, _, rfl, ?_⟩
    rw [cast_mul_pow]
    congr 2
    omega
  · exact ⟨_, _, rfl, rfl⟩

end Phrasebook
