import Phrasebook.Number
import Phrasebook.Proofs.Decimals

/-!
Doubles, whole numbers and decimal numbers.

A whole number has a double next to it unless it lies beyond the range of doubles, and where this
range ends is known exactly (`Binary64.ofInt_eq_infinite_iff`). The shortest decimal text of a
double reaches at most one place beyond its leading digit (`Binary64.shortest_le`), so a double that
is not whole has few digits before its point.
-/

set_option autoImplicit false

namespace Phrasebook

open Arithmetic

namespace Binary64

/-! ### Whole numbers that have a double -/

/-- The least whole number that is too large for a double: it lies halfway between the greatest
double and the power of two after it. -/
def bound : Nat := 2 ^ 1024 - 2 ^ 970

theorem bound_eq : bound = 2 ^ 54 * 2 ^ 970 - 2 ^ 970 := by
  rw [bound, ← pow_add]

theorem le_bound : 2 ^ 53 * 2 ^ 970 ≤ bound := by
  rw [bound_eq]
  generalize 2 ^ 970 = d
  omega

theorem bound_le : bound ≤ 2 ^ 54 * 2 ^ 970 := by
  rw [bound_eq]
  exact Nat.sub_le _ _

variable {n : Nat}

theorem exponentOf_one (hn : n ≠ 0) : exponentOf n 1 = (n.log2 : Int) - 52 := by
  have hlog : Nat.log2 1 = 0 := rfl
  unfold exponentOf
  simp only [hlog, Nat.cast_zero, Int.sub_zero, scaled, Int.neg_neg, Nat.mul_one]
  have hnot : ¬ n * 2 ^ (-((n.log2 : Int) - 52)).toNat <
      2 ^ 52 * 2 ^ ((n.log2 : Int) - 52).toNat := by
    rw [Nat.not_lt]
    calc 2 ^ 52 * 2 ^ ((n.log2 : Int) - 52).toNat
        = 2 ^ n.log2 * 2 ^ (-((n.log2 : Int) - 52)).toNat := by
          rw [← pow_add, ← pow_add]
          congr 1
          omega
      _ ≤ n * 2 ^ (-((n.log2 : Int) - 52)).toNat := Nat.mul_le_mul_right _ (Nat.log2_self_le hn)
  rw [if_neg hnot]
  omega

/-- The significand of 53 bits of a whole number, before it is rounded. -/
theorem quotient_mem (hn : n ≠ 0) {num den : Nat}
    (h : scaled n (-((n.log2 : Int) - 52)) = (num, den)) :
    2 ^ 52 ≤ num / den ∧ num / den < 2 ^ 53 := by
  obtain ⟨rfl, rfl⟩ := Prod.mk.inj h
  have hpos : 0 < 2 ^ (- -((n.log2 : Int) - 52)).toNat := by positivity
  have hsplit : 2 ^ n.log2 * 2 ^ (-((n.log2 : Int) - 52)).toNat =
      2 ^ 52 * 2 ^ (- -((n.log2 : Int) - 52)).toNat := by
    rw [← pow_add, ← pow_add]
    congr 1
    omega
  constructor
  · rw [Nat.le_div_iff_mul_le hpos, ← hsplit]
    exact Nat.mul_le_mul_right _ (Nat.log2_self_le hn)
  · rw [Nat.div_lt_iff_lt_mul hpos]
    calc n * 2 ^ (-((n.log2 : Int) - 52)).toNat
        < 2 ^ (n.log2 + 1) * 2 ^ (-((n.log2 : Int) - 52)).toNat :=
          Nat.mul_lt_mul_of_pos_right Nat.lt_log2_self (by positivity)
      _ = 2 ^ 53 * 2 ^ (- -((n.log2 : Int) - 52)).toNat := by
          rw [pow_succ, Nat.mul_right_comm, hsplit]
          ring

theorem scaled_neg (a k : Nat) : scaled a (-(k : Int)) = (a, 2 ^ k) := by
  simp [scaled]

theorem ofParts_infinite_iff {s : Bool} {m : Nat} {e : Int} (hm : 2 ^ 52 ≤ m) (hm' : m < 2 ^ 53)
    (he : -1074 ≤ e) : (∃ t, ofParts s m e = .infinite t) ↔ 971 < e := by
  unfold ofParts
  by_cases h : Canonical m e
  · rw [dif_pos h]
    have hle : e ≤ 971 := h.2.2.1
    simp [hle]
  · rw [dif_neg h]
    have hlt : 971 < e := by
      by_contra hle
      exact h ⟨hm', he, by omega, .inl hm⟩
    exact ⟨fun _ ↦ hlt, fun _ ↦ ⟨s, rfl⟩⟩

/-- A number below `2 ^ 53` steps of `2 * d` is rounded up to all of them just when at most half a
step is missing. -/
theorem roundQuotient_eq_iff {d : Nat} (hd : 0 < d) (h : n < 2 ^ 54 * d) :
    roundQuotient .toEven n (2 * d) = 2 ^ 53 ↔ 2 ^ 54 * d - d ≤ n := by
  have hn := Nat.div_add_mod n (2 * d)
  have hr := Nat.mod_lt n (show 0 < 2 * d by omega)
  have hq : n / (2 * d) < 2 ^ 53 := by
    rw [Nat.div_lt_iff_lt_mul (by omega)]
    omega
  have hmem := roundQuotient_mem .toEven n (2 * d)
  by_cases hlast : n / (2 * d) = 2 ^ 53 - 1
  · have hodd : ¬ (2 ^ 53 - 1) % 2 = 0 := by decide
    unfold roundQuotient
    simp only [hlast, hodd, if_false, ite_self] at hn ⊢
    split <;> omega
  · have hle : 2 * d * (n / (2 * d)) ≤ 2 * d * (2 ^ 53 - 2) := Nat.mul_le_mul_left _ (by omega)
    have hne : roundQuotient .toEven n (2 * d) ≠ 2 ^ 53 := by omega
    simp only [hne, false_iff]
    omega

/-- A whole number is too large for a double just when it is not below the bound. -/
theorem ofInt_eq_infinite_iff (n : Int) : (∃ s, ofInt n = .infinite s) ↔ bound ≤ n.natAbs := by
  unfold ofInt ofQuotient
  by_cases hn : n.natAbs = 0
  · have hpos : ¬ bound ≤ 0 := Nat.not_le.2 (Nat.lt_of_lt_of_le (by positivity) le_bound)
    rw [if_pos hn, hn]
    simp [zero, hpos]
  · have hlog := Nat.log2_self_le hn
    have hlog' : n.natAbs < 2 ^ (n.natAbs.log2 + 1) := Nat.lt_log2_self
    have hpow {i j : Nat} (hij : i ≤ j) : 2 ^ i ≤ 2 ^ j := Nat.pow_le_pow_right (by decide) hij
    generalize hscaled : scaled n.natAbs (-((n.natAbs.log2 : Int) - 52)) = x
    obtain ⟨num, den⟩ := x
    obtain ⟨hlow, hhigh⟩ := quotient_mem hn hscaled
    have hmem := roundQuotient_mem .toEven num den
    rw [if_neg hn]
    simp only [exponentOf_one hn, hscaled, Nat.mul_one]
    have hparts : (∃ s, (if roundQuotient .toEven num den = 2 ^ 53 then
          ofParts (decide (n < 0)) (2 ^ 52) ((n.natAbs.log2 : Int) - 52 + 1)
        else ofParts (decide (n < 0)) (roundQuotient .toEven num den)
          ((n.natAbs.log2 : Int) - 52)) = .infinite s) ↔
        1023 < n.natAbs.log2 ∨
          1023 = n.natAbs.log2 ∧ roundQuotient .toEven num den = 2 ^ 53 := by
      split
      · rw [ofParts_infinite_iff (by decide) (by decide) (by omega)]
        omega
      · rw [ofParts_infinite_iff (by omega) (by omega) (by omega)]
        omega
    rw [hparts]
    rcases Nat.lt_trichotomy n.natAbs.log2 1023 with hlt | heq | hgt
    · have hsmall : n.natAbs < 2 ^ 53 * 2 ^ 970 := by
        rw [← pow_add]
        exact Nat.lt_of_lt_of_le hlog' (hpow hlt)
      have := le_bound
      omega
    · have hpair : (n.natAbs, 2 ^ 971) = (num, den) := by
        rw [← hscaled, heq, ← scaled_neg]
        rfl
      obtain ⟨rfl, rfl⟩ := Prod.mk.inj hpair
      have hsmall : n.natAbs < 2 ^ 54 * 2 ^ 970 := by
        rw [← pow_add]
        exact Nat.lt_of_lt_of_le hlog' (hpow (by omega))
      have hstep : (2 : Nat) ^ 971 = 2 * 2 ^ 970 := by rw [← pow_succ']
      rw [hstep, roundQuotient_eq_iff (by positivity) hsmall, ← bound_eq]
      simp [heq]
    · have hlarge : 2 ^ 54 * 2 ^ 970 ≤ n.natAbs := by
        rw [← pow_add]
        exact Nat.le_trans (hpow hgt) hlog
      have := bound_le
      omega

/-! ### Shortest texts -/

/-- The exponent of the leading digit of a fraction is not too small. -/
theorem lt_pow_leadingExponent {n d : Nat} (hn : n ≠ 0) (hd : 0 < d) :
    n * 10 ^ (-(leadingExponent n d + 1)).toNat < d * 10 ^ (leadingExponent n d + 1).toNat := by
  unfold leadingExponent
  split
  · rename_i hle
    have hlt := lt_pow_decimalLength (n / d)
    rw [Nat.div_lt_iff_lt_mul hd] at hlt
    have hzero : (-((decimalLength (n / d) : Int) - 1 + 1)).toNat = 0 := by omega
    have hlength : ((decimalLength (n / d) : Int) - 1 + 1).toNat = decimalLength (n / d) := by omega
    rw [hzero, hlength, pow_zero, Nat.mul_one, Nat.mul_comm]
    exact hlt
  · rename_i hlt
    have hpos : 0 < n := Nat.pos_of_ne_zero hn
    generalize hq : (d + n - 1) / n - 1 = q
    have htwo : 2 ≤ (d + n - 1) / n := by
      rw [Nat.le_div_iff_mul_le hpos]
      omega
    have hmul : (q + 1) * n ≤ d + n - 1 := by
      rw [← hq, Nat.sub_add_cancel (by omega)]
      exact Nat.div_mul_le_self _ n
    have hpow := pow_decimalLength_le (n := q) (by omega)
    obtain ⟨l, hl⟩ := Nat.exists_eq_add_of_le' (decimalLength_pos q)
    rw [hl] at hpow ⊢
    have hzero : (-((l + 1 : Nat) : Int) + 1).toNat = 0 := by omega
    have hlength : (-(-((l + 1 : Nat) : Int) + 1)).toNat = l := by omega
    rw [hzero, hlength, pow_zero, Nat.mul_one]
    have hle : 10 ^ l ≤ q := by
      rw [pow_succ] at hpow
      omega
    have := Nat.mul_le_mul_right n hle
    rw [Nat.mul_comm n]
    rw [Nat.add_mul] at hmul
    omega

/-- What is found on a grid is one of the two neighbours of the number. -/
theorem onGrid_le {m c : Nat} {e g : Int} (h : onGrid m e g = some c) :
    c ≤ 4 * m * (10 ^ (-g).toNat * 2 ^ (e - 2).toNat) /
      (10 ^ g.toNat * 2 ^ (2 - e).toNat) + 1 := by
  unfold onGrid roundingInterval at h
  dsimp only at h
  generalize 4 * m * (10 ^ (-g).toNat * 2 ^ (e - 2).toNat) /
      (10 ^ g.toNat * 2 ^ (2 - e).toNat) = below at h ⊢
  have hor : some c = some below ∨ some c = some (below + 1) ∨ some c = none := by
    rw [← h]
    repeat' split
    all_goals simp
  simp only [Option.some.injEq, reduceCtorEq, or_false] at hor
  omega

/-- A number below `10 ^ k` steps of a grid is found on it with at most that many steps. -/
theorem onGrid_le_pow {m c k : Nat} {e g : Int} (h : onGrid m e g = some c)
    (hx : (scaled m e).1 * 10 ^ (-g).toNat < 10 ^ k * ((scaled m e).2 * 10 ^ g.toNat)) :
    c ≤ 10 ^ k := by
  have hquarter : 4 * 2 ^ (e - 2).toNat * 2 ^ (-e).toNat = 2 ^ e.toNat * 2 ^ (2 - e).toNat := by
    rw [show 4 = 2 ^ 2 from rfl, ← pow_add, ← pow_add, ← pow_add]
    congr 1
    omega
  have hscaled : 4 * m * (10 ^ (-g).toNat * 2 ^ (e - 2).toNat) * 2 ^ (-e).toNat <
      10 ^ k * (10 ^ g.toNat * 2 ^ (2 - e).toNat) * 2 ^ (-e).toNat := by
    calc 4 * m * (10 ^ (-g).toNat * 2 ^ (e - 2).toNat) * 2 ^ (-e).toNat
        = m * 10 ^ (-g).toNat * (4 * 2 ^ (e - 2).toNat * 2 ^ (-e).toNat) := by ring
      _ = m * 2 ^ e.toNat * 10 ^ (-g).toNat * 2 ^ (2 - e).toNat := by rw [hquarter]; ring
      _ < 10 ^ k * (2 ^ (-e).toNat * 10 ^ g.toNat) * 2 ^ (2 - e).toNat :=
        Nat.mul_lt_mul_of_pos_right hx (by positivity)
      _ = 10 ^ k * (10 ^ g.toNat * 2 ^ (2 - e).toNat) * 2 ^ (-e).toNat := by ring
  have hlt := Nat.lt_of_mul_lt_mul_right hscaled
  rw [← Nat.div_lt_iff_lt_mul (by positivity)] at hlt
  exact Nat.le_trans (onGrid_le h) hlt

/-- The search ends on a grid that is not coarser than the one it starts with. -/
theorem searchGrids_cases (m : Nat) (e : Int) (count : Nat) (g : Int) :
    (searchGrids m e count g).1 = 0 ∨ ((searchGrids m e count g).2 ≤ g ∧
      onGrid m e (searchGrids m e count g).2 = some (searchGrids m e count g).1) := by
  fun_induction searchGrids m e count g with
  | case1 g =>
    cases h : onGrid m e g with
    | none => exact .inl rfl
    | some c => exact .inr ⟨Int.le_refl g, rfl⟩
  | case2 count g c h => exact .inr ⟨Int.le_refl g, h⟩
  | case3 count g _ ih => exact ih.imp_right fun h ↦ ⟨by omega, h.2⟩

/-- The shortest digits of a number reach at most one place beyond its leading digit. -/
theorem shortest_le {m : Nat} (hm : m ≠ 0) (e : Int) :
    (shortest m e).1 = 0 ∨ (shortest m e).2 + decimalLength (shortest m e).1 ≤
      leadingExponent (scaled m e).1 (scaled m e).2 + 2 := by
  have hlead := lt_pow_leadingExponent (n := (scaled m e).1) (d := (scaled m e).2)
    (by simp [scaled, hm]) (by simp [scaled])
  unfold shortest
  dsimp only
  generalize leadingExponent (scaled m e).1 (scaled m e).2 = k at hlead ⊢
  have hstrip := stripTens_eq (searchGrids m e 16 k).1 20
  rcases searchGrids_cases m e 16 k with hzero | ⟨hg, hgrid⟩
  · refine .inl ?_
    rw [hzero] at hstrip ⊢
    simpa using hstrip.symm
  generalize searchGrids m e 16 k = r at *
  have hx : (scaled m e).1 * 10 ^ (-r.2).toNat <
      10 ^ (k + 1 - r.2).toNat * ((scaled m e).2 * 10 ^ r.2.toNat) := by
    have hexponent : 10 ^ (k + 1).toNat * 10 ^ (-r.2).toNat =
        10 ^ (k + 1 - r.2).toNat * 10 ^ r.2.toNat * 10 ^ (-(k + 1)).toNat := by
      rw [← pow_add, ← pow_add, ← pow_add]
      congr 1
      omega
    refine Nat.lt_of_mul_lt_mul_right (a := 10 ^ (-(k + 1)).toNat) ?_
    calc (scaled m e).1 * 10 ^ (-r.2).toNat * 10 ^ (-(k + 1)).toNat
        = (scaled m e).1 * 10 ^ (-(k + 1)).toNat * 10 ^ (-r.2).toNat := Nat.mul_right_comm _ _ _
      _ < (scaled m e).2 * 10 ^ (k + 1).toNat * 10 ^ (-r.2).toNat :=
        Nat.mul_lt_mul_of_pos_right hlead (by positivity)
      _ = _ := by
        rw [Nat.mul_assoc, hexponent]
        ring
  have hle := onGrid_le_pow hgrid hx
  by_cases hc : (stripTens r.1 20).1 = 0
  · exact .inl hc
  · have hlength : decimalLength r.1 ≤ (k + 1 - r.2).toNat + 1 := by
      refine decimalLength_le ?_ (by omega)
      rw [pow_succ]
      have : 0 < 10 ^ (k + 1 - r.2).toNat := by positivity
      omega
    rw [hstrip, decimalLength_mul_pow hc] at hlength
    exact .inr (by omega)

/-- A double that is no whole number is less than `10 ^ 16`. -/
theorem leadingExponent_of_toInt?_eq_none {s : Bool} {m : Nat} {e : Int} {h : Canonical m e}
    (hx : (finite s m e h).toInt? = none) :
    m ≠ 0 ∧ leadingExponent (scaled m e).1 (scaled m e).2 ≤ 15 := by
  have hmod : ¬ (if s then -((scaled m e).1 : Int) else (scaled m e).1) % (scaled m e).2 = 0 := by
    intro hzero
    rw [toInt?, quotient?] at hx
    dsimp only at hx
    rw [if_pos hzero] at hx
    cases hx
  have hm : m ≠ 0 := by
    rintro rfl
    simp [scaled] at hmod
  have he : e < 0 := by
    by_contra hle
    have hden : (-e).toNat = 0 := by omega
    simp [scaled, hden] at hmod
  refine ⟨hm, ?_⟩
  have hnum : (scaled m e).1 = m := by simp [scaled, Int.toNat_of_nonpos he.le]
  rw [hnum]
  unfold leadingExponent
  split
  · have hlt : m / (scaled m e).2 < 10 ^ 16 := by
      have hm53 : m < 2 ^ 53 := h.1
      exact Nat.lt_of_le_of_lt (Nat.div_le_self _ _) (Nat.lt_of_lt_of_le hm53 (by decide))
    have := decimalLength_le hlt (by decide)
    omega
  · omega

/-- The decimal number of a double that is no whole number has few digits before its point. -/
theorem ofBinary64_of_toInt?_eq_none {x : Binary64} (hfinite : x.isFinite = true)
    (hx : x.toInt? = none) : ∃ s c e, Decimal.ofBinary64 x = .finite s c e ∧
      (c = 0 ∨ e + decimalLength c ≤ 17) := by
  cases x with
  | nan => cases hfinite
  | infinite s => cases hfinite
  | finite s m e h =>
    obtain ⟨hm, hlead⟩ := leadingExponent_of_toInt?_eq_none hx
    have hle := shortest_le hm e
    unfold Decimal.ofBinary64
    dsimp only
    rw [if_neg hm]
    generalize shortest m e = r at hle ⊢
    by_cases hc : r.1 = 0
    · split
      · exact ⟨s, _, _, rfl, .inl (by rw [hc, Nat.zero_mul])⟩
      · exact ⟨s, _, _, rfl, .inl hc⟩
    · have hsize := hle.resolve_left hc
      split
      · refine ⟨s, _, _, rfl, .inr ?_⟩
        rw [decimalLength_mul_pow hc]
        omega
      · exact ⟨s, _, _, rfl, .inr (by omega)⟩

end Binary64

end Phrasebook
