import Phrasebook.Format.Relative
import Phrasebook.Proofs.NearestDoubles

/-!
The units of relative time.

A distance is told in the smallest unit in which its amount stays below the limit of the unit
(`Relative.exists_told`). Each amount is rounded from a rounded one, and yet it is less than one
unit off (`Relative.abs_amountIn_mul_sub_lt`), has the sign of the distance
(`Relative.Told.sign_eq`) and never falls behind the amount of a shorter distance, whatever units
the two are told in (`Relative.Told.mono`). For the distances between two moments the ladder that
divides doubles gives the same amounts (`Relative.selectValue_integer`).
-/

set_option autoImplicit false

namespace Phrasebook

/-- The size that an amount stays below where the unit is used. Any number of years may be told. -/
def TimeUnit.limit? : TimeUnit → Option ℕ
  | .second => some 60
  | .minute => some 60
  | .hour => some 24
  | .day => some 7
  | .week => some 4
  | .month => some 12
  | .year => none

/-- The greatest amount of a unit is no longer than one of any larger unit. -/
theorem TimeUnit.limit_mul_seconds_le {u v : TimeUnit} (huv : u.seconds < v.seconds) :
    ∀ l ∈ u.limit?, l * u.seconds ≤ v.seconds + u.seconds := by
  revert huv
  cases u <;> cases v <;> decide

namespace Relative

/-! ### Division with halves upward -/

section Division

variable {n n' : ℤ} {d : ℕ}

theorem divideExact_mem (n : ℤ) (hd : 0 < d) :
    2 * d * divideExact n d ≤ 2 * n + d ∧ 2 * n + d < 2 * d * divideExact n d + 2 * d := by
  have hd' : (0 : ℤ) < 2 * d := by omega
  rw [divideExact, Int.fdiv_eq_ediv_of_nonneg _ hd'.le]
  exact ⟨Int.mul_ediv_self_le hd'.ne', Int.lt_mul_ediv_self_add hd'⟩

/-- The exact quotient plus one half, rounded down. -/
theorem divideExact_eq_floor (n : ℤ) (d : ℕ) : divideExact n d = ⌊(n : ℚ) / d + 1 / 2⌋ := by
  rcases Nat.eq_zero_or_pos d with rfl | hd
  · norm_num [divideExact]
  · have hsum : (n : ℚ) / d + 1 / 2 = (2 * n + d : ℤ) / (2 * d : ℕ) := by
      have hd' : (d : ℚ) ≠ 0 := by exact_mod_cast hd.ne'
      push_cast
      field_simp
    rw [hsum, Rat.floor_intCast_div_natCast, divideExact,
      Int.fdiv_eq_ediv_of_nonneg _ (by positivity)]
    rfl

theorem divideExact_mono (d : ℕ) (h : n ≤ n') : divideExact n d ≤ divideExact n' d := by
  have hcast : (n : ℚ) ≤ n' := by exact_mod_cast h
  rw [divideExact_eq_floor, divideExact_eq_floor]
  gcongr

end Division

/-! ### The ladder -/

/-- The amount of a number of seconds in a unit. It is rounded from the rounded amount of a smaller
unit, which is days for the three largest. -/
def amountIn (s : ℤ) (u : TimeUnit) : ℤ :=
  let minutes := divideExact s 60
  let hours := divideExact minutes 60
  let days := divideExact hours 24
  match u with
  | .second => s
  | .minute => minutes
  | .hour => hours
  | .day => days
  | .week => divideExact days 7
  | .month => divideExact days 30
  | .year => divideExact days 365

/-- The amount of a number of seconds in a unit stays below the limit of the unit. -/
def Fits (s : ℤ) (u : TimeUnit) : Prop :=
  ∀ l ∈ u.limit?, (amountIn s u).natAbs < l

instance (s : ℤ) (u : TimeUnit) : Decidable (Fits s u) :=
  inferInstanceAs (Decidable (∀ l ∈ u.limit?, _))

/-- The ladder over exact divisions. -/
def ladderExact (s : ℤ) : ℤ × TimeUnit :=
  ladder (m := Id) divideExact s

/-- The unit is the smallest in which the amount stays below the limit. -/
structure Told (s : ℤ) (u : TimeUnit) : Prop where
  fits : Fits s u
  least : ∀ v : TimeUnit, v.seconds < u.seconds → ¬ Fits s v

theorem fits_iff {s : ℤ} {u : TimeUnit} {l : ℕ} (h : u.limit? = some l) :
    Fits s u ↔ (amountIn s u).natAbs < l := by
  simp [Fits, h]

theorem ladderExact_eq (s : ℤ) : ladderExact s =
    if (amountIn s .second).natAbs < 60 then (amountIn s .second, .second)
    else if (amountIn s .minute).natAbs < 60 then (amountIn s .minute, .minute)
    else if (amountIn s .hour).natAbs < 24 then (amountIn s .hour, .hour)
    else if (amountIn s .day).natAbs < 7 then (amountIn s .day, .day)
    else if (amountIn s .week).natAbs < 4 then (amountIn s .week, .week)
    else if (amountIn s .month).natAbs < 12 then (amountIn s .month, .month)
    else (amountIn s .year, .year) :=
  rfl

/-- The ladder stops at the smallest unit that fits. -/
theorem exists_told (s : ℤ) :
    ∃ u, Told s u ∧ ladderExact s = (amountIn s u, u) := by
  have hyear : Fits s .year := fun l hl ↦ by cases hl
  rw [ladderExact_eq]
  simp only [← fits_iff (u := .second) rfl, ← fits_iff (u := .minute) rfl,
    ← fits_iff (u := .hour) rfl, ← fits_iff (u := .day) rfl, ← fits_iff (u := .week) rfl,
    ← fits_iff (u := .month) rfl]
  -- each branch knows that its unit fits and that the units before it do not
  split_ifs
  all_goals
    refine ⟨_, ⟨?_, fun v hv ↦ ?_⟩, rfl⟩
    · assumption
    · cases v <;> first | assumption | exact absurd hv (by decide)

/-! ### Amounts of one distance and of two -/

section Amounts

variable {s t : ℤ} {u v : TimeUnit}

/-- However often the amount has been rounded, it is less than one unit off. -/
theorem abs_amountIn_mul_sub_lt (s : ℤ) (u : TimeUnit) :
    |amountIn s u * u.seconds - s| < u.seconds := by
  have hminutes := divideExact_mem s (d := 60) (by decide)
  have hhours := divideExact_mem (divideExact s 60) (d := 60) (by decide)
  have hdays := divideExact_mem (divideExact (divideExact s 60) 60) (d := 24) (by decide)
  have hlast {d : ℕ} (hd : 0 < d) := divideExact_mem (amountIn s .day) hd
  rw [abs_lt]
  cases u with
  | week =>
    have hweeks := hlast (d := 7) (by decide)
    simp only [amountIn, TimeUnit.seconds] at hweeks ⊢
    omega
  | month =>
    have hmonths := hlast (d := 30) (by decide)
    simp only [amountIn, TimeUnit.seconds] at hmonths ⊢
    omega
  | year =>
    have hyears := hlast (d := 365) (by decide)
    simp only [amountIn, TimeUnit.seconds] at hyears ⊢
    omega
  | _ =>
    simp only [amountIn, TimeUnit.seconds]
    omega

theorem amountIn_mono (h : s ≤ t) (u : TimeUnit) : amountIn s u ≤ amountIn t u := by
  have hdays : amountIn s .day ≤ amountIn t .day :=
    divideExact_mono 24 (divideExact_mono 60 (divideExact_mono 60 h))
  cases u with
  | second => exact h
  | minute => exact divideExact_mono 60 h
  | hour => exact divideExact_mono 60 (divideExact_mono 60 h)
  | day => exact hdays
  | week => exact divideExact_mono 7 hdays
  | month => exact divideExact_mono 30 hdays
  | year => exact divideExact_mono 365 hdays

/-- An amount of a smaller unit than the told one has reached the limit of its unit. -/
theorem Told.limit_le (h : Told s u) (hv : v.seconds < u.seconds) {l : ℕ} (hl : v.limit? = some l) :
    l ≤ (amountIn s v).natAbs :=
  not_lt.1 fun hlt ↦ h.least v hv ((fits_iff hl).2 hlt)

/-- A told amount is not zero and does not change sides, unless the distance is zero. -/
theorem Told.sign_eq (h : Told s u) : (amountIn s u).sign = s.sign := by
  have hminutes := divideExact_mem s (d := 60) (by decide)
  have hhours := divideExact_mem (divideExact s 60) (d := 60) (by decide)
  have hdays := divideExact_mem (divideExact (divideExact s 60) 60) (d := 24) (by decide)
  have hlast {d : ℕ} (hd : 0 < d) := divideExact_mem (amountIn s .day) hd
  -- an amount that has reached its limit is not rounded to zero in the next unit
  have hsign : (0 < amountIn s u ↔ 0 < s) ∧ (amountIn s u < 0 ↔ s < 0) := by
    cases u with
    | second => exact ⟨Iff.rfl, Iff.rfl⟩
    | minute =>
      have hle := h.limit_le (v := .second) (by decide) rfl
      simp only [amountIn] at hle ⊢
      omega
    | hour =>
      have hle := h.limit_le (v := .minute) (by decide) rfl
      simp only [amountIn] at hle ⊢
      omega
    | day =>
      have hle := h.limit_le (v := .hour) (by decide) rfl
      simp only [amountIn] at hle ⊢
      omega
    | week =>
      have hle := h.limit_le (v := .day) (by decide) rfl
      have hweeks := hlast (d := 7) (by decide)
      simp only [amountIn] at hle hweeks ⊢
      omega
    | month =>
      have hle := h.limit_le (v := .week) (by decide) rfl
      have hweeks := hlast (d := 7) (by decide)
      have hmonths := hlast (d := 30) (by decide)
      simp only [amountIn] at hle hweeks hmonths ⊢
      omega
    | year =>
      have hle := h.limit_le (v := .month) (by decide) rfl
      have hmonths := hlast (d := 30) (by decide)
      have hyears := hlast (d := 365) (by decide)
      simp only [amountIn] at hle hmonths hyears ⊢
      omega
  rcases lt_trichotomy s 0 with hs | rfl | hs
  · rw [Int.sign_eq_neg_one_of_neg hs, Int.sign_eq_neg_one_of_neg (hsign.2.2 hs)]
  · have hzero : amountIn 0 u = 0 := by omega
    rw [hzero]
  · rw [Int.sign_eq_one_of_pos hs, Int.sign_eq_one_of_pos (hsign.1.2 hs)]

theorem exists_limit (h : u.seconds < v.seconds) : ∃ l, u.limit? = some l := by
  cases u with
  | year => cases v <;> exact absurd h (by decide)
  | _ => exact ⟨_, rfl⟩

/-- Where the amount of a smaller unit has reached its limit, the told amount is farther from zero
than every amount of the smaller unit below its limit. -/
theorem Told.beyond (h : Told t v) (huv : u.seconds < v.seconds) {l : ℕ} (hl : u.limit? = some l)
    {a : ℤ} (ha : a.natAbs < l) :
    (l ≤ amountIn t u → a * u.seconds ≤ amountIn t v * v.seconds) ∧
      (amountIn t u ≤ -l → amountIn t v * v.seconds ≤ a * u.seconds) := by
  have hzero : amountIn 0 u = 0 := by cases u <;> decide
  have hfull : |a * u.seconds| ≤ v.seconds := by
    have hunits : (l * u.seconds : ℤ) ≤ v.seconds + u.seconds := by
      exact_mod_cast TimeUnit.limit_mul_seconds_le huv l hl
    have hless : ((a.natAbs : ℤ) + 1) * u.seconds ≤ l * u.seconds :=
      mul_le_mul_of_nonneg_right (by omega) (by positivity)
    rw [abs_mul, Nat.abs_cast, Int.abs_eq_natAbs]
    linarith
  rw [abs_le] at hfull
  constructor
  · intro hlimit
    have ht : 0 < t := by
      by_contra hneg
      have := amountIn_mono (not_lt.1 hneg) u
      omega
    have hpos : 0 < amountIn t v := by
      rw [← Int.sign_eq_one_iff_pos, h.sign_eq, Int.sign_eq_one_of_pos ht]
    calc a * u.seconds ≤ 1 * v.seconds := by linarith
      _ ≤ amountIn t v * v.seconds := mul_le_mul_of_nonneg_right hpos (by positivity)
  · intro hlimit
    have ht : t < 0 := by
      by_contra hpos
      have := amountIn_mono (not_lt.1 hpos) u
      omega
    have hneg : amountIn t v < 0 := by
      rw [← Int.sign_eq_neg_one_iff_neg, h.sign_eq, Int.sign_eq_neg_one_of_neg ht]
    calc amountIn t v * v.seconds ≤ -1 * v.seconds :=
          mul_le_mul_of_nonneg_right (by omega) (by positivity)
      _ ≤ a * u.seconds := by linarith

/-- A longer distance is never told as a shorter time. -/
theorem Told.mono (hs : Told s u) (ht : Told t v) (h : s ≤ t) :
    amountIn s u * u.seconds ≤ amountIn t v * v.seconds := by
  rcases lt_trichotomy u.seconds v.seconds with huv | huv | huv
  · obtain ⟨l, hl⟩ := exists_limit huv
    have hfits := (fits_iff hl).1 hs.fits
    have hlimit := ht.limit_le huv hl
    have hmono := amountIn_mono h u
    exact (ht.beyond huv hl hfits).1 (by omega)
  · obtain rfl : u = v := by revert huv; cases u <;> cases v <;> decide
    exact mul_le_mul_of_nonneg_right (amountIn_mono h u) (by positivity)
  · obtain ⟨l, hl⟩ := exists_limit huv
    have hfits := (fits_iff hl).1 ht.fits
    have hlimit := hs.limit_le huv hl
    have hmono := amountIn_mono h v
    exact (hs.beyond huv hl hfits).2 (by omega)

end Amounts

/-! ### The ladder over doubles -/

section Doubles

open Binary64

variable {x : Binary64} {n k : ℤ} {d : ℕ}

theorem value_half : half.value = 1 / 2 := by
  have hhalf : half = .finite false (2 ^ 52) (-53) (by decide) := by decide
  rw [hhalf]
  norm_num [value]

/-- A double is rounded to the whole number that it is nearest to, if `i` bits after the point are
left when the half is added. -/
theorem roundDouble_eq (hx : x.isFinite = true) {i : ℕ} (hi : i ≤ 52)
    (hk : |(k : ℚ)| < 2 ^ 52 * 2 ^ (-(i : ℤ))) (hlow : (k : ℚ) - 1 / 2 ≤ x.value)
    (hhigh : x.value ≤ k + 1 / 2 - 2 ^ (-(i : ℤ))) : roundDouble x = .ok k := by
  have hpow : (2 : ℚ) ^ i * 2 ^ (-(i : ℤ)) = 1 := by
    rw [zpow_neg, zpow_natCast, mul_inv_cancel₀ (by positivity)]
  have hone : (1 : ℚ) ≤ 2 ^ 52 * 2 ^ (-(i : ℤ)) := by
    rw [← hpow]
    exact mul_le_mul_of_nonneg_right (pow_le_pow_right₀ one_le_two hi) (by positivity)
  have hpos : (0 : ℚ) < 2 ^ (-(i : ℤ)) := by positivity
  have hwhole : (k : ℚ) = (k * 2 ^ i : ℤ) * 2 ^ (-(i : ℤ)) := by
    push_cast
    rw [mul_assoc, hpow, mul_one]
  have hnext : (k : ℚ) + 1 - 2 ^ (-(i : ℤ)) = ((k + 1) * 2 ^ i - 1 : ℤ) * 2 ^ (-(i : ℤ)) := by
    push_cast
    rw [sub_mul, mul_assoc, hpow, mul_one, one_mul]
  have hlt : |x.value + half.value| < 2 ^ 53 * 2 ^ (-(i : ℤ)) := by
    rw [abs_lt] at hk
    rw [value_half, abs_lt]
    constructor <;> linarith
  obtain ⟨hfinite, e, he, hround⟩ :=
    exists_rounded_add hx (y := half) rfl (by omega) (by omega) hlt
  rw [value_half] at hround
  have hle := hround.multiple_le_of_le he (by rw [← hwhole]; linarith)
  have hge := hround.le_multiple_of_le he (by rw [← hnext]; linarith)
  have hfloor : ⌊(x.add half).value⌋ = k := by
    rw [← hwhole] at hle
    rw [← hnext] at hge
    rw [Int.floor_eq_iff]
    constructor <;> linarith
  have hvalue := floor?_eq hfinite
  rw [hfloor] at hvalue
  unfold roundDouble
  split
  · rename_i hnan
    rw [hnan] at hfinite
    cases hfinite
  · rw [hvalue]

/-- A whole number is its own rounding. -/
theorem roundDouble_ofInt (hn : n.natAbs < 2 ^ 51) : roundDouble (.ofInt n) = .ok n := by
  obtain ⟨hfinite, hvalue⟩ := toInt?_eq_some_iff.1 (toInt?_ofInt (n := n) (by omega))
  refine roundDouble_eq hfinite (i := 1) (by decide) ?_ ?_ ?_
  · have hlt : |n| < 2 ^ 51 := by
      rw [Int.abs_eq_natAbs]
      exact_mod_cast hn
    have hlt : |(n : ℚ)| < 2 ^ 51 := by exact_mod_cast hlt
    exact hlt.trans_eq (by norm_num)
  · rw [hvalue]
    linarith
  · rw [hvalue]
    norm_num

/-- The division of doubles is exact as far as its quotient leaves room for ten bits after the
point. -/
theorem divideDouble_eq (hd : 0 < d) (hd' : d ≤ 2 ^ 9) (hn : n.natAbs < 2 ^ 41 * d) :
    divideDouble n d = .ok (divideExact n d) := by
  have hdpos : (0 : ℚ) < d := by exact_mod_cast hd
  obtain ⟨hlow, hhigh⟩ := divideExact_mem n hd
  generalize hk : divideExact n d = k at hlow hhigh
  -- the quotient as a number of steps of ten bits
  have hlow : ((2 * k - 1) * 2 ^ 9 : ℤ) * (2 : ℚ) ^ (-10 : ℤ) ≤ n / d := by
    have hlow : (2 * d * k : ℚ) ≤ 2 * n + d := by exact_mod_cast hlow
    rw [le_div_iff₀ hdpos]
    push_cast
    norm_num
    linarith
  have hhigh : n / d ≤ ((2 * k + 1) * 2 ^ 9 - 1 : ℤ) * (2 : ℚ) ^ (-10 : ℤ) := by
    have hhigh : (2 * n + d + 1 : ℚ) ≤ 2 * d * k + 2 * d := by exact_mod_cast hhigh
    have hd' : (d : ℚ) ≤ 512 := by exact_mod_cast hd'
    rw [div_le_iff₀ hdpos]
    push_cast
    norm_num
    linarith
  have hsize : |(n : ℚ) / d| < 2 ^ 41 := by
    rw [abs_div, Nat.abs_cast, div_lt_iff₀ hdpos, ← Int.cast_abs, Int.abs_eq_natAbs]
    exact_mod_cast hn
  have hsmall : |(k : ℚ)| < 2 ^ 52 * 2 ^ (-(10 : ℕ) : ℤ) := by
    rw [abs_lt] at hsize ⊢
    push_cast at hlow hhigh
    norm_num at hlow hhigh ⊢
    constructor <;> linarith
  obtain ⟨hfinite, e, he, hround⟩ := exists_rounded_ofFraction (g := -10) false hd (by decide)
    (by decide) (hsize.trans (by norm_num))
  have hle := hround.multiple_le_of_le he hlow
  have hge := hround.le_multiple_of_le he hhigh
  have hdivide : divideDouble n d = roundDouble (ofFraction false n d) := by
    unfold divideDouble
    split
    · rename_i hinfinite
      rw [hinfinite] at hfinite
      cases hfinite
    · rfl
  rw [hdivide]
  refine roundDouble_eq hfinite (i := 10) (by decide) hsmall ?_ ?_
  · push_cast at hle
    norm_num at hle ⊢
    linarith
  · push_cast at hge
    norm_num at hge ⊢
    linarith

/-- The ladder depends on the divisions that it makes and on nothing else. -/
theorem ladder_congr {m : Type → Type} [Monad m] [LawfulMonad m] {divide : ℤ → ℕ → m ℤ} {s : ℤ}
    (hminutes : divide s 60 = pure (amountIn s .minute))
    (hhours : divide (amountIn s .minute) 60 = pure (amountIn s .hour))
    (hdays : divide (amountIn s .hour) 24 = pure (amountIn s .day))
    (hweeks : divide (amountIn s .day) 7 = pure (amountIn s .week))
    (hmonths : divide (amountIn s .day) 30 = pure (amountIn s .month))
    (hyears : divide (amountIn s .day) 365 = pure (amountIn s .year)) :
    ladder divide s = pure (ladderExact s) := by
  have hseconds : amountIn s .second = s := rfl
  rw [ladderExact_eq, hseconds]
  unfold ladder
  simp only [hminutes, hhours, hdays, hweeks, hmonths, hyears, pure_bind]
  split_ifs <;> rfl

/-- As far as the time between two moments can be, the library tells the amount and the unit that
exact division gives. -/
theorem selectValue_integer {s : ℤ} (hs : s.natAbs < 86400 * 10 ^ 9) :
    selectValue (.number (.integer s)) = .ok (ladderExact s) := by
  have hladder : ladder divideDouble s = .ok (ladderExact s) := by
    have hminutes := divideExact_mem s (d := 60) (by decide)
    have hhours := divideExact_mem (divideExact s 60) (d := 60) (by decide)
    have hdays := divideExact_mem (divideExact (divideExact s 60) 60) (d := 24) (by decide)
    refine ladder_congr (divideDouble_eq (by decide) (by decide) (by omega)) ?_ ?_ ?_ ?_ ?_
    all_goals
      refine divideDouble_eq (by decide) (by decide) ?_
      simp only [amountIn]
      omega
  have hselect : selectValue (.number (.integer s)) = select (.ofInt s) := by
    unfold selectValue
    dsimp only
    split
    · rename_i hinfinite
      have hfinite := isFinite_of_toInt? (toInt?_ofInt (n := s) (by omega))
      rw [hinfinite] at hfinite
      cases hfinite
    · rfl
  rw [hselect, select, roundDouble_ofInt (by omega)]
  exact hladder

end Doubles

/-- The ladder over exact quotients, halves rounded upward, tells every distance by an amount below
the limit of its unit, which has the sign of the distance and is less than one unit off. A longer
distance is never told as a shorter time. Distances between two moments are told so by the library,
which divides doubles. -/
theorem ladder_sound :
    (∀ (n : ℤ) (d : ℕ), divideExact n d = ⌊(n : ℚ) / d + 1 / 2⌋) ∧
    (∀ s : ℤ, ∃ a u, ladderExact s = (a, u) ∧ (∀ l ∈ u.limit?, a.natAbs < l) ∧ a.sign = s.sign ∧
      |a * u.seconds - s| < u.seconds ∧
      (s.natAbs < 86400 * 10 ^ 9 → selectValue (.number (.integer s)) = .ok (a, u))) ∧
    ∀ s t : ℤ, s ≤ t → (ladderExact s).1 * (ladderExact s).2.seconds ≤
      (ladderExact t).1 * (ladderExact t).2.seconds := by
  refine ⟨divideExact_eq_floor, fun s ↦ ?_, fun s t h ↦ ?_⟩
  · obtain ⟨u, htold, hladder⟩ := exists_told s
    refine ⟨_, u, hladder, htold.fits, htold.sign_eq, abs_amountIn_mul_sub_lt s u, fun hs ↦ ?_⟩
    rw [selectValue_integer hs, hladder]
  · obtain ⟨u, hu, hs⟩ := exists_told s
    obtain ⟨v, hv, ht⟩ := exists_told t
    rw [hs, ht]
    exact hu.mono hv h

/-- An hour and a half in the past is one hour ago, as halves are rounded upward. Thirty-one seconds
more make it two. -/
theorem ladder_sound_half : (-5400 : ℤ).natAbs < 86400 * 10 ^ 9 ∧
    ladderExact (-5400) = (-1, .hour) ∧
    selectValue (.number (.integer (-5400))) = .ok (-1, .hour) ∧
    ladderExact (-5431) = (-2, .hour) ∧ (-2 : ℤ) * 3600 ≤ -1 * 3600 := by
  have hladder : ladderExact (-5400) = (-1, .hour) := by decide
  have hearlier : ladderExact (-5431) = (-2, .hour) := by decide
  obtain ⟨-, htold, hmono⟩ := ladder_sound
  obtain ⟨a, u, heq, -, -, -, hselect⟩ := htold (-5400)
  rw [hladder] at heq
  obtain ⟨rfl, rfl⟩ := Prod.mk.inj heq
  have hle := hmono (-5431) (-5400) (by decide)
  rw [hladder, hearlier] at hle
  exact ⟨by decide, hladder, hselect (by decide), hearlier, hle⟩

end Relative

end Phrasebook
