import Phrasebook.Proofs.CompactUnits

/-!
Which number compact notation shows.

A number of at least a thousand is rounded and then counted in the unit of what it is rounded to.
What is shown is this quotient, rounded to the fraction digits that were picked with the rounding,
and a smaller number is shown as it is (`Compact.Displays`, `Format.compactIn_shows`). The rounding
takes every unit for a thousand times the one before it, so this is the number that is meant where
that is so (`Compact.Displays.eq_meant`), and below a thousand where there is nothing to round
(`Compact.Displays.eq_meant_iff`).
-/

set_option autoImplicit false

namespace Phrasebook

open Arithmetic Decimal

/-! ### Texts -/

/-- The text shows the number, or it has no numeral and the number is one or minus one. -/
def NumberPattern.Tells (p : NumberPattern) (y : NumberSymbols) (text : String) (x : ℚ) : Prop :=
  p.Shows y none text x ∨ p.number = [] ∧ ∃ negative : Bool, x = (if negative then -1 else 1) ∧
    text.toList = affix none (if negative then p.before.2 else p.before.1) ++
      affix none (if negative then p.after.2 else p.after.1)

namespace Compact

/-- The pattern is the one that the locale has for a number after rounding: that for the greatest
magnitude that it reaches, or the plain one. -/
def PatternFor (f : NumberFormats) (rules : Plural.Rules) (patterns : CompactPatterns)
    (other : List (ℕ × String)) (r : ℚ) (pattern : String) : Prop :=
  (∀ entry ∈ other, |r| < entry.1) ∧ pattern = f.decimal ∨
    ∃ entry, Reaches other r entry ∧ Belongs rules patterns entry (r / unitOf entry) pattern

/-- What is about to be shown is the number `y`, in the pattern for the rounded number `r`, which
has room for it. -/
structure Ready (f : NumberFormats) (rules : Plural.Rules) (patterns : CompactPatterns)
    (other : List (ℕ × String)) (r y : ℚ) (shown : Decimal × String) : Prop where
  pattern : PatternFor f rules patterns other r shown.2
  number : ∃ s c e, shown.1 = .finite s c e ∧ Fits 28 (finite s c e).value y
  room : ∃ p ∈ NumberPattern.ofText? shown.2.toList, p.Positional ∧ p.scale = 0 ∧
    (p.number ≠ [] ∨ |y| = 1) ∧ p.places.max ≤ 6 ∧ |y| < 10 ^ (28 - (p.places.max : ℤ))

namespace Ready

variable {f : NumberFormats} {rules : Plural.Rules} {patterns : CompactPatterns}
  {other : List (ℕ × String)} {r y : ℚ} {shown : Decimal × String}
  (h : Ready f rules patterns other r y shown) (hf : f.symbols.isClear = true)

include h hf

theorem exists_text :
    ∃ text, Format.applyPattern f shown.2.toList none true shown.1 = .ok text := by
  obtain ⟨s, c, e, hshown, hfits⟩ := h.number
  obtain ⟨p, hread, hp, hscale, -, hplaces, hsize⟩ := h.room
  rw [← mul_one (finite s c e).value, ← zpow_zero (10 : ℚ), ← Nat.cast_zero, ← hscale] at hfits
  obtain ⟨text, htext⟩ : ∃ text, p.apply f.symbols none true (finite s c e) = .ok text :=
    NumberPattern.exists_natural hp hf hfits hsize (by
      change minExponent - 27 ≤ -(p.places.max : ℤ)
      unfold minExponent
      omega)
  exact ⟨text, by rw [hshown, Format.applyPattern_eq hread, htext]; rfl⟩

theorem tells {text : String}
    (htext : Format.applyPattern f shown.2.toList none true shown.1 = .ok text) :
    ∃ pattern p, PatternFor f rules patterns other r pattern ∧
      NumberPattern.ofText? pattern.toList = some p ∧ p.Tells f.symbols text y := by
  obtain ⟨s, c, e, hshown, hfits⟩ := h.number
  obtain ⟨p, hread, hp, hscale, hone, -, -⟩ := h.room
  rw [← mul_one (finite s c e).value, ← zpow_zero (10 : ℚ), ← Nat.cast_zero, ← hscale] at hfits
  rw [hshown, Format.applyPattern_eq hread] at htext
  obtain ⟨-, numeral, htext, hnumeral, hsign⟩ := NumberPattern.numeral_of_natural hp hf hfits
    (Format.eq_ok_of_arith htext)
  refine ⟨_, p, h.pattern, hread, ?_⟩
  by_cases hnumber : p.number = []
  · rw [hone.resolve_left (not_not_intro hnumber)] at hsign
    refine .inr ⟨hnumber, s, hsign, ?_⟩
    rw [htext, NumberPattern.textOf, hnumber]
    simp
  · exact .inl (NumberPattern.shows_of_textOf hnumber htext hnumeral hsign)

end Ready

/-- The number `y` that is shown for a number `x`, which decimal arithmetic sees fitted to its
precision. A number of at least a thousand is rounded to `r`, and the quotient by the unit of `r` is
rounded to the places that were picked with `r`. A smaller number is shown as it is. -/
def Displays (other : List (ℕ × String)) (x : ℚ) (places : ℕ) (r y : ℚ) : Prop :=
  ∃ f, Fits 28 x f ∧
    (|f| < 1000 ∧ r = f ∧ y = f ∨
      1000 ≤ |f| ∧ RoundedAt .awayFromZero place f r ∧
        ∃ k u : ℕ, LeadsAt r k ∧ places = (if k % 3 = 0 then 1 else 0) ∧ HasUnit other r u ∧
          Rounded .toEven (10 ^ (-(places : ℤ))) (r / u) y)

theorem exists_displays (other : List (ℕ × String)) (x : ℚ) :
    ∃ places r y, Displays other x places r y := by
  obtain ⟨f, hf⟩ := Fits.exists_fits 28 x
  rcases lt_or_ge |f| 1000 with hsmall | hlarge
  · exact ⟨0, f, f, f, hf, .inl ⟨hsmall, rfl, rfl⟩⟩
  · obtain ⟨r, hr⟩ := exists_roundedAt .awayFromZero place (ne_zero_of_large hlarge)
    have hlarge' := thousand_le place_le hlarge hr
    obtain ⟨n, -, hk⟩ := exists_lead hlarge'
    obtain ⟨u, hu⟩ := exists_hasUnit other r
    obtain ⟨y, hy⟩ := exists_rounded .toEven
      (ten_zpow_pos (-((if n % 3 = 0 then 1 else 0 : ℕ) : ℤ))) (r / u)
    exact ⟨_, r, y, f, hf, .inr ⟨hlarge, hr, n, u, hk, rfl, hu, hy⟩⟩

theorem Displays.unique {other : List (ℕ × String)} (hother : IsLadder other) {x r y r' y' : ℚ}
    {places places' : ℕ} (h : Displays other x places r y) (h' : Displays other x places' r' y') :
    r = r' ∧ y = y' := by
  obtain ⟨f, hf, h⟩ := h
  obtain ⟨f', hf', h'⟩ := h'
  obtain rfl := hf.unique hf'
  rcases h with ⟨hsmall, rfl, rfl⟩ | ⟨hlarge, hr, k, u, hk, rfl, hu, hy⟩
  · rcases h' with ⟨-, rfl, rfl⟩ | ⟨hlarge', -⟩
    · exact ⟨rfl, rfl⟩
    · exact absurd hsmall hlarge'.not_gt
  · rcases h' with ⟨hsmall', -⟩ | ⟨-, hr', k', u', hk', rfl, hu', hy'⟩
    · exact absurd hsmall' hlarge.not_gt
    · obtain rfl := hr.unique hr'
      obtain rfl : k = k' := by exact_mod_cast hk.unique hk'
      obtain rfl := hu.unique hother hu'
      exact ⟨rfl, hy.unique (ten_zpow_pos _) hy'⟩

section Shown

variable {f : NumberFormats} {rules : Plural.Rules} {patterns : CompactPatterns}
  {other : List (ℕ × String)} {s : Bool} {c : ℕ} {e : ℤ} {r y : ℚ} (hformats : f.Regular)
  (hregular : Regular rules patterns) (hother : patterns.lookup "other" = some other)

include hformats in
/-- A number without an entry is shown in the plain pattern. -/
theorem ready_decimal (hnone : ∀ entry ∈ other, |r| < entry.1)
    (hfits : Fits 28 (finite s c e).value r) (hsize : |r| < 10 ^ (20 : ℤ)) :
    Ready f rules patterns other r r (finite s c e, f.decimal) := by
  obtain ⟨p, hread, hwrites, hplaces⟩ := hformats.decimal
  exact ⟨.inl ⟨hnone, rfl⟩, ⟨s, c, e, rfl, hfits⟩, p, hread, hwrites.positional, hwrites.scale,
    .inl hwrites.number, by omega, hsize.trans_le (ten_zpow_le (by omega))⟩

include hregular in
/-- A number in its unit is shown in a pattern of its entry. -/
theorem ready_entry {entry : ℕ × String} (hentry : Reaches other r entry) {pattern : String}
    (hpattern : Belongs rules patterns entry (r / unitOf entry) pattern) {places : ℕ}
    (hy : Rounded .toEven (10 ^ (-(places : ℤ))) (r / unitOf entry) y)
    (hfits : Fits 28 (finite s c e).value y) (hsize : |y| < 10 ^ (28 : ℤ)) :
    Ready f rules patterns other r y (finite s c e, pattern) := by
  obtain ⟨form, hform, hmem, -, hone⟩ := id hpattern
  obtain ⟨p, hread, hp, hscale, hplaces, hnumber⟩ := hregular.forms form hform _ hmem
  refine ⟨.inr ⟨entry, hentry, hpattern⟩, ⟨s, c, e, rfl, hfits⟩, p, hread, hp, hscale,
    hnumber.imp_right fun hsingle ↦ ?_, by omega, hsize.trans_le (ten_zpow_le (by omega))⟩
  -- neither one nor minus one is changed by rounding
  have hstep := ten_zpow_pos (-(places : ℤ))
  obtain ⟨i, hi⟩ := exists_ten_zpow_eq (by omega : -(places : ℤ) ≤ 0)
  rw [zpow_zero] at hi
  obtain ⟨j, hj⟩ : ∃ j : ℤ, r / unitOf entry = j * 10 ^ (-(places : ℤ)) := by
    rcases eq_or_eq_neg_of_abs_eq (hone hsingle) with hquotient | hquotient
    · exact ⟨i, hquotient.trans hi⟩
    · exact ⟨-i, by rw [hquotient, hi]; push_cast; ring⟩
  have hself := Rounded.self hstep .toEven j
  rw [← hj] at hself
  rw [hy.unique hstep hself, hone hsingle]

section Large

variable {places u : ℕ} (hr : (finite s c e).value = r) (hfits : Fits 28 r r) (hlarge : 1000 ≤ |r|)
  (hsize : |r| < 10 ^ (Text.LongNumeral.limit : ℤ)) (hplaces : places ≤ 1)
  (hwhole : ∃ i : ℤ, r = i * 10 ^ (-(places : ℤ))) (hu : HasUnit other r u)
  (hy : Rounded .toEven (10 ^ (-(places : ℤ))) (r / u) y)

include hwhole hy in
/-- A number that is counted in ones is shown as it is. -/
theorem eq_of_ones (hu : u = 1) : y = r := by
  obtain ⟨i, hi⟩ := hwhole
  have hstep := ten_zpow_pos (-(places : ℤ))
  rw [hu, Nat.cast_one, div_one, hi] at hy
  exact (hy.unique hstep (.self hstep _ i)).trans hi.symm

include hr hfits hlarge hsize hplaces hwhole hu hy hregular hother

/-- A number of at least a thousand is shown in its unit. -/
theorem ready_of_choose (hformats : f.Regular) {x : Option (Decimal × String)}
    (h : choose rules patterns (finite s c e) places = .ok x) :
    |y| < 10 ^ (28 - (places : ℤ)) ∧
      Ready f rules patterns other r y (x.getD (finite s c e, f.decimal)) := by
  have hladder := hregular.isLadder hother
  have hfits' : Fits 28 (finite s c e).value r := by rwa [hr]
  obtain ⟨a, g, habs, hvalue⟩ := exists_abs hfits'
    (hsize.trans_le (ten_zpow_le (by decide)))
  rcases magnitudeFor_cases other hvalue with ⟨hnone, hbelow⟩ | ⟨entry, hentry, hreaches⟩
  · obtain rfl := eq_of_ones hwhole hy (hu.unique hladder (.inl ⟨hbelow, rfl⟩))
    rw [choose_none hother habs hnone] at h
    obtain rfl := Except.ok.inj h
    have hfew := hladder.lt_of_none hbelow
    exact ⟨hfew.trans_le (ten_zpow_le (by omega)), ready_decimal hformats hbelow hfits' hfew⟩
  · obtain rfl := hu.unique hladder (.inr ⟨entry, hreaches, rfl⟩)
    by_cases htext : entry.2 = "0"
    · obtain rfl := eq_of_ones hwhole hy (by rw [unitOf, if_pos htext])
      rw [choose_some hother habs hentry, if_pos htext] at h
      obtain rfl := Except.ok.inj h
      have hfew := hreaches.lt_of_bare hladder htext
      refine ⟨hfew.trans_le (ten_zpow_le (by omega)), ?_⟩
      exact ready_entry hregular hreaches (belongs_self hother hreaches.1 rules _) hy hfits'
        (hfew.trans_le (ten_zpow_le (by decide)))
    · obtain ⟨-, -, i, hi, hunit⟩ := hladder.rungs entry hreaches.1
      rw [hunit] at hy
      obtain ⟨hdigits, m, pattern, rfl, hm, hpattern⟩ := choose_sound hr hfits hlarge hsize
        (List.mem_range.1 hi) hother habs hentry htext hunit hy hreaches.1 h
      rw [← hunit] at hy hpattern
      refine ⟨hdigits, ready_entry hregular hreaches hpattern hy ?_
        (hdigits.trans_le (ten_zpow_le (by omega)))⟩
      rw [hm]
      refine .self (hy.exists_multiple le_rfl) ?_ (by unfold minExponent; omega)
      rwa [← room_eq]

omit hwhole in
theorem exists_choose_of_lt (hdigits : |y| < 10 ^ (28 - (places : ℤ))) :
    ∃ x, choose rules patterns (finite s c e) places = .ok x := by
  have hladder := hregular.isLadder hother
  have hfits' : Fits 28 (finite s c e).value r := by rwa [hr]
  obtain ⟨a, g, habs, hvalue⟩ := exists_abs hfits'
    (hsize.trans_le (ten_zpow_le (by decide)))
  rcases magnitudeFor_cases other hvalue with ⟨hnone, -⟩ | ⟨entry, hentry, hreaches⟩
  · exact ⟨_, choose_none hother habs hnone⟩
  · by_cases htext : entry.2 = "0"
    · exact ⟨_, by rw [choose_some hother habs hentry, if_pos htext]⟩
    · obtain rfl := hu.unique hladder (.inr ⟨entry, hreaches, rfl⟩)
      obtain ⟨-, -, i, hi, hunit⟩ := hladder.rungs entry hreaches.1
      rw [hunit] at hy
      exact exists_choose hr hfits hlarge hsize (List.mem_range.1 hi) hother habs hentry htext hunit
        hplaces hy hdigits

end Large

end Shown

/-! ### The number that is meant -/

/-- The place of the last digit of a number in a unit: there is one fraction digit while a single
digit stands before the point. -/
def lastPlace (x : ℚ) (u : ℕ) : ℤ :=
  if |x| < 10 * u then -1 else 0

/-- The number that compact notation is meant to show: the number is rounded half away from zero in
its own unit and shown in the unit of what it is rounded to. -/
def Meant (other : List (ℕ × String)) (x z : ℚ) : Prop :=
  ∃ (u u' : ℕ) (r : ℚ), HasUnit other x u ∧
    Rounded .awayFromZero (u * 10 ^ lastPlace x u) x r ∧ HasUnit other r u' ∧ z = r / u'

/-- The unit of the number is the thousand, the million or the like that it reaches. -/
def ByThousands (other : List (ℕ × String)) (x : ℚ) : Prop :=
  ∃ k : ℕ, LeadsAt x k ∧ HasUnit other x (10 ^ (k - k % 3))

section Meant

variable {other : List (ℕ × String)} {x r y z : ℚ} {places : ℕ} (hother : IsLadder other)

include hother

theorem exists_meant (x : ℚ) : ∃ z, Meant other x z := by
  obtain ⟨u, hu⟩ := exists_hasUnit other x
  obtain ⟨i, -, rfl⟩ := hu.exists_pow hother
  obtain ⟨r, hr⟩ := exists_rounded .awayFromZero
    (by positivity : (0 : ℚ) < (10 ^ i : ℕ) * 10 ^ lastPlace x (10 ^ i)) x
  obtain ⟨u', hu'⟩ := exists_hasUnit other r
  exact ⟨_, _, u', r, hu, hr, hu', rfl⟩

theorem hasUnit_of_small (hx : |x| < 1000) {u : ℕ} (hu : HasUnit other x u) : u = 1 :=
  hu.unique hother (.inl ⟨hother.lt_of_small hx, rfl⟩)

/-- A number below a thousand is shown as meant just if it has no digits to be rounded away. -/
theorem Displays.eq_meant_iff (h : Displays other x places r y) (hz : Meant other x z)
    (hx : |x| < 1000) (hfits : Fits 28 x x) : y = z ↔ ∃ i : ℤ, x = i * 10 ^ lastPlace x 1 := by
  have hstep := ten_zpow_pos (lastPlace x 1)
  have hplace : lastPlace x 1 ≤ 0 := by
    unfold lastPlace
    split <;> decide
  obtain ⟨u, u', r', hu, hr', hu', rfl⟩ := hz
  obtain rfl := hasUnit_of_small hother hx hu
  rw [Nat.cast_one, one_mul] at hr'
  obtain rfl : y = x := by
    obtain ⟨f, hf, ⟨-, -, rfl⟩ | ⟨hlarge, -⟩⟩ := h
    · exact hf.unique hfits
    · exact absurd (hf.unique hfits ▸ hx) hlarge.not_gt
  constructor
  · intro heq
    by_cases hones : u' = 1
    · rw [hones, Nat.cast_one, div_one] at heq
      have hmultiple := hr'.exists_multiple le_rfl
      rwa [← heq] at hmultiple
    · -- a number that carries into the first unit is not a tenth of it or less
      have hlarge : 1000 ≤ |r'| := not_lt.1 fun hsmall ↦ hones (hasUnit_of_small hother hsmall hu')
      have hbound := hr'.abs_le (k := 3) (by omega) (by norm_num; exact hx.le)
      obtain ⟨i, -, rfl⟩ := hu'.exists_pow hother
      have hten : (10 : ℚ) ≤ (10 ^ i : ℕ) := by
        have hi : i ≠ 0 := fun hi ↦ hones (by rw [hi, pow_zero])
        exact_mod_cast Nat.le_self_pow hi 10
      have htenth : |y| ≤ 10 ^ (2 : ℤ) := by
        rw [heq, abs_div, abs_of_pos (by linarith : (0 : ℚ) < (10 ^ i : ℕ)),
          div_le_iff₀ (by linarith)]
        norm_num at hbound ⊢
        push_cast at hten
        linarith
      have := hr'.abs_le (k := 2) (by omega) htenth
      norm_num at this
      linarith
  · rintro ⟨i, hi⟩
    have hself := Rounded.self hstep .awayFromZero i
    rw [← hi] at hself
    obtain rfl := hr'.unique hstep hself
    rw [hasUnit_of_small hother hx hu', Nat.cast_one, div_one]

/-- In units that are a thousand times one another a number is shown as meant. -/
theorem Displays.eq_meant (h : Displays other x places r y) (hz : Meant other x z)
    (hx : 1000 ≤ |x|) (hfits : Fits 28 x x) (hunits : ByThousands other x ∧ ByThousands other r) :
    y = z := by
  obtain ⟨f, hf, ⟨hsmall, -⟩ | ⟨-, hr, k, u, hk, rfl, hu, hy⟩⟩ := h
  · exact absurd (hf.unique hfits ▸ hsmall) hx.not_gt
  obtain rfl := hf.unique hfits
  obtain ⟨v, u', r', hv, hr', hu', rfl⟩ := hz
  obtain ⟨⟨j, hj, hjv⟩, k', hk', hku⟩ := hunits
  obtain rfl : k = k' := by exact_mod_cast hk.unique hk'
  obtain rfl := hv.unique hother hjv
  -- the step of the number's own unit is that of its leading digit
  have hstep : ((10 ^ (j - j % 3) : ℕ) : ℚ) * 10 ^ lastPlace f (10 ^ (j - j % 3)) =
      10 ^ place j := by
    have hlast : lastPlace f (10 ^ (j - j % 3)) = -((if j % 3 = 0 then 1 else 0 : ℕ) : ℤ) := by
      have hten : (10 : ℚ) * (10 ^ (j - j % 3) : ℕ) = 10 ^ ((j - j % 3 + 1 : ℕ) : ℤ) := by
        rw [zpow_natCast, pow_succ]
        push_cast
        ring
      unfold lastPlace
      rw [hten]
      by_cases hmod : j % 3 = 0
      · rw [if_pos hmod, if_pos (hj.2.trans_le (ten_zpow_le (by omega)))]
        rfl
      · rw [if_neg hmod, if_neg (not_lt.2 ((ten_zpow_le (by omega)).trans hj.1))]
        rfl
    rw [hlast, place_natCast]
    push_cast
    rw [← zpow_natCast, ← zpow_add₀ (by norm_num)]
    congr 1
    omega
  rw [hstep] at hr'
  obtain rfl := hr.unique ⟨j, hj, hr'⟩
  obtain rfl := hu.unique hother hu'
  obtain rfl := hu.unique hother hku
  -- the quotient has no digits beyond those that are shown
  obtain ⟨k', hk'', i, hi⟩ := hr.exists_multiple place_le
  obtain rfl := hk.unique hk''
  have hquotient : r / (10 ^ (k - k % 3) : ℕ) =
      i * 10 ^ (-((if k % 3 = 0 then 1 else 0 : ℕ) : ℤ)) := by
    have hdivide : ((10 ^ (k - k % 3) : ℕ) : ℚ)⁻¹ = 10 ^ (-((k - k % 3 : ℕ) : ℤ)) := by
      rw [zpow_neg, zpow_natCast]
      push_cast
      rfl
    rw [div_eq_mul_inv, hdivide, hi, mul_assoc, ← zpow_add₀ (by norm_num), place_natCast]
    congr 2
    omega
  rw [hquotient] at hy ⊢
  exact hy.unique (ten_zpow_pos _) (.self (ten_zpow_pos _) _ i)

end Meant

end Compact

namespace Format

open Phrasebook.Compact

section CompactIn

variable {data : LocaleData} {display : CompactDisplay} {v : Value} {patterns : CompactPatterns}
  (hpatterns : data.compact.lookup display.word = some patterns)

include hpatterns in
/-- A number is rounded, a pattern is picked, and this is applied. -/
theorem compactIn_of_some :
    compactIn data v display = compacted v >>= fun r ↦
      choose (data.plurals .cardinal) patterns r.1 r.2 >>= fun x ↦
        applyPattern data.numbers (x.getD (r.1, data.numbers.decimal)).2.toList none true
          (x.getD (r.1, data.numbers.decimal)).1 := by
  unfold compactIn compacted
  simp only [hpatterns, need, bind, Except.bind]
  cases decimalOf v with
  | error g => rfl
  | ok d =>
    dsimp only
    cases arith (round d) with
    | error g => rfl
    | ok r =>
      dsimp only
      cases choose (data.plurals .cardinal) patterns r.1 r.2 with
      | error g => rfl
      | ok x => cases x <;> rfl

variable {f : NumberFormats} {rules : Plural.Rules} {other : List (ℕ × String)} {n : Number}
  {s : Bool} {c : ℕ} {e : ℤ} {places : ℕ} {r y : ℚ}

/-- A number that is rounded to too many digits is not shown. -/
theorem lt_limit_of_compacted (hn : n.toDecimal = .finite s c e) {q : Decimal × ℕ}
    (h : compacted (.number n) = .ok q) (hr : Compacts n.toDecimal.value r) :
    |r| < 10 ^ (Text.LongNumeral.limit : ℤ) := by
  obtain ⟨d, hd, h⟩ := bind_eq_ok h
  obtain ⟨-, rfl⟩ := Display.number_of_decimalOf hd
  rw [hn] at h hr
  exact lt_limit_of_round (eq_ok_of_arith h) hr

section Ready

variable (hother : patterns.lookup "other" = some other) (hn : n.toDecimal = .finite s c e)

include hother hn

/-- A number below a thousand is left as it is, and no pattern is picked for it. -/
theorem exists_ready_of_small (hformats : f.Regular) (hregular : Regular rules patterns)
    (hr : Fits 28 n.toDecimal.value r) (hsmall : |r| < 1000) :
    ∃ q l, compacted (.number n) = .ok (q, l) ∧ choose rules patterns q l = .ok none ∧
      Ready f rules patterns other r r (q, f.decimal) := by
  have hladder := hregular.isLadder hother
  have hbelow := hladder.lt_of_small hsmall
  have hcompacts : Compacts n.toDecimal.value n.toDecimal.value := ⟨_, hr, .inl ⟨hsmall, rfl⟩⟩
  have hx := lt_thousand hr hsmall
  obtain ⟨s', c', e', l, hround, hvalue, -, hself⟩ := exists_compacted (n := n)
    ⟨Display.isOverlong_of_lt hn (hn ▸ hx.trans_le thousand_le_limit), ⟨s, c, e, hn⟩,
      fun z hz ↦ hcompacts.unique hz ▸ hx.trans_le thousand_le_limit⟩
  have hself := hself (hvalue.unique hcompacts ▸ hx)
  rw [hself, hn] at hround
  rw [hn] at hr
  have hfew : |r| < 10 ^ (Text.LongNumeral.limit : ℤ) := hsmall.trans_le thousand_le_limit
  obtain ⟨a, b, habs, hsize⟩ := exists_abs hr (hfew.trans_le (ten_zpow_le (by decide)))
  refine ⟨_, l, hround, ?_, ready_decimal hformats hbelow hr (hladder.lt_of_none hbelow)⟩
  rcases magnitudeFor_cases other hsize with ⟨hnone, -⟩ | ⟨entry, -, hreaches⟩
  · exact choose_none hother habs hnone
  · exact absurd hreaches.2.1 (hbelow _ hreaches.1).not_ge

/-- A number of at least a thousand is rounded, and a pattern that shows it is picked if it has at
most 28 digits in its unit. -/
theorem exists_ready_of_large (hformats : f.Regular) (hregular : Regular rules patterns)
    {g : ℚ} {k u : ℕ} (hg : Fits 28 n.toDecimal.value g) (hlarge : 1000 ≤ |g|)
    (hr : RoundedAt .awayFromZero place g r) (hk : LeadsAt r k)
    (hplaces : places = if k % 3 = 0 then 1 else 0) (hu : HasUnit other r u)
    (hy : Rounded .toEven (10 ^ (-(places : ℤ))) (r / u) y)
    (hlimit : |r| < 10 ^ (Text.LongNumeral.limit : ℤ)) :
    ∃ q l, compacted (.number n) = .ok (q, l) ∧
      (∀ x, choose rules patterns q l = .ok x → |y| < 10 ^ (28 - (places : ℤ)) ∧
        Ready f rules patterns other r y (x.getD (q, f.decimal))) ∧
      (|y| < 10 ^ (28 - (places : ℤ)) → ∃ x, choose rules patterns q l = .ok x) := by
  subst hplaces
  have hcompacts : Compacts n.toDecimal.value r := ⟨g, hg, .inr ⟨hlarge, hr⟩⟩
  have hlarge' := thousand_le place_le hlarge hr
  have hx : |n.toDecimal.value| < 10 ^ (Text.LongNumeral.limit : ℤ) := by
    refine hg.abs_lt (by decide) (by decide) (lt_of_not_ge fun hle ↦ ?_)
    exact hlimit.not_ge (hr.le_abs place_le hle)
  obtain ⟨s', c', e', l, hround, hvalue, hplaces, -⟩ := exists_compacted (n := n)
    ⟨Display.isOverlong_of_lt hn (hn ▸ hx), ⟨s, c, e, hn⟩,
      fun z hz ↦ hcompacts.unique hz ▸ hlimit⟩
  have hvalue := hvalue.unique hcompacts
  obtain ⟨k', hk', rfl⟩ := hplaces (hvalue ▸ hlarge')
  rw [hvalue] at hk'
  obtain rfl : k = k' := by exact_mod_cast hk.unique hk'
  have hmultiple := hr.exists_multiple place_le
  have hfits := fits_of_multiple hlarge' hmultiple
  have hfew : (if k % 3 = 0 then 1 else 0) ≤ 1 := by split <;> decide
  refine ⟨_, _, hround, fun x hx ↦ ?_, fun hdigits ↦ ?_⟩
  · exact ready_of_choose hregular hother hvalue hfits hlarge' hlimit hfew
      (multiple_of_place hk hmultiple) hu hy hformats hx
  · exact exists_choose_of_lt hregular hother hvalue hfits hlarge' hlimit hfew hu hy hdigits

/-- After the rounding a pattern is picked that shows the number, if this has at most 28 digits in
its unit. -/
theorem exists_ready (h : Displays other n.toDecimal.value places r y) (hformats : f.Regular)
    (hregular : Regular rules patterns) (hlimit : |r| < 10 ^ (Text.LongNumeral.limit : ℤ)) :
    ∃ q l, compacted (.number n) = .ok (q, l) ∧
      (∀ x, choose rules patterns q l = .ok x →
        (|r| < 1000 ∨ |y| < 10 ^ (28 - (places : ℤ))) ∧
          Ready f rules patterns other r y (x.getD (q, f.decimal))) ∧
      (|r| < 1000 ∨ |y| < 10 ^ (28 - (places : ℤ)) → ∃ x, choose rules patterns q l = .ok x) := by
  obtain ⟨g, hg, ⟨hsmall, rfl, rfl⟩ | ⟨hlarge, hr, k, u, hk, hplaces, hu, hy⟩⟩ := h
  · obtain ⟨q, l, hround, hnone, hready⟩ :=
      exists_ready_of_small hother hn hformats hregular hg hsmall
    refine ⟨q, l, hround, fun x hx ↦ ⟨.inl hsmall, ?_⟩, fun _ ↦ ⟨none, hnone⟩⟩
    obtain rfl := Except.ok.inj (hnone.symm.trans hx)
    exact hready
  · obtain ⟨q, l, hround, hready, hchoose⟩ :=
      exists_ready_of_large hother hn hformats hregular hg hlarge hr hk hplaces hu hy hlimit
    have hnot : ¬ |r| < 1000 := (thousand_le place_le hlarge hr).not_gt
    exact ⟨q, l, hround, fun x hx ↦ (hready x hx).imp_left .inr,
      fun hdigits ↦ hchoose (hdigits.resolve_left hnot)⟩

end Ready

section Displays

variable (hother : patterns.lookup "other" = some other) (hn : n.toDecimal = .finite s c e)
  (h : Displays other n.toDecimal.value places r y)

include hother hn h

include hpatterns in
/-- There is a text just for a number that has at most 28 digits in its unit, or is below a
thousand, and the text shows it. -/
theorem compactIn_shows (hformats : data.numbers.Regular)
    (hregular : Regular (data.plurals .cardinal) patterns) :
    ((∃ text, compactIn data (.number n) display = .ok text) ↔
      |r| < 1000 ∨ |y| < 10 ^ (28 - (places : ℤ))) ∧
    ∀ text, compactIn data (.number n) display = .ok text →
      ∃ pattern p, PatternFor data.numbers (data.plurals .cardinal) patterns other r pattern ∧
        NumberPattern.ofText? pattern.toList = some p ∧ p.Tells data.numbers.symbols text y := by
  rw [compactIn_of_some hpatterns]
  rcases lt_or_ge |r| (10 ^ (Text.LongNumeral.limit : ℤ)) with hlimit | hlimit
  · obtain ⟨q, l, hround, hready, hchoose⟩ :=
      exists_ready hother hn h hformats hregular hlimit
    simp only [hround, bind, Except.bind]
    refine ⟨⟨fun ⟨text, htext⟩ ↦ ?_, fun hsize ↦ ?_⟩, fun text htext ↦ ?_⟩
    · obtain ⟨x, hx, -⟩ := bind_eq_ok htext
      exact (hready x hx).1
    · obtain ⟨x, hx⟩ := hchoose hsize
      rw [hx]
      exact (hready x hx).2.exists_text hformats.symbols
    · obtain ⟨x, hx, htext⟩ := bind_eq_ok htext
      exact (hready x hx).2.tells hformats.symbols htext
  · -- a number with too many digits has no rounding
    have hthousand : ¬ |r| < 1000 := by
      have : (10 : ℚ) ^ (3 : ℤ) ≤ |r| := (ten_zpow_le (by decide)).trans hlimit
      norm_num at this
      exact this.not_gt
    obtain ⟨g, hg, ⟨hsmall, rfl, -⟩ | ⟨hlarge, hr, k, u, -, rfl, hu, hy⟩⟩ := h
    · exact absurd hsmall hthousand
    have hnone (text : String) : ¬ compacted (.number n) >>= (fun q ↦
        choose (data.plurals .cardinal) patterns q.1 q.2 >>= fun x ↦
          applyPattern data.numbers (x.getD (q.1, data.numbers.decimal)).2.toList none true
            (x.getD (q.1, data.numbers.decimal)).1) = .ok text := by
      intro htext
      obtain ⟨q, hq, -⟩ := bind_eq_ok htext
      exact hlimit.not_gt (lt_limit_of_compacted hn hq ⟨g, hg, .inr ⟨hlarge, hr⟩⟩)
    have hmany : ¬ |y| < 10 ^ (28 - ((if k % 3 = 0 then 1 else 0 : ℕ) : ℤ)) := by
      have hquotient := hu.le_abs_div (hregular.isLadder hother) hlimit
      exact not_lt.2 ((ten_zpow_le (by omega)).trans (hy.le_abs (by omega) hquotient))
    exact ⟨⟨fun ⟨text, htext⟩ ↦ absurd htext (hnone text),
      fun hsize ↦ absurd hsize (not_or.2 ⟨hthousand, hmany⟩)⟩,
      fun text htext ↦ absurd htext (hnone text)⟩

end Displays

end CompactIn

/-- Korean counts in ten thousands. -/
theorem compact_ko : ∃ other,
    (LocaleBook.tables.data ⟨"ko"⟩).compact.lookup CompactDisplay.short.word =
        some [("other", other)] ∧
      ∀ n ∈ [1200000, 1230000, 1234567], Reaches other (n : ℕ) (1000000, "000만") := by
  have h : ∃ patterns ∈ (LocaleBook.tables.data ⟨"ko"⟩).compact.lookup CompactDisplay.short.word,
      ∃ other ∈ patterns.lookup "other", patterns = [("other", other)] ∧
        ∀ n ∈ [1200000, 1230000, 1234567], (1000000, "000만") ∈ other ∧ 1000000 ≤ n ∧
          ∀ r ∈ other, r.1 ≤ n → r.1 ≤ 1000000 := by
    decide +kernel
  obtain ⟨patterns, hpatterns, other, -, rfl, hreaches⟩ := h
  refine ⟨other, hpatterns, fun n hn ↦ ?_⟩
  simpa only [Reaches, Nat.abs_cast, Nat.cast_le] using hreaches n hn

section TenThousands

variable {other : List (ℕ × String)}
  (h : ∀ n ∈ [1200000, 1230000, 1234567], Reaches other (n : ℕ) (1000000, "000만"))

include h

theorem displays_tenThousands : Displays other 1234567 1 1200000 120 := by
  have hrounded : Reaches other 1200000 (1000000, "000만") := by
    exact_mod_cast h 1200000 (by simp)
  have hplace : place 6 = 5 := by decide
  have hround : Rounded .awayFromZero (10 ^ (5 : ℤ)) 1234567 ((12 : ℤ) * 10 ^ (5 : ℤ)) :=
    .of_near (by norm_num [abs_of_neg])
  have hself := Rounded.self (ten_zpow_pos (-1)) .toEven 1200
  refine ⟨1234567, .self (q := 0) ⟨1234567, by norm_num⟩ (by norm_num [abs_of_pos]) (by decide),
    .inr ⟨by norm_num [abs_of_pos], ⟨6, by norm_num [LeadsAt, abs_of_pos], ?_⟩, 6, 10000, ?_, rfl,
      .inr ⟨_, hrounded, by decide⟩, ?_⟩⟩
  · rw [hplace]
    norm_num at hround ⊢
    exact hround
  · norm_num [LeadsAt, abs_of_pos]
  · norm_num at hself ⊢
    exact hself

theorem meant_tenThousands : Meant other 1234567 123 := by
  have hgiven : Reaches other 1234567 (1000000, "000만") := by
    exact_mod_cast h 1234567 (by simp)
  have hrounded : Reaches other 1230000 (1000000, "000만") := by
    exact_mod_cast h 1230000 (by simp)
  have hlast : lastPlace 1234567 10000 = 0 := by norm_num [lastPlace, abs_of_pos]
  have hround : Rounded .awayFromZero 10000 1234567 ((123 : ℤ) * 10000) :=
    .of_near (by norm_num [abs_of_neg])
  refine ⟨10000, 10000, 1230000, .inr ⟨_, hgiven, by decide⟩, ?_,
    .inr ⟨_, hrounded, by decide⟩, by norm_num⟩
  rw [hlast]
  norm_num at hround ⊢
  exact hround

theorem choose_tenThousands (hladder : IsLadder other) (rules : Plural.Rules) :
    choose rules [("other", other)] (.finite false 12 5) 1 =
      .ok (some (.finite false 1200 (-1), "000만")) := by
  have hrounded : Reaches other 1200000 (1000000, "000만") := by
    exact_mod_cast h 1200000 (by simp)
  have hother : ([("other", other)] : CompactPatterns).lookup "other" = some other := rfl
  have hmagnitude : magnitudeFor (.finite false 12 5) other = some (1000000, "000만") := by
    have hsize : (Decimal.finite false 12 5).value = |1200000| := by norm_num [Decimal.value]
    rcases magnitudeFor_cases other hsize with ⟨-, hnone⟩ | ⟨entry, hentry, hentry'⟩
    · exact absurd hrounded.2.1 (hnone _ hrounded.1).not_ge
    · rw [hentry, hentry'.unique hladder hrounded]
  have habs : (Decimal.finite false 12 5).abs = .ok (.finite false 12 5) := by decide +kernel
  have hdivide : (Decimal.finite false 12 5).divide 10000 0 = .ok (.finite false 12 1) := by
    decide +kernel
  have hquotient : (Decimal.finite false 12 1).value = 120 := by norm_num [Decimal.value]
  have hquantize : (Decimal.finite false 12 1).quantize 28 .toEven (-(1 : ℕ)) =
      .ok (.finite false 1200 (-1)) := by decide +kernel
  have habs' : (Decimal.finite false 12 1).abs = .ok (.finite false 12 1) := by decide +kernel
  obtain ⟨category, hcategory⟩ := exists_category (s := false) (c := 12) (e := 1) (x := 120)
    (by
      rw [hquotient]
      exact .self (q := 0) ⟨120, by norm_num⟩ (by norm_num [abs_of_pos]) (by decide))
    (by norm_num [abs_of_pos]) rules
  -- whatever the category is, there is one pattern for the magnitude
  have hbelongs : Belongs rules [("other", other)] (1000000, "000만") 1
      ((([("other", other)].lookup (formFor [("other", other)] (.finite false 12 1) category)).bind
        fun p ↦ p.lookup 1000000).getD "000만") :=
    belongs_lookup hother hrounded.1 ⟨fun _ ↦ rfl, fun _ ↦ abs_one⟩
  obtain ⟨form, hform, hmem, -⟩ := hbelongs
  obtain rfl := List.mem_singleton.1 hform
  have hpattern := List.inj_on_of_nodup_map hladder.nodup hmem hrounded.1 rfl
  rw [choose_some hother habs hmagnitude, if_neg (by decide),
    show unitOf (1000000, "000만") = 10000 by decide, hdivide]
  simp only [arith, Except.mapError, bind, Except.bind, hquantize, habs', hcategory]
  exact congrArg (fun entry ↦ Except.ok (some (_, Prod.snd entry))) hpattern

end TenThousands

end Format

end Phrasebook
