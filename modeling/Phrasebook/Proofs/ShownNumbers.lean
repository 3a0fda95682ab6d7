import Phrasebook.Proofs.AppliedPatterns
import Phrasebook.Proofs.RoundedPlaces

/-!
Which number is shown.

Each way of asking for a number has a pattern and, unless it asks for an amount of money, the
fraction digits to which the number is rounded before the pattern is applied (`Format.display?`).
Where these are the digits of the pattern, the number that is shown is the given one, rounded half
away from zero (`Format.Display.shows_of_write`), and an amount of money is rounded by its pattern
alone, half to even.
-/

set_option autoImplicit false

namespace Phrasebook

open Arithmetic Decimal

/-! ### Patterns of the locales -/

namespace NumberPattern

/-- The pattern writes numbers with digits at their places, as multiples of a power of ten. -/
structure Writes (p : NumberPattern) (power : ℕ) : Prop where
  positional : p.Positional
  number : p.number ≠ []
  scale : p.scale = power

instance (p : NumberPattern) (power : ℕ) : Decidable (p.Writes power) :=
  decidable_of_iff (p.Positional ∧ p.number ≠ [] ∧ p.scale = power)
    ⟨fun ⟨h₁, h₂, h₃⟩ ↦ ⟨h₁, h₂, h₃⟩, fun h ↦ ⟨h.1, h.2, h.3⟩⟩

theorem scale_le (p : NumberPattern) : p.scale ≤ 3 := by
  unfold scale
  dsimp only
  split
  · decide
  · split <;> decide

/-- So does the pattern of a skeleton. -/
theorem writes_plain (grouping : Bool) (least optional : ℕ) {style : NumberStyle}
    (h : style = .decimal ∨ style = .percent) :
    (plain grouping least optional style.suffix).Writes style.power := by
  refine ⟨⟨rfl, ?_, .inl (show Inert ['-'] by decide)⟩, ?_, ?_⟩
  · intro hmem
    rcases List.mem_append.1 hmem with hmem | hmem
    · rcases List.mem_append.1 hmem with hmem | hmem
      · exact absurd (mem_wholePart hmem) (by decide)
      · exact absurd (mem_placesPart hmem) (by decide)
    · rcases h with rfl | rfl
      · cases hmem
      · exact absurd hmem (by decide)
  · cases grouping <;> exact List.cons_ne_nil _ _
  · rcases h with rfl | rfl <;> rfl

end NumberPattern

/-- The symbols of the locale can be told from digits, and its patterns write numbers. -/
structure NumberFormats.Regular (f : NumberFormats) : Prop where
  symbols : f.symbols.isClear = true
  decimal : ∃ p ∈ NumberPattern.ofText? f.decimal.toList,
    p.Writes 0 ∧ (p.places.max = 3 ∨ p.places.max = 6)
  percent : ∃ p ∈ NumberPattern.ofText? f.percent.toList, p.Writes 2 ∧ p.places.max = 0
  currency : ∃ p ∈ NumberPattern.ofText? f.currency.toList, p.Writes 0

instance (f : NumberFormats) : Decidable f.Regular :=
  decidable_of_iff
    (f.symbols.isClear = true ∧
      (∃ p ∈ NumberPattern.ofText? f.decimal.toList,
        p.Writes 0 ∧ (p.places.max = 3 ∨ p.places.max = 6)) ∧
      (∃ p ∈ NumberPattern.ofText? f.percent.toList, p.Writes 2 ∧ p.places.max = 0) ∧
      ∃ p ∈ NumberPattern.ofText? f.currency.toList, p.Writes 0)
    ⟨fun ⟨h₁, h₂, h₃, h₄⟩ ↦ ⟨h₁, h₂, h₃, h₄⟩, fun h ↦ ⟨h.1, h.2, h.3, h.4⟩⟩

/-- Currency symbols have no part in this. -/
theorem NumberFormats.Regular.withCurrencies {f : NumberFormats} (h : f.Regular)
    (currencySymbols : List (String × String)) : { f with currencySymbols }.Regular :=
  ⟨h.symbols, h.decimal, h.percent, h.currency⟩

/-- The tables are regular in every locale. -/
theorem LocaleBook.regular_tables (locale : Locale) :
    (LocaleBook.tables.data locale).numbers.Regular :=
  (Locale.forall_row? (P := NumberFormats.Regular) (by decide +kernel) (by decide +kernel)
    locale).withCurrencies _

namespace NumberPattern

variable {p : NumberPattern} {y : NumberSymbols} {money : Option Money} {s : Bool} {c : ℕ} {e : ℤ}
  {x : ℚ}

/-- The most fraction digits that a pattern writes. -/
def mostPlaces (p : NumberPattern) (money : Option Money) : ℕ :=
  (p.placesOf money).max

section Multiples

variable (hp : p.Positional) (hy : y.isClear = true)
  (hx : x = (finite s c e).value * 10 ^ (p.scale : ℤ))
  (hmultiple : ∃ i : ℤ, x = i * 10 ^ (-(p.mostPlaces money : ℤ)))

include hx hmultiple

/-- A number without digits beyond those of the pattern is fitted and rounded to itself, unless it
has too many digits. -/
theorem fits_multiple (hsize : |x| < 10 ^ (28 - (p.mostPlaces money : ℤ)))
    (hleast : minExponent - 27 ≤ -(p.mostPlaces money : ℤ)) :
    Fits 28 ((finite s c e).value * 10 ^ (p.scale : ℤ)) x := by
  rw [← hx]
  refine Fits.self hmultiple ?_ (by omega)
  rwa [← room_eq]

include hp hy

/-- Such a number is shown as it is. -/
theorem shows_of_multiple (hnumber : p.number ≠ []) {text : String}
    (h : p.apply y money false (finite s c e) = .ok text) :
    |x| < 10 ^ (28 - (p.mostPlaces money : ℤ)) ∧ p.Shows y money text x := by
  have hstep := ten_zpow_pos (-(p.mostPlaces money : ℤ))
  obtain ⟨f, hf⟩ := Fits.exists_fits 28 ((finite s c e).value * 10 ^ (p.scale : ℤ))
  obtain ⟨z, hz⟩ := exists_rounded .toEven hstep f
  obtain ⟨hsize, hleast, hshows⟩ := shows_of_apply hp hy hf hz hnumber h
  by_cases hfew : |x| < 10 ^ (28 - (p.mostPlaces money : ℤ))
  · obtain rfl := hf.unique (fits_multiple hx hmultiple hfew hleast)
    obtain ⟨i, rfl⟩ := hmultiple
    obtain rfl := hz.unique hstep (.self hstep _ i)
    exact ⟨hfew, hshows⟩
  · -- a number with too many digits keeps them, and is not shown
    have hlarge := hf.le_abs (by decide) (by unfold mostPlaces; omega) (hx ▸ not_lt.1 hfew)
    exact absurd hsize (not_lt.2 (hz.le_abs (by unfold mostPlaces; omega) hlarge))

theorem exists_of_multiple (hmost : (p.mostPlaces money : ℤ) ≤ maxExponent)
    (hsize : |x| < 10 ^ (28 - (p.mostPlaces money : ℤ))) :
    ∃ text, p.apply y money false (finite s c e) = .ok text := by
  have hstep := ten_zpow_pos (-(p.mostPlaces money : ℤ))
  have hleast : minExponent - 27 ≤ -(p.mostPlaces money : ℤ) := by
    unfold minExponent maxExponent at *
    omega
  have hfits := fits_multiple hx hmultiple hsize hleast
  obtain ⟨i, rfl⟩ := hmultiple
  exact exists_apply hp hy hfits (.self hstep _ i) hsize hleast

end Multiples

end NumberPattern

namespace Format

/-! ### Ways to show a number -/

/-- How a number is shown: its pattern, whether it is an amount of money, the power of ten that it
is counted in, and the fraction digits to which it is rounded before the pattern is applied, unless
the pattern alone rounds it. -/
structure Display where
  pattern : NumberPattern
  money : Option NumberPattern.Money
  power : ℕ
  places : Option ℕ

namespace Display

variable {d : Display}

/-- The most fraction digits that are shown. -/
def most (d : Display) : ℕ :=
  d.pattern.mostPlaces d.money

/-- What is written. -/
def write (d : Display) (y : NumberSymbols) (v : Value) : Except FormatFault String := do
  let r ← match d.places with
    | some k => roundedTo v (k + d.power : ℕ)
    | none => decimalOf v
  arith (d.pattern.apply y d.money false r)

/-- The number that is shown for a number: it is rounded half away from zero, or, where the pattern
alone rounds it, half to even as decimal arithmetic has it. -/
def Rounds (d : Display) (x z : ℚ) : Prop :=
  match d.places with
  | some k => Rounded .awayFromZero (10 ^ (-(k : ℤ))) x z
  | none => ∃ f, Fits 28 x f ∧ Rounded .toEven (10 ^ (-(d.most : ℤ))) f z

/-- The pattern writes numbers, with all digits to which they are rounded. -/
structure Sound (d : Display) : Prop where
  writes : d.pattern.Writes d.power
  places : ∀ k ∈ d.places, k ≤ d.most

theorem exists_rounds (d : Display) (x : ℚ) : ∃ z, d.Rounds x z := by
  unfold Rounds
  cases d.places with
  | some k => exact exists_rounded .awayFromZero (ten_zpow_pos _) x
  | none =>
    obtain ⟨f, hf⟩ := Fits.exists_fits 28 x
    obtain ⟨z, hz⟩ := exists_rounded .toEven (ten_zpow_pos (-(d.most : ℤ))) f
    exact ⟨z, f, hf, hz⟩

theorem Rounds.le_abs {x z : ℚ} (h : d.Rounds x z) {m : ℕ}
    (hx : 10 ^ (m : ℤ) ≤ |x|) : 10 ^ (m : ℤ) ≤ |z| := by
  unfold Rounds at h
  cases hplaces : d.places with
  | some k =>
    simp only [hplaces] at h
    exact h.le_abs (by omega) hx
  | none =>
    simp only [hplaces] at h
    obtain ⟨f, hf, hz⟩ := h
    exact hz.le_abs (by omega) (hf.le_abs (by decide) (by unfold minExponent; omega) hx)

section Write

variable {y : NumberSymbols} {n : Number} {s : Bool} {c : ℕ} {e : ℤ} {z : ℚ} (hd : d.Sound)
  (hy : y.isClear = true) (hn : n.toDecimal = .finite s c e)
  (hz : d.Rounds ((finite s c e).value * 10 ^ (d.power : ℤ)) z)

theorem number_of_decimalOf {r : Decimal} (h : decimalOf (.number n) = .ok r) :
    n.isOverlong = false ∧ r = n.toDecimal := by
  unfold decimalOf Value.toDecimal? at h
  cases hlong : n.isOverlong with
  | true => simp [hlong, need] at h
  | false =>
    simp only [hlong, Bool.false_eq_true, if_false, need] at h
    exact ⟨rfl, (Except.ok.inj h).symm⟩

/-- A whole number with few enough digits is not too long to be written. -/
theorem isOverlong_of_lt (hn : n.toDecimal = .finite s c e)
    (h : |(finite s c e).value| < 10 ^ (Text.LongNumeral.limit : ℤ)) : n.isOverlong = false := by
  cases n with
  | integer i =>
    obtain ⟨-, rfl, rfl⟩ := Decimal.finite.inj hn
    rw [abs_value, zpow_zero, mul_one] at h
    unfold Number.isOverlong
    generalize Text.LongNumeral.limit = k at h ⊢
    rw [zpow_natCast] at h
    exact decide_eq_false (Nat.not_le.2 (by exact_mod_cast h))
  | binary x => rfl
  | decimal d => rfl

include hd hy hn hz

/-- The text shows the rounded number. -/
theorem shows_of_write {text : String} (h : d.write y (.number n) = .ok text) :
    |z| < 10 ^ (28 - (d.most : ℤ)) ∧ d.pattern.Shows y d.money text z := by
  obtain ⟨hpositional, hnumber, hscale⟩ := hd.writes
  rw [← hscale] at hz
  unfold write at h
  cases hplaces : d.places with
  | none =>
    simp only [Rounds, hplaces] at hz
    obtain ⟨f, hf, hz⟩ := hz
    simp only [hplaces] at h
    obtain ⟨r, hr, h⟩ := bind_eq_ok h
    obtain ⟨-, rfl⟩ := number_of_decimalOf hr
    rw [hn] at h
    obtain ⟨hsize, -, hshows⟩ := NumberPattern.shows_of_apply hpositional hy hf hz hnumber
      (eq_ok_of_arith h)
    exact ⟨hsize, hshows⟩
  | some k =>
    simp only [Rounds, hplaces] at hz
    simp only [hplaces] at h
    obtain ⟨r, hr, h⟩ := bind_eq_ok h
    obtain ⟨q, hq, hr⟩ := bind_eq_ok hr
    obtain ⟨-, rfl⟩ := number_of_decimalOf hq
    rw [hn] at hr
    obtain ⟨⟨c', e', rfl⟩, hround⟩ := roundPlaces_sound (eq_ok_of_arith hr)
    have hround := hround.mul_ten_zpow d.pattern.scale
    rw [hscale, show -((k + d.power : ℕ) : ℤ) + d.power = -k by push_cast; ring] at hround
    rw [hscale] at hz
    obtain rfl := hz.unique (ten_zpow_pos _) hround
    exact NumberPattern.shows_of_multiple hpositional hy (by rw [hscale])
      (hz.exists_multiple (by have := hd.places k hplaces; unfold most at this; omega)) hnumber
      (eq_ok_of_arith h)

/-- There is a text if the rounded number has at most 28 digits. -/
theorem exists_write (hmost : (d.most : ℤ) ≤ maxExponent) (hsize : |z| < 10 ^ (28 - (d.most : ℤ))) :
    ∃ text, d.write y (.number n) = .ok text := by
  obtain ⟨hpositional, -, hscale⟩ := hd.writes
  have hscale_le := d.pattern.scale_le
  have hlong : n.isOverlong = false := by
    refine isOverlong_of_lt hn (lt_of_not_ge fun hlarge ↦ ?_)
    have hcounted : 10 ^ ((4300 : ℕ) : ℤ) ≤ |(finite s c e).value * 10 ^ (d.power : ℤ)| := by
      rw [abs_mul, abs_of_pos (ten_zpow_pos _)]
      refine hlarge.trans (le_mul_of_one_le_right (abs_nonneg _) ?_)
      exact one_le_zpow₀ (by norm_num) (by omega)
    refine absurd ((hz.le_abs hcounted).trans_lt hsize) (not_lt.2 (ten_zpow_le (by omega)))
  unfold write
  cases hplaces : d.places with
  | none =>
    simp only [Rounds, hplaces] at hz
    obtain ⟨f, hf, hz⟩ := hz
    rw [← hscale] at hf
    obtain ⟨text, htext⟩ := NumberPattern.exists_apply hpositional hy hf hz hsize (by
      unfold most NumberPattern.mostPlaces minExponent maxExponent at *
      omega)
    refine ⟨text, ?_⟩
    simp only [decimalOf_number hlong, hn, bind, Except.bind, htext]
    rfl
  | some k =>
    simp only [Rounds, hplaces] at hz
    have hk := hd.places k hplaces
    -- the number before it is counted in the power of ten
    obtain ⟨r, hr⟩ := exists_rounded .awayFromZero (ten_zpow_pos (-(k + d.power : ℕ)))
      (finite s c e).value
    have hround := hr.mul_ten_zpow d.pattern.scale
    rw [hscale, show -((k + d.power : ℕ) : ℤ) + d.power = -k by push_cast; ring] at hround
    obtain rfl := hz.unique (ten_zpow_pos _) hround
    obtain ⟨c', e', hplaced, rfl⟩ := roundPlaces_eq_ok (Int.natCast_nonneg _)
      (.inr (by unfold minExponent maxExponent at *; omega)) hr (by
        rw [abs_mul, abs_of_pos (ten_zpow_pos _)] at hsize
        refine lt_of_le_of_lt ?_ (hsize.trans_le (ten_zpow_le (by unfold maxExponent; omega)))
        exact le_mul_of_one_le_right (abs_nonneg _) (one_le_zpow₀ (by norm_num) (by omega)))
    rw [← hscale] at hz hsize
    obtain ⟨text, htext⟩ := NumberPattern.exists_of_multiple hpositional hy rfl
      (hz.exists_multiple (by unfold most at hk; omega)) hmost hsize
    refine ⟨text, ?_⟩
    simp only [roundedTo, decimalOf_number hlong, hn, bind, Except.bind, hplaced]
    exact congrArg arith htext

end Write

end Display

/-- An amount of money is shown with the places of its currency. -/
def moneyDisplay? (f : NumberFormats) (code : String) : Option Display :=
  let symbol := (f.currencySymbols.lookup code).getD code
  let places := if code = "" then none else some (currencyPlaces code)
  (NumberPattern.ofText? f.currency.toList).map fun p ↦ ⟨p, some ⟨symbol, places⟩, 0, none⟩

/-- How a number is shown in a style, or with options. Compact notation and a style that is itself a
pattern are not such ways. -/
def display? (f : NumberFormats) (style : Option String) (options : Option NumberOptions) :
    Option Display :=
  let plain (pattern : List Char) (power places : ℕ) : Option Display :=
    (NumberPattern.ofText? pattern).map fun p ↦ ⟨p, none, power, some places⟩
  match options with
  | some o =>
    match o.style with
    | .compact => none
    | .currency =>
      let code := o.currency.getD ""
      moneyDisplay? f (if code = "" then defaultCurrency else code)
    | style => plain (o.pattern style.defaultPlaces ++ style.suffix) style.power
        (o.maximum style.defaultPlaces).toNat
  | none =>
    let style := style.getD ""
    if style = "" ∨ style = "decimal" then plain f.decimal.toList 0 3
    else if style = "integer" then plain ['#', ',', '#', '#', '0'] 0 0
    else if style = "percent" then plain f.percent.toList 2 0
    else if style = "currency" then moneyDisplay? f defaultCurrency
    else none

/-- A number is asked for in one of the styles, or with the options of a skeleton that does not ask
for compact notation. -/
def Styled (style : Option String) (options : Option NumberOptions) : Prop :=
  (∃ skeleton, options = some (NumberOptions.ofSkeleton skeleton) ∧
    (NumberOptions.ofSkeleton skeleton).style ≠ .compact) ∨
    options = none ∧ style.getD "" ∈ ["", "decimal", "integer", "percent", "currency"]

/-- The way to show a number is sound and is what happens. The digits to which the number is rounded
are those of the pattern, or else the three of the plain style where the locale has a pattern with
six. -/
structure Shown (book : LocaleBook) (f : NumberFormats) (v : Value) (tag : String)
    (style : Option String) (options : Option NumberOptions) (d : Display) : Prop where
  display : display? f style options = some d
  sound : d.Sound
  places : d.places = none ∨ d.places = some d.most ∨
    options = none ∧ d.places = some 3 ∧ d.most = 6
  write : number v tag style options book = d.write f.symbols v

section Shown

variable {book : LocaleBook} {data : LocaleData} {tag : String} {style : Option String}
  {o : NumberOptions} (hf : data.numbers.Regular) (hdata : dataOf tag book = .ok data) (v : Value)

/-- A text that is a pattern is applied to the rounded number. -/
theorem write_of_read {pattern : List Char} {p : NumberPattern}
    (h : NumberPattern.ofText? pattern = some p) (f : NumberFormats) (v : Value) (power k : ℕ) :
    (⟨p, none, power, some k⟩ : Display).write f.symbols v =
      decimalOf v >>= fun d ↦ arith (d.roundPlaces (k + power : ℕ)) >>= fun r ↦
        applyPattern f pattern none false r := by
  simp only [Display.write, roundedTo, applyPattern_eq h]
  cases decimalOf v <;> rfl

include hf in
/-- Amounts of money. -/
theorem shown_of_money (code : String) : ∃ d, moneyDisplay? data.numbers code = some d ∧ d.Sound ∧
    d.places = none ∧ money data.numbers code v = d.write data.numbers.symbols v := by
  obtain ⟨p, hread, hwrites⟩ := hf.currency
  rw [Option.mem_def] at hread
  refine ⟨_, by rw [moneyDisplay?, hread]; rfl, ⟨hwrites, fun _ h ↦ by cases h⟩, rfl, ?_⟩
  unfold money
  simp only [bind, Except.bind, applyPattern_eq hread]
  rfl

include hdata

theorem number_of_dataOf (options : Option NumberOptions) :
    number v tag style options book = match options with
      | some o => numberWith data v o
      | none => numberIn data.numbers v (style.getD "") := by
  rw [number, hdata]
  cases options <;> rfl

/-- Skeletons in the plain style and in percent. -/
theorem shown_of_options (h : o.style = .decimal ∨ o.style = .percent) (hbounded : o.Bounded) :
    ∃ d, Shown book data.numbers v tag style (some o) d := by
  obtain ⟨least, optional, -, hmax, hpattern⟩ := hbounded.exists_pattern o.style.defaultPlaces
  have hread := NumberPattern.ofText?_plain o.useGrouping least optional
    (NumberStyle.suffix_cases h)
  have hwrites := NumberPattern.writes_plain o.useGrouping least optional h
  refine ⟨⟨_, none, o.style.power, some (least + optional)⟩, ?_, ⟨hwrites, ?_⟩, .inr (.inl rfl), ?_⟩
  · have hdisplay : display? data.numbers style (some o) =
        (NumberPattern.ofText? (o.pattern o.style.defaultPlaces ++ o.style.suffix)).map fun p ↦
          ⟨p, none, o.style.power, some (o.maximum o.style.defaultPlaces).toNat⟩ := by
      rcases h with h | h <;> simp only [display?, h]
    rw [hdisplay, hpattern, hread, hmax]
    rfl
  · rintro k ⟨⟩
    exact le_rfl
  · rw [number_of_style h hmax hpattern, hdata]
    rfl

include hf

/-- The named styles. -/
theorem shown_of_name (h : style.getD "" ∈ ["", "decimal", "integer", "percent", "currency"]) :
    ∃ d, Shown book data.numbers v tag style none d := by
  have hnumber : number v tag style none book = numberIn data.numbers v (style.getD "") :=
    number_of_dataOf hdata v none
  have hshown {d : Display} (hdisplay : display? data.numbers style none = some d)
      (hsound : d.Sound)
      (hplaces : d.places = none ∨ d.places = some d.most ∨ d.places = some 3 ∧ d.most = 6)
      (hwrite : numberIn data.numbers v (style.getD "") = d.write data.numbers.symbols v) :
      ∃ d, Shown book data.numbers v tag style none d :=
    ⟨d, hdisplay, hsound, hplaces.imp id (Or.imp id fun h ↦ ⟨rfl, h⟩), hnumber.trans hwrite⟩
  have htext {pattern : List Char} {p : NumberPattern} {power k : ℕ}
      (hread : NumberPattern.ofText? pattern = some p) (hwrites : p.Writes power)
      (hk : k = p.places.max ∨ k = 3 ∧ p.places.max = 6)
      (hdisplay : display? data.numbers style none = some ⟨p, none, power, some k⟩)
      (hstyle : numberIn data.numbers v (style.getD "") =
        decimalOf v >>= fun d ↦ arith (d.roundPlaces (k + power : ℕ)) >>= fun r ↦
          applyPattern data.numbers pattern none false r) :
      ∃ d, Shown book data.numbers v tag style none d := by
    refine hshown hdisplay ⟨hwrites, ?_⟩ (.inr ?_) (hstyle.trans (write_of_read hread ..).symm)
    · rintro k ⟨⟩
      change k ≤ p.places.max
      omega
    · exact hk.imp (congrArg some) fun ⟨hk, hmax⟩ ↦ ⟨congrArg some hk, hmax⟩
  unfold display? at hshown htext
  dsimp only at hshown htext
  generalize style.getD "" = word at *
  simp only [List.mem_cons, List.not_mem_nil, or_false] at h
  rcases h with rfl | rfl | rfl | rfl | rfl
  · obtain ⟨p, hread, hwrites, hmax⟩ := hf.decimal
    exact htext hread hwrites (by omega) (by rw [hread]; rfl) rfl
  · obtain ⟨p, hread, hwrites, hmax⟩ := hf.decimal
    exact htext hread hwrites (by omega) (by rw [hread]; rfl) rfl
  · exact htext (NumberPattern.ofText?_plain true 0 0 (.inl rfl))
      (NumberPattern.writes_plain true 0 0 (.inl rfl)) (.inl rfl) rfl rfl
  · obtain ⟨p, hread, hwrites, hmax⟩ := hf.percent
    exact htext hread hwrites (.inl hmax.symm) (by rw [hread]; rfl) rfl
  · obtain ⟨d, hd, hsound, hplaces, hwrite⟩ := shown_of_money hf v defaultCurrency
    exact hshown hd hsound (.inl hplaces) hwrite

/-- A number is shown in one of these ways. -/
theorem exists_shown {options : Option NumberOptions} (h : Styled style options) :
    ∃ d, Shown book data.numbers v tag style options d := by
  rcases h with ⟨skeleton, rfl, hstyle⟩ | ⟨rfl, hstyle⟩
  · cases hcase : (NumberOptions.ofSkeleton skeleton).style with
    | decimal =>
      exact shown_of_options hdata v (.inl hcase) (NumberOptions.bounded_ofSkeleton skeleton)
    | percent =>
      exact shown_of_options hdata v (.inr hcase) (NumberOptions.bounded_ofSkeleton skeleton)
    | compact => exact absurd hcase hstyle
    | currency =>
      obtain ⟨code, hcode⟩ : ∃ code, code = (NumberOptions.ofSkeleton skeleton).currency.getD "" :=
        ⟨_, rfl⟩
      have hnumber : number v tag style (some (NumberOptions.ofSkeleton skeleton)) book =
          numberWith data v (NumberOptions.ofSkeleton skeleton) :=
        number_of_dataOf hdata v (some (NumberOptions.ofSkeleton skeleton))
      have hdisplay : display? data.numbers style (some (NumberOptions.ofSkeleton skeleton)) =
          moneyDisplay? data.numbers (if code = "" then defaultCurrency else code) := by
        rw [display?, hcode]
        simp only [hcase]
      simp only [numberWith, hcase, ← hcode] at hnumber
      obtain ⟨d, hd, hsound, hplaces, hwrite⟩ :=
        shown_of_money hf v (if code = "" then defaultCurrency else code)
      exact ⟨d, hdisplay.trans hd, hsound, .inl hplaces, hnumber.trans hwrite⟩
  · exact shown_of_name hf hdata v hstyle

end Shown

end Format

end Phrasebook
