import Mathlib.Data.Finset.Max
import Phrasebook.Proofs.CompactRounding
import Phrasebook.Proofs.NumberFaults
import Phrasebook.Proofs.ShownNumbers
import Phrasebook.Table

/-!
The units of compact notation.

A locale has a pattern for each power of ten from some magnitude on, and counts in its unit: the
magnitude, less the digits that stand before the point. A number has the unit of the greatest
magnitude that it reaches (`Compact.HasUnit`), in any locale whose patterns are regular
(`Compact.Regular`), as those of the tables are (`Compact.regular_tables`). A rounded number is
counted in its unit exactly, and the quotient is rounded once more to the fraction digits that were
picked before (`Compact.choose_sound`, `Compact.exists_choose`).
-/

set_option autoImplicit false

namespace Phrasebook

open Arithmetic Decimal

/-! ### Rules that hold -/

namespace Plural

variable {o : Operands}

theorem holds_of_allHold {conditions : List Relation} (h : allHold o conditions = .ok true) :
    ∀ r ∈ conditions, r.holds o = .ok true := by
  induction conditions with
  | nil => simp
  | cons r rs ih =>
    obtain ⟨b, hb, h⟩ := bind_eq_ok h
    cases b with
    | false => cases h
    | true => exact List.forall_mem_cons.2 ⟨hb, ih h⟩

theorem exists_of_anyHolds {alternatives : List (List Relation)}
    (h : anyHolds o alternatives = .ok true) :
    ∃ conditions ∈ alternatives, allHold o conditions = .ok true := by
  induction alternatives with
  | nil => cases h
  | cons c cs ih =>
    obtain ⟨b, hb, h⟩ := bind_eq_ok h
    cases b with
    | false =>
      obtain ⟨conditions, hmem, hholds⟩ := ih h
      exact ⟨conditions, List.mem_cons_of_mem _ hmem, hholds⟩
    | true => exact ⟨c, List.mem_cons_self, hb⟩

/-- A category other than the last one has a rule that holds. -/
theorem Rules.exists_of_select {rules : Rules} {category : Plural}
    (h : rules.select o = .ok category) (hcategory : category ≠ .other) :
    ∃ r ∈ rules, r.1 = category ∧ anyHolds o r.2 = .ok true := by
  induction rules with
  | nil => exact absurd (Except.ok.inj h).symm hcategory
  | cons r rs ih =>
    obtain ⟨b, hb, h⟩ := bind_eq_ok h
    cases b with
    | false =>
      obtain ⟨r', hmem, hr'⟩ := ih h
      exact ⟨r', List.mem_cons_of_mem _ hmem, hr'⟩
    | true => exact ⟨r, List.mem_cons_self, Except.ok.inj h, hb⟩

/-- A decimal number with a whole part of one and no fraction digits is one. -/
theorem value_of_single {c : ℕ} {e : ℤ} (hi : (Operands.ofDecimal c e).i = 1)
    (hv : (Operands.ofDecimal c e).v = 0) : (finite false c e).value = 1 := by
  rcases le_or_gt 0 e with he | he
  · simp only [Operands.ofDecimal, if_pos he] at hi
    obtain ⟨k, rfl⟩ := Int.eq_ofNat_of_zero_le he
    rw [value_finite, if_neg Bool.false_ne_true, zpow_natCast]
    exact_mod_cast hi
  · have hlength := decimalLength_pos c
    simp only [Operands.ofDecimal, if_neg he.not_ge] at hv
    split at hv <;> · dsimp only at hv; omega

end Plural

namespace Compact

/-! ### Units -/

/-- The entry for the greatest magnitude that a number reaches. -/
def Reaches (other : List (ℕ × String)) (x : ℚ) (entry : ℕ × String) : Prop :=
  entry ∈ other ∧ (entry.1 : ℚ) ≤ |x| ∧ ∀ r ∈ other, (r.1 : ℚ) ≤ |x| → r.1 ≤ entry.1

/-- What the numbers of an entry are counted in: its magnitude, less the digits that stand before
the point. An entry without a text counts in ones. -/
def unitOf (entry : ℕ × String) : ℕ :=
  if entry.2 = "0" then 1 else entry.1 / 10 ^ (entry.2.toList.count '0' - 1)

/-- The unit of a number, which is one below the first magnitude. -/
def HasUnit (other : List (ℕ × String)) (x : ℚ) (u : ℕ) : Prop :=
  (∀ r ∈ other, |x| < r.1) ∧ u = 1 ∨ ∃ entry, Reaches other x entry ∧ u = unitOf entry

/-- The entries are for powers of ten from a thousand on, each counted in a power of ten, and those
without a text are not the last. -/
structure IsLadder (other : List (ℕ × String)) : Prop where
  nonempty : other ≠ []
  nodup : (other.map Prod.fst).Nodup
  rungs : ∀ r ∈ other, 1000 ≤ r.1 ∧ r.1 < 10 ^ 20 ∧ ∃ i ∈ List.range 20, unitOf r = 10 ^ i
  texts : ∀ r ∈ other, r.2 = "0" → ∃ r' ∈ other, r.1 < r'.1

instance (other : List (ℕ × String)) : Decidable (IsLadder other) :=
  decidable_of_iff (other ≠ [] ∧ (other.map Prod.fst).Nodup ∧
      (∀ r ∈ other, 1000 ≤ r.1 ∧ r.1 < 10 ^ 20 ∧ ∃ i ∈ List.range 20, unitOf r = 10 ^ i) ∧
      ∀ r ∈ other, r.2 = "0" → ∃ r' ∈ other, r.1 < r'.1)
    ⟨fun ⟨h₁, h₂, h₃, h₄⟩ ↦ ⟨h₁, h₂, h₃, h₄⟩, fun h ↦ ⟨h.1, h.2, h.3, h.4⟩⟩

/-- The form is for the number one and no other: it is named by it, or each condition that the rules
of plurals have for it asks for a whole part of one without fraction digits. -/
def IsSingle (rules : Plural.Rules) (form : String) : Prop :=
  form = "1" ∨ form ≠ "other" ∧ ∀ r ∈ rules, r.1.word = form → ∀ conditions ∈ r.2,
    ⟨.i, none, false, [(1, 1)]⟩ ∈ conditions ∧ ⟨.v, none, false, [(0, 0)]⟩ ∈ conditions

instance (rules : Plural.Rules) (form : String) : Decidable (IsSingle rules form) :=
  inferInstanceAs (Decidable (_ ∨ _ ∧ ∀ r ∈ rules, _ → ∀ conditions ∈ r.2, _ ∧ _))

/-- The patterns write the numbers of a ladder. A pattern without a place for the number is one for
the number one. -/
structure Regular (rules : Plural.Rules) (patterns : CompactPatterns) : Prop where
  ladder : ∃ other ∈ patterns.lookup "other", IsLadder other
  forms : ∀ form ∈ patterns, ∀ entry ∈ form.2, ∃ p ∈ NumberPattern.ofText? entry.2.toList,
    p.Positional ∧ p.scale = 0 ∧ p.places.max = 0 ∧ (p.number ≠ [] ∨ IsSingle rules form.1)

instance (rules : Plural.Rules) (patterns : CompactPatterns) : Decidable (Regular rules patterns) :=
  decidable_of_iff ((∃ other ∈ patterns.lookup "other", IsLadder other) ∧
      ∀ form ∈ patterns, ∀ entry ∈ form.2, ∃ p ∈ NumberPattern.ofText? entry.2.toList,
        p.Positional ∧ p.scale = 0 ∧ p.places.max = 0 ∧ (p.number ≠ [] ∨ IsSingle rules form.1))
    ⟨fun ⟨h₁, h₂⟩ ↦ ⟨h₁, h₂⟩, fun h ↦ ⟨h.1, h.2⟩⟩

theorem not_isSingle_other {rules : Plural.Rules} : ¬ IsSingle rules "other" :=
  not_or.2 ⟨by decide, fun h ↦ h.1 rfl⟩

theorem Regular.isLadder {rules : Plural.Rules} {patterns : CompactPatterns}
    (h : Regular rules patterns) {other : List (ℕ × String)}
    (hother : patterns.lookup "other" = some other) : IsLadder other := by
  obtain ⟨other', hother', hladder⟩ := h.ladder
  rw [Option.mem_def, hother, Option.some.injEq] at hother'
  rwa [hother']

/-- Rules that keep no form for the number one. -/
def openRules : Plural.Rules :=
  [Plural.zero, .one, .two, .few, .many].map fun category ↦ (category, [[]])

theorem IsSingle.of_openRules {form : String} (h : IsSingle openRules form) (rules : Plural.Rules) :
    IsSingle rules form := by
  refine h.imp_right fun ⟨hother, hopen⟩ ↦ ⟨hother, fun r _ hword ↦ ?_⟩
  have hmem : r.1 = .other ∨ (r.1, [[]]) ∈ openRules := by
    cases r.1 <;> decide
  rcases hmem with hr | hr
  · exact absurd (hword ▸ congrArg Plural.word hr) hother
  · exact absurd (hopen _ hr hword [] List.mem_cons_self).1 List.not_mem_nil

/-- Patterns that are regular by such rules are regular by all. -/
theorem Regular.of_openRules {patterns : CompactPatterns} (h : Regular openRules patterns)
    (rules : Plural.Rules) : Regular rules patterns := by
  refine ⟨h.ladder, fun form hform entry hentry ↦ ?_⟩
  obtain ⟨p, hread, hp, hscale, hplaces, hnumber⟩ := h.forms form hform entry hentry
  exact ⟨p, hread, hp, hscale, hplaces, hnumber.imp_right fun hsingle ↦ hsingle.of_openRules rules⟩

/-- The tables are regular in every locale that a tag means. The Italian one for a thousand has no
place for the number, and its form is for the number one. -/
theorem regular_tables {tag word : String} {locale : Locale}
    (hlocale : Locale.ofTag? tag = some locale) {patterns : CompactPatterns}
    (h : (LocaleBook.tables.data locale).compact.lookup word = some patterns) :
    Regular ((LocaleBook.tables.data locale).plurals .cardinal) patterns := by
  have hrows : ∀ r ∈ compactPatterns, ∀ t ∈ r.2, Regular openRules t.2 ∨
      r.1 = ["it"] ∧ Regular (Locale.rules ⟨"it"⟩ Plural.cardinalRules) t.2 := by
    decide +kernel
  have hroot : ∀ t ∈ rootCompactPatterns, Regular openRules t.2 := by decide +kernel
  change ((locale.row? compactPatterns).getD rootCompactPatterns).lookup word = _ at h
  change Regular (locale.rules Plural.cardinalRules) patterns
  cases hrow : locale.row? compactPatterns with
  | none =>
    rw [hrow] at h
    exact (hroot _ (Table.mem_of_lookup h)).of_openRules _
  | some table =>
    rw [hrow] at h
    obtain ⟨names, hmem, name, hname, hnames⟩ := Locale.exists_mem_of_row? hrow
    rcases hrows _ hmem _ (Table.mem_of_lookup h) with hopen | ⟨rfl, hitalian⟩
    · exact hopen.of_openRules _
    · obtain rfl := List.mem_singleton.1 hnames
      rwa [Locale.rules_of_italian (Locale.isKnownLocale_of_ofTag? hlocale) hname]

section Units

variable {other : List (ℕ × String)} {x : ℚ} {u u' : ℕ}

theorem Reaches.unique (hother : IsLadder other) {entry entry' : ℕ × String}
    (h : Reaches other x entry) (h' : Reaches other x entry') : entry = entry' := by
  have hle := h.2.2 _ h'.1 h'.2.1
  have hle' := h'.2.2 _ h.1 h.2.1
  exact List.inj_on_of_nodup_map hother.nodup h.1 h'.1 (le_antisymm hle' hle)

theorem HasUnit.unique (hother : IsLadder other) (h : HasUnit other x u)
    (h' : HasUnit other x u') : u = u' := by
  rcases h with ⟨hnone, rfl⟩ | ⟨entry, hentry, rfl⟩
  · rcases h' with ⟨-, rfl⟩ | ⟨entry, hentry, rfl⟩
    · rfl
    · exact absurd hentry.2.1 (hnone _ hentry.1).not_ge
  · rcases h' with ⟨hnone, rfl⟩ | ⟨entry', hentry', rfl⟩
    · exact absurd hentry.2.1 (hnone _ hentry.1).not_ge
    · rw [hentry.unique hother hentry']

theorem exists_hasUnit (other : List (ℕ × String)) (x : ℚ) : ∃ u, HasUnit other x u := by
  by_cases h : ∃ r ∈ other, (r.1 : ℚ) ≤ |x|
  · obtain ⟨r, hr, hle⟩ := h
    obtain ⟨entry, hentry, hgreatest⟩ :=
      (other.filter fun r ↦ decide ((r.1 : ℚ) ≤ |x|)).toFinset.exists_max_image Prod.fst
        ⟨r, by simp [hr, hle]⟩
    simp only [List.mem_toFinset, List.mem_filter, decide_eq_true_eq] at hentry hgreatest
    exact ⟨_, .inr ⟨entry, ⟨hentry.1, hentry.2, fun r hr hle ↦ hgreatest r ⟨hr, hle⟩⟩, rfl⟩⟩
  · exact ⟨1, .inl ⟨fun r hr ↦ lt_of_not_ge fun hle ↦ h ⟨r, hr, hle⟩, rfl⟩⟩

/-- Units are powers of ten. -/
theorem HasUnit.exists_pow (hother : IsLadder other) (h : HasUnit other x u) :
    ∃ i < 20, u = 10 ^ i := by
  rcases h with ⟨-, rfl⟩ | ⟨entry, hentry, rfl⟩
  · exact ⟨0, by decide, rfl⟩
  · obtain ⟨-, -, i, hi, hunit⟩ := hother.rungs entry hentry.1
    exact ⟨i, List.mem_range.1 hi, hunit⟩

/-- A number with more digits than are read has too many of them in its unit. -/
theorem HasUnit.le_abs_div (hother : IsLadder other) (hu : HasUnit other x u)
    (hx : 10 ^ (Text.LongNumeral.limit : ℤ) ≤ |x|) : 10 ^ (28 : ℤ) ≤ |x / u| := by
  obtain ⟨i, hi, rfl⟩ := hu.exists_pow hother
  have hlimit : (Text.LongNumeral.limit : ℤ) = 4300 := rfl
  rw [abs_div, abs_of_pos (by positivity : (0 : ℚ) < (10 ^ i : ℕ)), le_div_iff₀ (by positivity),
    Nat.cast_pow, Nat.cast_ofNat, ← zpow_natCast, ← zpow_add₀ (by norm_num)]
  exact (ten_zpow_le (by omega)).trans hx

/-- No entry is for a number below a thousand. -/
theorem IsLadder.lt_of_small (hother : IsLadder other) (hx : |x| < 1000) :
    ∀ r ∈ other, |x| < r.1 := by
  intro r hr
  have hlow : (1000 : ℚ) ≤ r.1 := by exact_mod_cast (hother.rungs r hr).1
  exact hx.trans_le hlow

/-- A number that is counted in ones for want of an entry is not a great one. -/
theorem IsLadder.lt_of_none (hother : IsLadder other) (h : ∀ r ∈ other, |x| < r.1) :
    |x| < 10 ^ (20 : ℤ) := by
  obtain ⟨r, hr⟩ := List.exists_mem_of_ne_nil other hother.nonempty
  have hhigh : (r.1 : ℚ) < 10 ^ (20 : ℤ) := by exact_mod_cast (hother.rungs r hr).2.1
  exact (h r hr).trans hhigh

/-- Nor is one that is counted in ones for want of a text. -/
theorem Reaches.lt_of_bare (hother : IsLadder other) {entry : ℕ × String}
    (h : Reaches other x entry) (hbare : entry.2 = "0") : |x| < 10 ^ (20 : ℤ) := by
  obtain ⟨r, hr, hlt⟩ := hother.texts entry h.1 hbare
  have hhigh : (r.1 : ℚ) < 10 ^ (20 : ℤ) := by exact_mod_cast (hother.rungs r hr).2.1
  exact (lt_of_not_ge fun hle ↦ (h.2.2 r hr hle).not_gt hlt).trans hhigh

/-- The search for a magnitude finds the greatest one that the number reaches. -/
theorem magnitudeFor_cases (other : List (ℕ × String)) {c : ℕ} {e : ℤ}
    (hx : (finite false c e).value = |x|) :
    (magnitudeFor (finite false c e) other = none ∧ ∀ r ∈ other, |x| < r.1) ∨
      ∃ entry, magnitudeFor (finite false c e) other = some entry ∧ Reaches other x entry := by
  have hfind : magnitudeFor (finite false c e) other =
      (other.mergeSort fun x y ↦ decide (y.1 ≤ x.1)).find? fun r ↦ decide ((r.1 : ℚ) ≤ |x|) := by
    unfold magnitudeFor
    congr 1
    funext r
    have hiff := compare?_natCast_lt_iff false c e r.1
    obtain ⟨o, ho⟩ : ∃ o, (finite false c e).compare? (ofInt r.1) = some o := ⟨_, rfl⟩
    rw [hx, ho, Option.some.injEq] at hiff
    rw [ho]
    dsimp only
    rw [Bool.eq_iff_iff, bne_iff_ne, decide_eq_true_eq, ne_eq, hiff, not_lt]
  have hsorted : (other.mergeSort fun x y ↦ decide (y.1 ≤ x.1)).Pairwise fun x y ↦ y.1 ≤ x.1 := by
    refine (List.pairwise_mergeSort ?_ ?_ other).imp (by simp)
    · intro a b c hab hbc
      simp only [decide_eq_true_eq] at *
      exact hbc.trans hab
    · intro a b
      simpa using le_total b.1 a.1
  rw [hfind]
  cases hcase : (other.mergeSort fun x y ↦ decide (y.1 ≤ x.1)).find?
      fun r ↦ decide ((r.1 : ℚ) ≤ |x|) with
  | none =>
    refine .inl ⟨rfl, fun r hr ↦ ?_⟩
    have := List.find?_eq_none.1 hcase r (List.mem_mergeSort.2 hr)
    simpa using this
  | some entry =>
    obtain ⟨hreach, before, after, happend, hbefore⟩ := List.find?_eq_some_iff_append.1 hcase
    refine .inr ⟨entry, rfl, List.mem_mergeSort.1 (List.mem_of_find?_eq_some hcase),
      by simpa using hreach, fun r hr hle ↦ ?_⟩
    rw [happend] at hsorted
    have hmem : r ∈ other.mergeSort fun x y ↦ decide (y.1 ≤ x.1) := List.mem_mergeSort.2 hr
    rw [happend, List.mem_append, List.mem_cons] at hmem
    rcases hmem with hmem | rfl | hmem
    · exact absurd hle (by simpa using hbefore r hmem)
    · exact le_rfl
    · exact (List.pairwise_cons.1 (List.pairwise_append.1 hsorted).2.1).1 r hmem

end Units

/-! ### Numbers in their units -/

section Category

variable {rules : Plural.Rules} {s : Bool} {c : ℕ} {e : ℤ} {x : ℚ}
  (hx : Fits 28 (finite s c e).value x) (hsize : |x| < 10 ^ (28 : ℤ))

include hx hsize

theorem exists_operands : ∃ a g,
    Plural.Operands.ofNumber (.decimal (finite s c e)) = .ok (.ofDecimal a g) ∧
      (finite false a g).value = |x| := by
  obtain ⟨a, g, habs, hvalue⟩ := exists_abs hx
    (hsize.trans_le (ten_zpow_le (by unfold maxExponent; omega)))
  exact ⟨a, g, by rw [Plural.Operands.ofNumber, habs], hvalue⟩

/-- A number with at most 28 digits before its point has a plural category. -/
theorem exists_category (rules : Plural.Rules) :
    ∃ category, Plural.ofFinite rules (.decimal (finite s c e)) = .ok category := by
  obtain ⟨a, g, hoperands, hvalue⟩ := exists_operands hx hsize
  refine Plural.exists_ofFinite hoperands (Plural.small_ofDecimal (s := false) ?_) rules
  by_cases ha : a = 0
  · exact .inl ha
  · have hlead := (leadsAt ha false g).1
    rw [hvalue, abs_abs] at hlead
    have := ten_zpow_lt_iff.1 (hlead.trans_lt hsize)
    exact .inr (by unfold defaultPrecision; omega)

/-- A number whose category is for the number one is one, or minus one. -/
theorem abs_eq_one_of_category {category : Plural}
    (h : Plural.ofFinite rules (.decimal (finite s c e)) = .ok category)
    (hsingle : IsSingle rules category.word) : |x| = 1 := by
  obtain ⟨a, g, hoperands, hvalue⟩ := exists_operands hx hsize
  rw [Plural.ofFinite, hoperands] at h
  obtain ⟨hother, hrules⟩ : category.word ≠ "other" ∧ _ :=
    hsingle.resolve_left (by cases category <;> decide)
  obtain ⟨r, hr, rfl, hany⟩ := Plural.Rules.exists_of_select h fun hcategory ↦
    hother (by rw [hcategory]; rfl)
  obtain ⟨conditions, hmem, hall⟩ := Plural.exists_of_anyHolds hany
  obtain ⟨hi, hv⟩ := hrules r hr rfl conditions hmem
  have hi := Plural.holds_of_allHold hall _ hi
  have hv := Plural.holds_of_allHold hall _ hv
  simp [Plural.Relation.holds, Plural.inRanges, Except.map] at hi hv
  rw [← hvalue]
  exact Plural.value_of_single (by omega) hv

end Category

/-- The pattern is one for the magnitude of the entry, or the one for the number one. -/
def Belongs (rules : Plural.Rules) (patterns : CompactPatterns) (entry : ℕ × String) (x : ℚ)
    (pattern : String) : Prop :=
  ∃ form ∈ patterns, (entry.1, pattern) ∈ form.2 ∧ (form.1 = "1" → x = 1) ∧
    (IsSingle rules form.1 → |x| = 1)

/-- The general pattern is one for its magnitude. -/
theorem belongs_self {patterns : CompactPatterns} {other : List (ℕ × String)}
    (hother : patterns.lookup "other" = some other) {entry : ℕ × String} (hentry : entry ∈ other)
    (rules : Plural.Rules) (x : ℚ) : Belongs rules patterns entry x entry.2 :=
  ⟨_, Table.mem_of_lookup hother, hentry, fun h ↦ absurd h (show ¬ "other" = "1" by decide),
    fun h ↦ absurd h not_isSingle_other⟩

/-- A form without a pattern for the magnitude uses the general one. -/
theorem belongs_lookup {rules : Plural.Rules} {patterns : CompactPatterns}
    {other : List (ℕ × String)} (hother : patterns.lookup "other" = some other)
    {entry : ℕ × String} (hentry : entry ∈ other) {x : ℚ} {form : String}
    (hform : (form = "1" → x = 1) ∧ (IsSingle rules form → |x| = 1)) :
    Belongs rules patterns entry x
      (((patterns.lookup form).bind fun p ↦ p.lookup entry.1).getD entry.2) := by
  have hgeneral := belongs_self hother hentry rules x
  cases hlookup : patterns.lookup form with
  | none => exact hgeneral
  | some p =>
    cases hpattern : p.lookup entry.1 with
    | none => simpa [hpattern] using hgeneral
    | some pattern =>
      refine ⟨_, Table.mem_of_lookup hlookup, ?_, hform⟩
      rw [Option.bind_some, hpattern]
      exact Table.mem_of_lookup hpattern

section Choose

variable {rules : Plural.Rules} {patterns : CompactPatterns} {other : List (ℕ × String)}
  {s : Bool} {c places a : ℕ} {e g : ℤ} {d : Decimal} {entry : ℕ × String}
  (hother : patterns.lookup "other" = some other) (habs : d.abs = .ok (finite false a g))

/-- What is rounded to few digits does not have many of them. -/
theorem lt_of_rounded {tie : Tie} {places : ℕ} {x y : ℚ}
    (hy : Rounded tie (10 ^ (-(places : ℤ))) x y) (hdigits : |y| < 10 ^ (28 - (places : ℤ))) :
    |x| < 10 ^ (28 : ℤ) := by
  by_contra hle
  refine absurd (hy.le_abs (by omega) (not_lt.1 hle)) (not_le.2 ?_)
  exact hdigits.trans_le (ten_zpow_le (by omega))

/-- The form of the pattern for a number of a category. -/
def formFor (patterns : CompactPatterns) (q : Decimal) (category : Plural) : String :=
  if q.compare? (.ofInt 1) = some .eq ∧ (patterns.lookup "1").isSome then "1"
  else if (patterns.lookup category.word).isSome then category.word
  else "other"

include hother habs

theorem choose_none (h : magnitudeFor (finite false a g) other = none) :
    choose rules patterns d places = .ok none := by
  unfold choose
  simp only [hother, Format.need, habs, Format.arith, Except.mapError, bind, Except.bind, h]
  rfl

/-- A number is counted in the unit of its entry, unless this has no text. -/
theorem choose_some (h : magnitudeFor (finite false a g) other = some entry) :
    choose rules patterns d places = if entry.2 = "0" then .ok (some (d, entry.2)) else
      Format.arith (d.divide (unitOf entry) 0) >>= fun q ↦
        Format.arith (q.quantize 28 .toEven (-(places : ℤ))) >>= fun shown ↦
          Format.arith q.abs >>= fun size ↦
            Format.arith (Plural.ofFinite rules (.decimal size)) >>= fun category ↦
              .ok (some (shown, ((patterns.lookup (formFor patterns q category)).bind fun p ↦
                p.lookup entry.1).getD entry.2)) := by
  obtain ⟨magnitude, text⟩ := entry
  unfold choose
  simp only [hother, Format.need, habs, bind, Except.bind]
  dsimp only [Format.arith, Except.mapError]
  rw [h]
  dsimp only
  by_cases htext : text = "0"
  · rw [if_pos htext, if_pos htext]
    rfl
  · rw [if_neg htext, if_neg htext, unitOf, if_neg htext]
    rfl

end Choose

section Unit

variable {s : Bool} {c i places : ℕ} {e : ℤ} {r y : ℚ} (hr : (finite s c e).value = r)
  (hfits : Fits 28 r r) (hlarge : 1000 ≤ |r|) (hsize : |r| < 10 ^ (Text.LongNumeral.limit : ℤ))
  (hi : i < 20)

include hr hfits hlarge hsize hi

/-- The quotient by a unit is exact. -/
theorem exists_quotient : ∃ c' e', (finite s c e).divide (10 ^ i) 0 = .ok (finite s c' e') ∧
    (finite s c' e').value = r / (10 ^ i : ℕ) ∧
    Fits 28 (finite s c' e').value (finite s c' e').value := by
  have hlimit : (Text.LongNumeral.limit : ℤ) = 4300 := rfl
  have hc : c ≠ 0 := value_eq_zero_iff.not.1 (hr ▸ ne_zero_of_large hlarge)
  have hlead := leadsAt hc s e
  rw [hr] at hlead
  have hthree := lead_of_le hlarge hlead
  have hbelow := ten_zpow_lt_iff.1 (hlead.1.trans_lt hsize)
  obtain ⟨c', e', hdivide, -, hround⟩ := divide_ten hc (e := e) (i := i) (j := 0)
    (by unfold minExponent; omega) (by unfold maxExponent; omega) s
  have hexact := roundedAt_mul_ten_zpow (roundedAt_of_large hfits hlarge) (-0 - i)
  rw [hr] at hround
  have hvalue := hround.unique hexact
  have hquotient : r * 10 ^ (-0 - i : ℤ) = r / (10 ^ i : ℕ) := by
    rw [neg_zero, zero_sub, zpow_neg, zpow_natCast, div_eq_mul_inv]
    push_cast
    rfl
  refine ⟨c', e', hdivide, hvalue.trans hquotient, ?_⟩
  rw [hvalue]
  exact (Fits.roundedAt_iff (hlead.mul_ten_zpow _) (by unfold minExponent; omega)).2 hexact

variable {rules : Plural.Rules} {patterns : CompactPatterns} {other : List (ℕ × String)} {a : ℕ}
  {g : ℤ} {entry : ℕ × String} (hother : patterns.lookup "other" = some other)
  (habs : (finite s c e).abs = .ok (finite false a g))
  (hentry : magnitudeFor (finite false a g) other = some entry) (htext : entry.2 ≠ "0")
  (hunit : unitOf entry = 10 ^ i) (hplaces : places ≤ 1)
  (hy : Rounded .toEven (10 ^ (-(places : ℤ))) (r / (10 ^ i : ℕ)) y)

include hother habs hentry htext hunit hy

/-- A number in its unit is shown rounded to the places. -/
theorem choose_sound (hmem : entry ∈ other) {x : Option (Decimal × String)}
    (h : choose rules patterns (finite s c e) places = .ok x) :
    |y| < 10 ^ (28 - (places : ℤ)) ∧ ∃ m pattern, x = some (finite s m (-(places : ℤ)), pattern) ∧
      (finite s m (-(places : ℤ))).value = y ∧
      Belongs rules patterns entry (r / (10 ^ i : ℕ)) pattern := by
  have hstep := ten_zpow_pos (-(places : ℤ))
  rw [choose_some hother habs hentry, if_neg htext, hunit] at h
  obtain ⟨c', e', hdivide, hvalue, hq⟩ := exists_quotient hr hfits hlarge hsize hi
  obtain ⟨q, hq', h⟩ := bind_eq_ok h
  obtain rfl := Except.ok.inj (hdivide.symm.trans (Format.eq_ok_of_arith hq'))
  obtain ⟨shown, hshown, h⟩ := bind_eq_ok h
  obtain ⟨-, -, m, rfl, hround, hdigits⟩ := quantize_sound (Format.eq_ok_of_arith hshown)
  obtain ⟨size, hsize', h⟩ := bind_eq_ok h
  obtain ⟨category, hcategory, h⟩ := bind_eq_ok h
  rw [hvalue] at hround
  have hm := hround.unique hstep hy
  rw [hm, ← room_eq] at hdigits
  refine ⟨hdigits, m, _, (Except.ok.inj h).symm, hm, belongs_lookup hother hmem ?_⟩
  unfold formFor
  split
  · rename_i hone
    have hone := compare?_eq_iff.1 hone.1
    rw [hvalue] at hone
    have hone : r / (10 ^ i : ℕ) = 1 := by simpa [value] using hone
    exact ⟨fun _ ↦ hone, fun _ ↦ by rw [hone, abs_one]⟩
  split
  · refine ⟨fun hform ↦ by cases category <;> exact absurd hform (by decide), fun hsingle ↦ ?_⟩
    have hbelow := lt_of_rounded hy hdigits
    rw [← hvalue] at hbelow ⊢
    obtain ⟨a', g', habs', hvalue'⟩ := exists_abs hq
      (hbelow.trans_le (ten_zpow_le (by unfold maxExponent; omega)))
    obtain rfl := Except.ok.inj (habs'.symm.trans (Format.eq_ok_of_arith hsize'))
    rw [← abs_abs]
    exact abs_eq_one_of_category (hvalue' ▸ hq.abs) (by rwa [abs_abs])
      (Format.eq_ok_of_arith hcategory) hsingle
  · exact ⟨fun hform ↦ absurd hform (by decide), fun hsingle ↦ absurd hsingle not_isSingle_other⟩

include hplaces in
/-- There is such a number if it has at most 28 digits. -/
theorem exists_choose (hdigits : |y| < 10 ^ (28 - (places : ℤ))) :
    ∃ x, choose rules patterns (finite s c e) places = .ok x := by
  rw [choose_some hother habs hentry, if_neg htext, hunit]
  obtain ⟨c', e', hdivide, hvalue, hq⟩ := exists_quotient hr hfits hlarge hsize hi
  rw [← hvalue] at hy
  obtain ⟨m, hquantize, -⟩ := quantize_eq_ok (p := 28) hy (by decide)
    (by unfold minExponent; omega) (by unfold maxExponent; omega)
    (by rwa [← room_eq])
    (hdigits.trans_le (ten_zpow_le (by unfold maxExponent; omega)))
  have hbelow := lt_of_rounded hy hdigits
  obtain ⟨a', g', habs', hsize'⟩ := exists_abs hq
    (hbelow.trans_le (ten_zpow_le (by unfold maxExponent; omega)))
  obtain ⟨category, hcategory⟩ := exists_category (s := false) (c := a') (e := g')
    (hsize' ▸ hq.abs) (by rwa [hsize', abs_abs]) rules
  simp only [hdivide, hquantize, habs', hcategory, Format.arith, Except.mapError, bind, Except.bind]
  exact ⟨_, rfl⟩

end Unit

end Compact

end Phrasebook
