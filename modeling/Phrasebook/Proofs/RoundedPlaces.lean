import Phrasebook.Message.Skeleton
import Phrasebook.Proofs.NumberTables
import Phrasebook.Proofs.RoundedDecimals
import Phrasebook.Proofs.Words

/-!
Rounding to a number of fraction digits, and the number skeletons that ask for it.

The precision at which a number is rounded has room for all digits of the result, so rounding has a
result for every number that stays within the range of exponents, and this is the exact one
(`Decimal.roundPlaces_eq_ok`, `Decimal.roundPlaces_sound`). The options of a skeleton have a pattern
that asks for just their fraction digits (`NumberOptions.Bounded.exists_pattern`,
`NumberPattern.ofText?_plain`).
-/

set_option autoImplicit false

namespace Phrasebook

open Arithmetic Text

namespace Decimal

variable {r : Decimal} {s : Bool} {c : ℕ} {e places : ℤ} {y : ℚ}

/-! ### Rounding to fraction digits -/

/-- The digits that there is room for while a number is rounded. -/
def roomFor (d : Decimal) (places : ℤ) : ℕ :=
  max defaultPrecision (d.leadingExponent + places + 2).toNat

theorem roundPlaces_finite (s : Bool) (c : ℕ) (e places : ℤ) :
    (finite s c e).roundPlaces places =
      match stepExponent places (roomFor (finite s c e) places) with
      | .error f => .error f
      | .ok step =>
        if c ≠ 0 ∧ maxExponent < (finite s c e).leadingExponent then .error .invalidOperation
        else if step ≤ e ∨ c = 0 then .ok (finite s c e)
        else (finite s c e).quantize (roomFor (finite s c e) places) .awayFromZero step := by
  unfold roundPlaces
  dsimp only
  rw [← roomFor]
  cases stepExponent places (roomFor (finite s c e) places) with
  | error f => rfl
  | ok step =>
    simp only [bind, Except.bind, pure, Except.pure, throw, throwThe, MonadExceptOf.throw]

theorem stepExponent_eq_ok {step : ℤ} {p : ℕ} (h : stepExponent places p = .ok step) :
    step = -places := by
  unfold stepExponent at h
  split at h
  · cases h
  · split at h
    · cases h
    · exact (Except.ok.inj h).symm

/-- A rounded number is the number, rounded half away from zero to the places. -/
theorem roundPlaces_sound (h : (finite s c e).roundPlaces places = .ok r) :
    (∃ c' e', r = finite s c' e') ∧
      Rounded .awayFromZero (10 ^ (-places)) (finite s c e).value r.value := by
  rw [roundPlaces_finite] at h
  split at h
  · cases h
  rename_i step hstep
  obtain rfl := stepExponent_eq_ok hstep
  split at h
  · cases h
  split at h
  · rename_i hkeep
    obtain rfl := Except.ok.inj h
    refine ⟨⟨c, e, rfl⟩, ?_⟩
    rcases hkeep with hle | rfl
    · exact rounded_of_le hle _ s c
    · simpa using Rounded.self (ten_zpow_pos (-places)) .awayFromZero 0
  · obtain ⟨-, -, kept, rfl, hround, -⟩ := quantize_sound h
    exact ⟨⟨kept, -places, rfl⟩, hround⟩

/-- The room for the digits is enough, also where the rounding carries into one more of them. -/
theorem abs_lt_roomFor (hy : Rounded .awayFromZero (10 ^ (-places)) (finite s c e).value y) :
    |y| < 10 ^ (-places + roomFor (finite s c e) places) := by
  have hpos := ten_zpow_pos (-places)
  have hlt := abs_value_lt (s := s) (e := e) (lt_pow_decimalLength c)
  obtain ⟨k, hk, hle⟩ : ∃ k, -places ≤ k ∧ e + decimalLength c ≤ k ∧
      k < -places + roomFor (finite s c e) places := by
    refine ⟨max (-places) (e + decimalLength c), ?_⟩
    rw [roomFor, leadingExponent, defaultPrecision]
    omega
  have hbound : |y| ≤ 10 ^ k := hy.abs_le hk (hlt.le.trans (ten_zpow_le hle.1))
  exact hbound.trans_lt (ten_zpow_lt_iff.2 hle.2)

/-- A number is rounded if it and its rounding are within the range of exponents. Where the last
place is within it, the leading digit may lie below. -/
theorem roundPlaces_eq_ok (hplaces : 0 ≤ places)
    (hleast : minExponent ≤ (finite s c e).leadingExponent ∨ minExponent - 27 ≤ -places)
    (hy : Rounded .awayFromZero (10 ^ (-places)) (finite s c e).value y)
    (hsize : |y| < 10 ^ (maxExponent + 1)) :
    ∃ c' e', (finite s c e).roundPlaces places = .ok (finite s c' e') ∧
      (finite s c' e').value = y := by
  have hpos := ten_zpow_pos (-places)
  have hroom := abs_lt_roomFor hy
  have hlead : (finite s c e).leadingExponent = e + decimalLength c - 1 := rfl
  obtain ⟨p, hp⟩ : ∃ p, p = roomFor (finite s c e) places := ⟨_, rfl⟩
  have hmany : minExponent - p + 1 ≤ -places ∧ ¬ 2 * (maxExponent + p) < places.natAbs ∧ 0 < p := by
    rw [roomFor] at hp
    unfold defaultPrecision minExponent maxExponent at *
    omega
  have hstep : stepExponent places p = .ok (-places) := by
    rw [stepExponent, if_neg hmany.2.1, if_neg (by unfold maxExponent; omega)]
  have hfew : ¬ (c ≠ 0 ∧ maxExponent < (finite s c e).leadingExponent) := by
    rintro ⟨hc, hlarge⟩
    rw [hlead] at hlarge
    -- a leading digit before the point stays where it is
    have hlow : 10 ^ (e + decimalLength c - 1) ≤ |y| :=
      hy.le_abs (by unfold maxExponent at hlarge; omega) (leadsAt hc s e).1
    have := ten_zpow_lt_iff.1 (hlow.trans_lt hsize)
    omega
  rw [roundPlaces_finite, ← hp, hstep]
  dsimp only
  rw [if_neg hfew]
  by_cases hkeep : -places ≤ e ∨ c = 0
  · refine ⟨c, e, if_pos hkeep, ?_⟩
    rcases hkeep with hle | rfl
    · exact (rounded_of_le hle _ s c).unique hpos hy
    · rw [value_zero] at hy ⊢
      simpa using (Rounded.self hpos .awayFromZero 0).unique hpos (by simpa using hy)
  · obtain ⟨kept, hquantize, hvalue⟩ := quantize_eq_ok hy hmany.2.2 hmany.1
      (by unfold maxExponent; omega) (hp ▸ hroom) hsize
    exact ⟨kept, -places, by rw [if_neg hkeep, hquantize], hvalue⟩

end Decimal

/-! ### The patterns of skeletons -/

namespace NumberPattern

/-- The whole part of the pattern of some options. -/
def wholePart (grouping : Bool) : List Char :=
  if grouping then ['#', ',', '#', '#', '0'] else ['0']

/-- The places part of a pattern, its point included. -/
def placesPart (least optional : ℕ) : List Char :=
  if least + optional = 0 then []
  else '.' :: (List.replicate least '0' ++ List.replicate optional '#')

theorem digitRange_replicate (least optional : ℕ) :
    digitRange (List.replicate least '0' ++ List.replicate optional '#') =
      ⟨least, least + optional⟩ := by
  induction least with
  | zero =>
    rw [List.replicate_zero, List.nil_append]
    induction optional with
    | zero => rfl
    | succ n ih => simp [List.replicate_succ, digitRange, ih]
  | succ n ih =>
    rw [List.replicate_succ, List.cons_append, digitRange, if_pos (.inl rfl), ih]
    dsimp only
    rw [Nat.add_right_comm]

theorem mem_placesPart {c : Char} {least optional : ℕ} (h : c ∈ placesPart least optional) :
    c = '.' ∨ c = '0' ∨ c = '#' := by
  unfold placesPart at h
  split at h
  · cases h
  · simp only [List.mem_cons, List.mem_append, List.mem_replicate] at h
    tauto

theorem mem_wholePart {c : Char} {grouping : Bool} (h : c ∈ wholePart grouping) :
    c = '#' ∨ c = ',' ∨ c = '0' := by
  revert h
  cases grouping <;> simp [wholePart] <;> tauto

theorem span_append_stop {p : Char → Bool} {w t : List Char} (hw : ∀ c ∈ w, p c = true)
    (ht : ∀ c ∈ t.head?, p c = false) : (w ++ t).span p = (w, t) := by
  rw [List.span_eq_takeWhile_dropWhile, takeWhile_append_stop hw ht, dropWhile_append_stop hw ht]

theorem span_all {p : Char → Bool} {w : List Char} (hw : ∀ c ∈ w, p c = true) :
    w.span p = (w, []) := by
  simpa using span_append_stop (t := []) hw (by simp)

theorem splitPoint_append (grouping : Bool) (least optional : ℕ) :
    splitPoint (wholePart grouping ++ placesPart least optional) =
      (wholePart grouping, List.replicate least '0' ++ List.replicate optional '#') := by
  by_cases hnone : least + optional = 0
  · obtain ⟨rfl, rfl⟩ := Nat.add_eq_zero_iff.1 hnone
    cases grouping <;> rfl
  · have hplaces : ∀ c ∈ (List.replicate least '0' ++ List.replicate optional '#').reverse,
        decide (c ≠ '.') = true := by
      simp only [List.mem_reverse, List.mem_append, List.mem_replicate]
      rintro c (⟨-, rfl⟩ | ⟨-, rfl⟩) <;> decide
    have hspan := span_append_stop (t := '.' :: (wholePart grouping).reverse) hplaces (by simp)
    unfold splitPoint placesPart
    rw [if_neg hnone, List.reverse_append, List.reverse_cons, List.append_assoc,
      List.singleton_append, hspan]
    dsimp only
    rw [List.reverse_reverse, List.reverse_reverse]

theorem groupSizes_wholePart (grouping : Bool) :
    groupSizes (wholePart grouping) =
      if grouping then (3, 3) else (noGrouping, noGrouping) := by
  cases grouping <;> rfl

theorem digitRange_wholePart (grouping : Bool) :
    digitRange (wholePart grouping) = ⟨1, if grouping then 4 else 1⟩ := by
  cases grouping <;> rfl

/-- The pattern of a skeleton, read: nothing stands before the number but the minus sign, and the
suffix stands after it. -/
def plain (grouping : Bool) (least optional : ℕ) (suffix : List Char) : NumberPattern where
  source := wholePart grouping ++ placesPart least optional ++ suffix
  number := wholePart grouping ++ placesPart least optional
  before := ([], ['-'])
  after := (suffix, suffix)
  primary := if grouping then 3 else noGrouping
  secondary := if grouping then 3 else noGrouping
  whole := ⟨1, if grouping then 4 else 1⟩
  places := ⟨least, least + optional⟩
  exponent := none

theorem takeBefore_number {c : Char} (s : List Char) (hc : startsNumber c = true)
    (hquote : c ≠ '\'') (limit : ℕ) : takeBefore (limit + 1) (c :: s) = ([], c :: s) := by
  have hnone : takeQuoted? (c :: s) = none := by
    unfold takeQuoted?
    split
    · rename_i h
      exact absurd (List.cons.inj h).1 hquote
    · rfl
  rw [takeBefore, hnone]
  dsimp only
  rw [if_pos hc]

theorem parts_pattern {number suffix : List Char} {c : Char} (hhead : number.head? = some c)
    (hc : startsNumber c = true) (hquote : c ≠ '\'')
    (hnumber : ∀ c ∈ number, isNumberPart c = true)
    (hsuffix : suffix = [] ∨ suffix = ['%']) :
    parts (number ++ suffix) = ([], number, suffix) := by
  obtain ⟨rest, rfl⟩ := List.head?_eq_some_iff.1 hhead
  have hspan : (c :: rest ++ suffix).span isNumberPart = (c :: rest, suffix) :=
    span_append_stop hnumber (by rcases hsuffix with rfl | rfl <;> decide)
  have hline : suffix.takeWhile (fun c ↦ decide (c ≠ '\n')) = suffix := by
    rcases hsuffix with rfl | rfl <;> rfl
  unfold parts
  rw [List.cons_append, List.length_cons, takeBefore_number _ hc hquote, ← List.cons_append]
  dsimp only
  rw [hspan]
  dsimp only
  rw [hline]

theorem ofText?_plain (grouping : Bool) (least optional : ℕ) {suffix : List Char}
    (hsuffix : suffix = [] ∨ suffix = ['%']) :
    ofText? (wholePart grouping ++ placesPart least optional ++ suffix) =
      some (plain grouping least optional suffix) := by
  obtain ⟨number, hnumber⟩ : ∃ n, n = wholePart grouping ++ placesPart least optional := ⟨_, rfl⟩
  have hmem : ∀ c ∈ number, c = '#' ∨ c = ',' ∨ c = '0' ∨ c = '.' := by
    intro c hc
    rw [hnumber, List.mem_append] at hc
    rcases hc with hc | hc
    · have := mem_wholePart hc
      tauto
    · have := mem_placesPart hc
      tauto
  have hclass (p : Char → Bool) (h : ∀ c ∈ ['#', ',', '0', '.'], p c = true) :
      ∀ c ∈ number, p c = true :=
    fun c hc ↦ h c (by simpa using hmem c hc)
  obtain ⟨c, hhead, hstart, hquote⟩ :
      ∃ c, number.head? = some c ∧ startsNumber c = true ∧ c ≠ '\'' := by
    rw [hnumber]
    cases grouping
    · exact ⟨'0', rfl, by decide, by decide⟩
    · exact ⟨'#', rfl, by decide, by decide⟩
  have hparts := parts_pattern hhead hstart hquote (hclass isNumberPart (by decide)) hsuffix
  have hsigns : (number ++ suffix).span (fun c ↦ decide (c ≠ ';')) = (number ++ suffix, []) := by
    refine span_all fun c hc ↦ ?_
    rcases List.mem_append.1 hc with hc | hc
    · exact hclass (fun c ↦ decide (c ≠ ';')) (by decide) c hc
    · rcases hsuffix with rfl | rfl
      · cases hc
      · rw [List.mem_singleton.1 hc]
        rfl
  have hpower := span_all (hclass (fun c ↦ decide (c ≠ 'E')) (by decide))
  have hcount : ¬ ('@' ∈ number ∧ '.' ∈ number ∧ '0' ∈ number) :=
    fun h ↦ absurd (hmem '@' h.1) (by decide)
  unfold ofText?
  rw [← hnumber, hsigns]
  dsimp only
  rw [hparts]
  dsimp only
  rw [hpower]
  dsimp only
  rw [if_neg hcount, hnumber, splitPoint_append]
  dsimp only
  rw [groupSizes_wholePart, digitRange_wholePart, digitRange_replicate, plain]
  cases grouping <;> rfl

end NumberPattern

namespace NumberOptions

open NumberPattern

variable {o : NumberOptions}

/-- The options have no bounds on the fraction digits, or both, the greater one not below the
other. -/
def Bounded (o : NumberOptions) : Prop :=
  o.minimumFractionDigits = none ∧ o.maximumFractionDigits = none ∨
    ∃ least optional : ℕ, o.minimumFractionDigits = some (least : ℤ) ∧
      o.maximumFractionDigits = some (least + optional : ℤ)

theorem Bounded.set (h : o.Bounded) (w : SkeletonWord) : (w.set o).Bounded := by
  cases w with
  | integer => exact .inr ⟨0, 0, rfl, rfl⟩
  | fraction least optional => exact .inr ⟨least, optional, rfl, rfl⟩
  | _ => exact h

/-- So are the options of every skeleton. -/
theorem bounded_ofSkeleton (skeleton : List Char) : (ofSkeleton skeleton).Bounded := by
  have hfold (ws : List SkeletonWord) {o : NumberOptions} (h : o.Bounded) :
      (ws.foldl SkeletonWord.set o).Bounded := by
    induction ws generalizing o with
    | nil => exact h
    | cons w ws ih => exact ih (h.set w)
  exact hfold _ (.inl ⟨rfl, rfl⟩)

/-- The pattern of such options has a zero for each digit that is always written and a number sign
for each further one. -/
theorem Bounded.exists_pattern (h : o.Bounded) (default : ℕ) :
    ∃ least optional : ℕ, o.minimum = least ∧ o.maximum default = (least + optional : ℕ) ∧
      o.pattern default = wholePart o.useGrouping ++ placesPart least optional := by
  obtain ⟨least, optional, hleast, hmost⟩ : ∃ least optional : ℕ, o.minimum = least ∧
      o.maximum default = (least + optional : ℕ) := by
    rcases h with ⟨hmin, hmax⟩ | ⟨least, optional, hmin, hmax⟩
    · refine ⟨0, default, ?_, ?_⟩ <;> simp [minimum, maximum, hmin, hmax]
    · refine ⟨least, optional, ?_, ?_⟩ <;> simp [minimum, maximum, hmin, hmax]
  refine ⟨least, optional, hleast, hmost, ?_⟩
  unfold pattern placesPart wholePart
  rw [hmost, hleast]
  by_cases hnone : least + optional = 0
  · rw [hnone]
    simp
  · have hoptional : (((least + optional : ℕ) : ℤ) - least).toNat = optional := by omega
    have hcast : ¬ ((least + optional : ℕ) : ℤ) = 0 := by exact_mod_cast hnone
    rw [hoptional, Int.toNat_natCast]
    simp only [if_neg hcast, if_neg hnone, List.append_assoc, List.cons_append]

end NumberOptions

/-! ### Numbers in the style of a skeleton -/

namespace NumberStyle

/-- The most fraction digits of a number whose options do not say. -/
def defaultPlaces : NumberStyle → ℕ
  | .percent => 0
  | _ => 3

/-- The power of ten that a number is shown as a multiple of. -/
def power : NumberStyle → ℕ
  | .percent => 2
  | _ => 0

/-- What is written after the number. -/
def suffix : NumberStyle → List Char
  | .percent => ['%']
  | _ => []

theorem suffix_cases {style : NumberStyle} (h : style = .decimal ∨ style = .percent) :
    style.suffix = [] ∨ style.suffix = ['%'] := by
  rcases h with rfl | rfl
  · exact .inl rfl
  · exact .inr rfl

end NumberStyle

/-- A finite number that can be written, which has its leading digit within the range of exponents,
and so has what it is rounded to. -/
structure Number.Roundable (n : Number) (places : ℕ) : Prop where
  written : n.isOverlong = false
  finite : ∃ s c e, n.toDecimal = .finite s c e
  least : Decimal.minExponent ≤ n.toDecimal.leadingExponent
  most : ∀ y, Rounded .awayFromZero (10 ^ (-places : ℤ)) n.toDecimal.value y →
    |y| < 10 ^ (Decimal.maxExponent + 1)

/-- A number whose leading digit is not the last one within the range cannot leave it. -/
theorem Number.roundable_of_lt {n : Number} {s : Bool} {c : ℕ} {e : ℤ} (hn : n.isOverlong = false)
    (hd : n.toDecimal = .finite s c e) (hleast : Decimal.minExponent ≤ e + decimalLength c - 1)
    (hmost : e + decimalLength c ≤ Decimal.maxExponent) (places : ℕ) : n.Roundable places := by
  refine ⟨hn, ⟨s, c, e, hd⟩, by rw [hd]; exact hleast, fun y hy ↦ ?_⟩
  have hpos := ten_zpow_pos (-places)
  have hlt := Decimal.abs_value_lt (s := s) (e := e) (lt_pow_decimalLength c)
  refine lt_of_le_of_lt ?_ (ten_zpow_lt_iff.2 (Int.lt_succ Decimal.maxExponent))
  refine hy.abs_le (by unfold Decimal.maxExponent; omega) ?_
  rw [hd]
  exact hlt.le.trans (ten_zpow_le hmost)

namespace Format

open NumberPattern NumberOptions

theorem eq_ok_of_arith {α : Type} {x : Except Decimal.Fault α} {a : α} (h : arith x = .ok a) :
    x = .ok a := by
  cases x with
  | error g => cases h
  | ok b => exact congrArg Except.ok (Except.ok.inj h)

/-- A value rounded to a number of fraction digits. -/
def roundedTo (v : Value) (places : ℤ) : Except FormatFault Decimal := do
  arith ((← decimalOf v).roundPlaces places)

theorem decimalOf_number {n : Number} (h : n.isOverlong = false) :
    decimalOf (.number n) = .ok n.toDecimal := by
  simp [decimalOf, Value.toDecimal?, h, need]

/-- Rounding has a result, which is the nearest one with the digits that are asked for. -/
theorem exists_roundedTo {n : Number} {places : ℕ} (h : n.Roundable places) :
    ∃ r, roundedTo (.number n) places = .ok r ∧
      Rounded .awayFromZero (10 ^ (-places : ℤ)) n.toDecimal.value r.value := by
  obtain ⟨s, c, e, hn⟩ := h.finite
  obtain ⟨y, hy⟩ := exists_rounded .awayFromZero (ten_zpow_pos (-places)) n.toDecimal.value
  have hleast := h.least
  have hmost := h.most y hy
  rw [hn] at hleast hy
  obtain ⟨c', e', hround, hvalue⟩ :=
    Decimal.roundPlaces_eq_ok (Int.natCast_nonneg places) (.inl hleast) hy hmost
  refine ⟨.finite s c' e', ?_, by rwa [hvalue, hn]⟩
  rw [roundedTo, decimalOf_number h.written, hn]
  exact congrArg arith hround

theorem rounded_of_roundedTo {n : Number} {places : ℕ} {r : Decimal} (h : n.Roundable places)
    (hr : roundedTo (.number n) places = .ok r) :
    Rounded .awayFromZero (10 ^ (-places : ℤ)) n.toDecimal.value r.value := by
  obtain ⟨r', hr', hround⟩ := exists_roundedTo h
  rw [hr] at hr'
  rwa [Except.ok.inj hr']

/-- A number in the plain style or in percent is rounded before it is written. -/
theorem numberWith_of_style {o : NumberOptions} (h : o.style = .decimal ∨ o.style = .percent)
    (data : LocaleData) (v : Value) :
    numberWith data v o =
      roundedTo v (o.maximum o.style.defaultPlaces + o.style.power) >>= fun rounded ↦
        applyPattern data.numbers (o.pattern o.style.defaultPlaces ++ o.style.suffix) none false
          rounded := by
  unfold numberWith roundedTo
  rcases h with hstyle | hstyle
  · have hplaces : o.maximum (NumberStyle.decimal.defaultPlaces : ℕ) +
        (NumberStyle.decimal.power : ℕ) = o.maximum 3 := Int.add_zero _
    have hpattern : o.pattern (NumberStyle.decimal.defaultPlaces : ℕ) ++
        NumberStyle.decimal.suffix = o.pattern 3 := List.append_nil _
    rw [hstyle, hplaces, hpattern]
    cases decimalOf v <;> rfl
  · rw [hstyle]
    cases decimalOf v <;> rfl

theorem applyPattern_eq {pattern : List Char} {p : NumberPattern}
    (h : NumberPattern.ofText? pattern = some p) (f : NumberFormats)
    (money : Option NumberPattern.Money) (natural : Bool) (d : Decimal) :
    applyPattern f pattern money natural d = arith (p.apply f.symbols money natural d) := by
  rw [applyPattern, h]
  rfl

/-- With the options of a skeleton it is rounded to just the digits that its pattern has. -/
theorem number_of_style {o : NumberOptions} {least optional : ℕ}
    (h : o.style = .decimal ∨ o.style = .percent)
    (hmax : o.maximum o.style.defaultPlaces = (least + optional : ℕ))
    (hpattern : o.pattern o.style.defaultPlaces =
      wholePart o.useGrouping ++ placesPart least optional)
    (v : Value) (tag : String) (style : Option String) (book : LocaleBook) :
    number v tag style (some o) book =
      dataOf tag book >>= fun data ↦
        roundedTo v (least + optional + o.style.power : ℕ) >>= fun rounded ↦
          arith ((plain o.useGrouping least optional o.style.suffix).apply
            data.numbers.symbols none false rounded) := by
  rw [number]
  cases dataOf tag book with
  | error f => rfl
  | ok data =>
    simp only [bind, Except.bind]
    rw [numberWith_of_style h, hmax, hpattern]
    simp only [applyPattern_eq (ofText?_plain _ _ _ (NumberStyle.suffix_cases h))]
    rfl

/-- Rounding to fraction digits has a result for every number that stays within the range of
exponents, and it is the nearest multiple of the last digit, ties going away from zero. So it turns
with the sign, keeps the order of numbers and leaves a number with few enough digits as it is. The
pattern of every skeleton has a zero for each digit that is always written and a number sign for
each further one; where the skeleton neither asks for a currency nor for compact notation, the
digits of the pattern are those that the number is rounded to, two more before it is counted in
percent. -/
theorem roundedTo_exact :
    (∀ (n : Number) (places : ℕ), n.Roundable places →
      ∃ r, roundedTo (.number n) places = .ok r ∧
        Rounded .awayFromZero (10 ^ (-places : ℤ)) n.toDecimal.value r.value ∧
        ((∃ k : ℤ, n.toDecimal.value = k * 10 ^ (-places : ℤ)) →
          r.value = n.toDecimal.value) ∧
        ∀ (m : Number) (q : Decimal), m.Roundable places →
          roundedTo (.number m) places = .ok q →
            (m.toDecimal.value = -n.toDecimal.value → q.value = -r.value) ∧
            (n.toDecimal.value ≤ m.toDecimal.value → r.value ≤ q.value)) ∧
    ∀ (skeleton : List Char) (o : NumberOptions), o = ofSkeleton skeleton →
      (∀ default : ℕ, ∃ least optional : ℕ, o.minimum = least ∧
        o.maximum default = (least + optional : ℕ) ∧
        o.pattern default = wholePart o.useGrouping ++ placesPart least optional) ∧
      (o.style = .decimal ∨ o.style = .percent →
        ∃ (least most : ℕ) (p : NumberPattern), o.minimum = least ∧
          o.maximum o.style.defaultPlaces = most ∧
          ofText? (o.pattern o.style.defaultPlaces ++ o.style.suffix) = some p ∧
          p.places = ⟨least, most⟩ ∧ p.scale = o.style.power ∧
          ∀ (v : Value) (tag : String) (style : Option String) (book : LocaleBook),
            number v tag style (some o) book =
              dataOf tag book >>= fun data ↦
                roundedTo v (most + o.style.power : ℕ) >>= fun rounded ↦
                  arith (p.apply data.numbers.symbols none false rounded)) := by
  refine ⟨fun n places h ↦ ?_, fun skeleton o ho ↦ ⟨fun default ↦ ?_, fun hstyle ↦ ?_⟩⟩
  · have hpos := ten_zpow_pos (-places)
    obtain ⟨r, hr, hround⟩ := exists_roundedTo h
    refine ⟨r, hr, hround, fun ⟨k, hk⟩ ↦ ?_, fun m q hm hq ↦ ?_⟩
    · rw [hk] at hround ⊢
      exact hround.unique hpos (.self hpos _ k)
    · have hround' := rounded_of_roundedTo hm hq
      exact ⟨fun heq ↦ (heq ▸ hround').unique hpos hround.neg,
        fun hle ↦ hround.mono hpos hround' hle⟩
  · exact (ho ▸ bounded_ofSkeleton skeleton).exists_pattern default
  · have hbounded : o.Bounded := ho ▸ bounded_ofSkeleton skeleton
    obtain ⟨least, optional, hmin, hmax, hpattern⟩ := hbounded.exists_pattern o.style.defaultPlaces
    have hsuffix := NumberStyle.suffix_cases hstyle
    refine ⟨least, least + optional, plain o.useGrouping least optional o.style.suffix, hmin, hmax,
      ?_, rfl, ?_, fun v tag style book ↦ number_of_style hstyle hmax hpattern v tag style book⟩
    · rw [hpattern, ofText?_plain _ _ _ hsuffix]
    · rcases hstyle with h | h <;> rw [h] <;> rfl

theorem roundedTo_exact_half :
    (Number.decimal (.finite true 25 (-1))).Roundable 0 ∧
      roundedTo (.number (.decimal (.finite true 25 (-1)))) 0 = .ok (.finite true 3 0) ∧
      Rounded .awayFromZero 1 (-5 / 2) (-3) := by
  have hrange : (Number.decimal (.finite true 25 (-1))).Roundable 0 :=
    Number.roundable_of_lt rfl rfl (by decide +kernel) (by decide +kernel) 0
  have hthree : roundedTo (.number (.decimal (.finite true 25 (-1)))) 0 =
      .ok (.finite true 3 0) := by decide +kernel
  obtain ⟨r, hr, hround, -⟩ := roundedTo_exact.1 _ 0 hrange
  obtain rfl := Except.ok.inj (hthree.symm.trans hr)
  refine ⟨hrange, hthree, ?_⟩
  have hstep : (10 : ℚ) ^ (-(0 : ℕ) : ℤ) = 1 := by norm_num
  have hvalue : (Number.decimal (.finite true 25 (-1))).toDecimal.value = -5 / 2 := by
    norm_num [Number.toDecimal, Decimal.value]
  have hvalue' : (Decimal.finite true 3 0).value = -3 := by norm_num [Decimal.value]
  rwa [hstep, hvalue, hvalue'] at hround

/-- An amount of money has the digits of its currency, whatever the skeleton asks for, and a whole
number with more digits than are written is not rounded. -/
theorem number_yen :
    roundedTo (.number (.integer (10 ^ Text.LongNumeral.limit))) 0 = .error .unsuitableValue ∧
    (ofSkeleton "currency/JPY .00".toList).maximum 3 = 2 ∧
      roundedTo (.number (.decimal (.finite false 125 (-2)))) 2 = .ok (.finite false 125 (-2)) ∧
      number (.number (.decimal (.finite false 125 (-2)))) "en" none
        (some (ofSkeleton "currency/JPY .00".toList)) .tables = .ok "¥1" := by
  have hoptions : ofSkeleton "currency/JPY .00".toList =
      ⟨.currency, some "JPY", none, some 2, some 2, true⟩ := by decide +kernel
  have hrefused {n : ℤ} (h : (Number.integer n).isOverlong = true) :
      roundedTo (.number (.integer n)) 0 = .error .unsuitableValue := by
    simp [roundedTo, decimalOf, Value.toDecimal?, h, need, bind, Except.bind]
  have hlong : (Number.integer (10 ^ Text.LongNumeral.limit)).isOverlong = true := by
    unfold Number.isOverlong
    generalize Text.LongNumeral.limit = k
    simp [Int.natAbs_pow]
  refine ⟨hrefused hlong, by rw [hoptions]; rfl, by decide +kernel, ?_⟩
  rw [hoptions]
  decide +kernel

end Format

end Phrasebook
