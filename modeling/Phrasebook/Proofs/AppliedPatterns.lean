import Phrasebook.Proofs.Numerals

/-!
What a number pattern shows.

A text shows a number in a pattern if a numeral that spells it stands between the texts that the
pattern has for its sign (`NumberPattern.Shows`). Applying a pattern fits the number to the working
precision and rounds it to the places of the pattern, ties to the even digit, and the text shows the
result. There is a text just if the result has at most 28 digits (`NumberPattern.shows_of_apply`,
`NumberPattern.exists_apply`).
-/

set_option autoImplicit false

namespace Phrasebook

open Arithmetic Decimal

namespace NumberPattern

variable {p : NumberPattern} {y : NumberSymbols} {money : Option Money}

/-! ### The texts around a number -/

/-- A text with the currency's symbol in the place of the sign for any currency. -/
def substitute (money : Option Money) (s : List Char) : List Char :=
  match money with
  | some m => s.flatMap fun c ↦ if c = '¤' then m.symbol.toList else [c]
  | none => s

/-- The text that a pattern has before or after a number. -/
def affix (money : Option Money) (s : List Char) : List Char :=
  unquote (substitute money s).length (substitute money s)

/-- The text shows the number: a numeral that spells its size stands between the texts for its
sign. -/
def Shows (p : NumberPattern) (y : NumberSymbols) (money : Option Money) (text : String)
    (x : ℚ) : Prop :=
  ∃ (negative : Bool) (numeral : List Char),
    text.toList = affix money (if negative then p.before.2 else p.before.1) ++ numeral ++
      affix money (if negative then p.after.2 else p.after.1) ∧
    y.read? numeral = some |x| ∧ x = if negative then -|x| else |x|

/-- A text that means nothing in the pattern language. -/
def Inert (s : List Char) : Prop :=
  ∀ c ∈ s, c ≠ '\'' ∧ c ≠ '¤'

instance (s : List Char) : Decidable (Inert s) :=
  inferInstanceAs (Decidable (∀ c ∈ s, c ≠ '\'' ∧ c ≠ '¤'))

theorem substitute_append (a b : List Char) :
    substitute money (a ++ b) = substitute money a ++ substitute money b := by
  cases money with
  | none => rfl
  | some m => exact List.flatMap_append

theorem substitute_of_inert {s : List Char} (h : Inert s) : substitute money s = s := by
  cases money with
  | none => rfl
  | some m =>
    induction s with
    | nil => rfl
    | cons c s ih =>
      obtain ⟨hc, hs⟩ := List.forall_mem_cons.1 h
      have ih := ih hs
      unfold substitute at ih ⊢
      dsimp only at ih ⊢
      rw [List.flatMap_cons, if_neg hc.2, ih, List.singleton_append]

theorem unquote_of_inert {s : List Char} (h : ∀ c ∈ s, c ≠ '\'') (n : ℕ) : unquote n s = s := by
  induction n generalizing s with
  | zero => cases s <;> rfl
  | succ n ih =>
    cases s with
    | nil => rfl
    | cons c s =>
      obtain ⟨hc, hs⟩ := List.forall_mem_cons.1 h
      rw [unquote, if_neg hc, ih hs]

/-- A text without quotes in front stays as it is. -/
theorem unquote_append_right {a : List Char} (h : ∀ c ∈ a, c ≠ '\'') (b : List Char) :
    unquote (a ++ b).length (a ++ b) = a ++ unquote b.length b := by
  induction a with
  | nil => rfl
  | cons c a ih =>
    obtain ⟨hc, ha⟩ := List.forall_mem_cons.1 h
    rw [List.cons_append, List.length_cons, unquote, if_neg hc, ih ha, List.cons_append]

/-- So does one at the end. -/
theorem unquote_append_left {b : List Char} (h : ∀ c ∈ b, c ≠ '\'') {a : List Char} {n m : ℕ}
    (hn : a.length ≤ n) (hm : a.length ≤ m) : unquote n (a ++ b) = unquote m a ++ b := by
  induction n generalizing a m with
  | zero =>
    obtain rfl := List.length_eq_zero_iff.1 (Nat.le_zero.1 hn)
    cases m <;> cases b <;> rfl
  | succ n ih =>
    cases a with
    | nil =>
      rw [List.nil_append, unquote_of_inert h]
      cases m <;> rfl
    | cons c a =>
      obtain ⟨m, rfl⟩ := Nat.exists_eq_add_one_of_ne_zero (by simp at hm; omega : m ≠ 0)
      rw [List.length_cons, Nat.add_le_add_iff_right] at hn hm
      rw [List.cons_append, unquote, unquote]
      by_cases hc : c = '\''
      · rw [if_pos hc, if_pos hc]
        have hb : ∀ c ∈ b, decide (c ≠ '\'') = true := fun c hc ↦ decide_eq_true (h c hc)
        rw [List.span_eq_takeWhile_dropWhile, List.span_eq_takeWhile_dropWhile,
          List.takeWhile_append, List.dropWhile_append, List.takeWhile_eq_self_iff.2 hb,
          List.dropWhile_eq_nil_iff.2 hb]
        cases hrest : a.dropWhile (fun c ↦ decide (c ≠ '\'')) with
        | nil =>
          have hall := List.takeWhile_append_dropWhile (p := fun c ↦ decide (c ≠ '\'')) (l := a)
          rw [hrest, List.append_nil] at hall
          rw [hall, if_pos rfl]
          rfl
        | cons q more =>
          have hlen := List.length_dropWhile_le (fun c ↦ decide (c ≠ '\'')) a
          have hne : ¬ (a.takeWhile (fun c ↦ decide (c ≠ '\''))).length = a.length := by
            have hall := congrArg List.length
              (List.takeWhile_append_dropWhile (p := fun c ↦ decide (c ≠ '\'')) (l := a))
            rw [hrest, List.length_append, List.length_cons] at hall
            omega
          rw [hrest, List.length_cons] at hlen
          rw [if_neg hne]
          simp only [List.isEmpty_cons, Bool.false_eq_true, if_false, List.cons_append]
          rw [ih (by omega : more.length ≤ n) (by omega : more.length ≤ m), List.append_assoc]
      · rw [if_neg hc, if_neg hc, ih hn hm, List.cons_append]

/-- The pattern has nothing but plain text on one side of the number. -/
def OneSided (p : NumberPattern) : Prop :=
  Inert (p.before.1 ++ p.before.2) ∨ Inert (p.after.1 ++ p.after.2)

instance (p : NumberPattern) : Decidable p.OneSided :=
  inferInstanceAs (Decidable (_ ∨ _))

/-- The texts on the two sides of a numeral are written as if it were not there. -/
theorem unquote_around {before numeral after : List Char} (hnumeral : Inert numeral)
    (h : Inert before ∨ Inert after) {text : List Char}
    (htext : text = substitute money (before ++ numeral ++ after)) :
    unquote text.length text = affix money before ++ numeral ++ affix money after := by
  have hplain {s : List Char} (hs : Inert s) : ∀ c ∈ s, c ≠ '\'' := fun c hc ↦ (hs c hc).1
  have haffix {s : List Char} (hs : Inert s) : affix money s = s := by
    rw [affix, substitute_of_inert hs, unquote_of_inert (hplain hs)]
  rw [htext, substitute_append, substitute_append, substitute_of_inert hnumeral]
  rcases h with h | h
  · have hfront : Inert (before ++ numeral) := fun c hc ↦
      (List.mem_append.1 hc).elim (h c) (hnumeral c)
    rw [substitute_of_inert h, unquote_append_right (hplain hfront), haffix h]
    rfl
  · have hback : Inert (numeral ++ after) := fun c hc ↦
      (List.mem_append.1 hc).elim (hnumeral c) (h c)
    rw [substitute_of_inert h, haffix h, List.append_assoc, List.append_assoc,
      unquote_append_left (hplain hback) (by simp) le_rfl]
    rfl

/-! ### Numbers made ready -/

/-- The sign of a number and its size, scaled as the pattern asks for and without zeros at its
end. -/
def prepare (p : NumberPattern) (d : Decimal) : Except Decimal.Fault (Bool × Decimal) := do
  let d ← d.shift p.scale
  return (d.isNegative, ← (← d.abs).normalize)

variable {s : Bool} {c : ℕ} {e : ℤ} {f z : ℚ}

theorem shift_eq (s : Bool) (c : ℕ) (e : ℤ) (k : ℕ) :
    (finite s c e).shift k = fit defaultPrecision s c (e + k) := by
  simp only [shift, Decimal.scale, Nat.mul_one]

/-- A number made ready has the size of the scaled number, fitted to the working precision. -/
theorem prepare_sound (hf : Fits 28 ((finite s c e).value * 10 ^ (p.scale : ℤ)) f)
    {r : Bool × Decimal} (h : p.prepare (finite s c e) = .ok r) :
    ∃ c' e', r = (s, finite false c' e') ∧ (finite false c' e').value = |f| := by
  rw [value_mul_ten_zpow] at hf
  obtain ⟨d₁, hfit, h⟩ := bind_eq_ok h
  rw [shift_eq] at hfit
  obtain ⟨c₁, e₁, rfl, -, hfits⟩ := fit_sound (by decide) hfit
  obtain rfl := hf.unique hfits
  obtain ⟨d₂, habs, h⟩ := bind_eq_ok h
  obtain ⟨c₂, e₂, rfl, hvalue⟩ := abs_sound (hf.again (by decide)) habs
  obtain ⟨d₃, hnormalize, h⟩ := bind_eq_ok h
  obtain rfl := Except.ok.inj h
  obtain ⟨c₃, e₃, rfl, -, -, hfits₃⟩ := normalize_sound hnormalize
  rw [hvalue] at hfits₃
  exact ⟨c₃, e₃, rfl, hf.abs.eq_of_fits (by decide) hfits₃⟩

/-- A number is made ready unless it is beyond the range of exponents. -/
theorem exists_prepare (hf : Fits 28 ((finite s c e).value * 10 ^ (p.scale : ℤ)) f)
    (hsize : |f| < 10 ^ maxExponent) : ∃ r, p.prepare (finite s c e) = .ok r := by
  have hscaled : |(finite s c (e + p.scale)).value| < 10 ^ maxExponent := by
    rw [← value_mul_ten_zpow]
    exact hf.abs_lt (by decide) (by decide) hsize
  obtain ⟨d₁, hfit⟩ := exists_fit defaultPrecision hscaled
  rw [value_mul_ten_zpow] at hf
  obtain ⟨c₁, e₁, rfl, -, hfits⟩ := fit_sound (by decide) hfit
  rw [← shift_eq] at hfit
  obtain rfl := hf.unique hfits
  obtain ⟨c₂, e₂, habs, hvalue⟩ := exists_abs (hf.again (by decide)) hsize
  obtain ⟨d₃, hnormalize⟩ := exists_normalize (c := c₂) (e := e₂) (by rwa [hvalue, abs_abs])
  exact ⟨_, by simp only [prepare, hfit, habs, hnormalize, bind, Except.bind]; rfl⟩

/-! ### Applying a pattern -/

/-- A pattern that neither asks for scientific notation nor counts significant digits, with plain
text on one side of the number. -/
structure Positional (p : NumberPattern) : Prop where
  exponent : p.exponent = none
  source : '@' ∉ p.source
  oneSided : p.OneSided

instance (p : NumberPattern) : Decidable p.Positional :=
  decidable_of_iff (p.exponent = none ∧ '@' ∉ p.source ∧ p.OneSided)
    ⟨fun ⟨h₁, h₂, h₃⟩ ↦ ⟨h₁, h₂, h₃⟩, fun h ↦ ⟨h.1, h.2, h.3⟩⟩

/-- The fraction digits that are written: those of the currency, or those of the pattern. -/
def placesOf (p : NumberPattern) (money : Option Money) : DigitRange :=
  match money.bind Money.places with
  | some n => ⟨n, n⟩
  | none => p.places

/-- The text of a numeral with a sign. -/
def textOf (p : NumberPattern) (money : Option Money) (negative : Bool) (numeral : List Char) :
    List Char :=
  affix money (if negative then p.before.2 else p.before.1) ++
    (if p.number.isEmpty then [] else numeral) ++
      affix money (if negative then p.after.2 else p.after.1)

/-- Applying a pattern writes the number that was made ready. -/
theorem apply_eq (money : Option Money) (natural : Bool) (d : Decimal) :
    p.apply y money natural d = p.prepare d >>= fun r ↦
      p.writeNumber y (p.placesOf money) natural r.2 >>= fun numeral ↦
        let text := substitute money ((if r.1 then p.before.2 else p.before.1) ++
          (if p.number.isEmpty then [] else numeral) ++ if r.1 then p.after.2 else p.after.1)
        .ok (String.ofList (unquote text.length text)) := by
  unfold apply prepare
  cases d.shift p.scale with
  | error f => rfl
  | ok d =>
    simp only [bind, Except.bind]
    cases d.abs with
    | error f => rfl
    | ok a =>
      dsimp only
      cases a.normalize <;> cases money <;> rfl

theorem text_eq (hp : p.OneSided) {numeral : List Char} (hnumeral : Inert numeral) (s : Bool)
    {text : List Char}
    (htext : text = substitute money ((if s then p.before.2 else p.before.1) ++
      (if p.number.isEmpty then [] else numeral) ++ if s then p.after.2 else p.after.1)) :
    unquote text.length text = p.textOf money s numeral := by
  refine unquote_around ?_ ?_ htext
  · split
    · exact fun c hc ↦ absurd hc List.not_mem_nil
    · exact hnumeral
  · refine hp.imp (fun h c hc ↦ h c ?_) (fun h c hc ↦ h c ?_) <;>
    · rw [List.mem_append]
      split at hc <;> simp [hc]

theorem writeNumber_eq (hp : p.Positional) (range : DigitRange) (d : Decimal) :
    p.writeNumber y range false d = p.writeRounded y range d := by
  unfold writeNumber
  rw [hp.exponent]
  simp only [Bool.false_eq_true, if_false, pure_bind, if_neg hp.source]

theorem exists_of_writeRounded {range : DigitRange} {numeral : List Char}
    (h : p.writeRounded y range (finite false c e) = .ok numeral) :
    ∃ r, (finite false c e).quantize 28 .toEven (-(range.max : ℤ)) = .ok r := by
  unfold writeRounded at h
  simp only [isInfinite, Bool.false_eq_true, if_false, bind, Except.bind] at h
  cases hquantize : (finite false c e).quantize defaultPrecision .toEven (-(range.max : ℤ)) with
  | error g => simp [hquantize] at h
  | ok r => exact ⟨r, hquantize⟩

theorem exists_of_apply {natural : Bool} {d : Decimal} {text : String}
    (h : p.apply y money natural d = .ok text) : ∃ r, p.prepare d = .ok r ∧
      ∃ numeral, p.writeNumber y (p.placesOf money) natural r.2 = .ok numeral := by
  rw [apply_eq] at h
  obtain ⟨r, hprepare, h⟩ := bind_eq_ok h
  obtain ⟨numeral, hwrite, -⟩ := bind_eq_ok h
  exact ⟨r, hprepare, numeral, hwrite⟩

/-- A pattern with a place for the number shows it. -/
theorem shows_of_textOf (hnumber : p.number ≠ []) {numeral : List Char} {text : String}
    (htext : text.toList = p.textOf money s numeral) (hread : y.read? numeral = some |z|)
    (hsign : z = if s then -|z| else |z|) : p.Shows y money text z := by
  have hwritten : p.number.isEmpty = false := by simpa using hnumber
  refine ⟨s, numeral, ?_, hread, hsign⟩
  simp only [htext, textOf, hwritten, Bool.false_eq_true, if_false]

/-- A rounded number has the sign of the number, or is zero. -/
theorem signed_of_rounded {step : ℚ} (hstep : 0 < step) {tie : Tie} {k : ℤ}
    (hf : Fits 28 ((finite s c e).value * 10 ^ k) f) (hz : Rounded tie step f z) :
    z = if s then -|z| else |z| := by
  have hnonneg {c : ℕ} {f z : ℚ} (hf : Fits 28 ((finite false c e).value * 10 ^ k) f)
      (hz : Rounded tie step f z) : 0 ≤ z := by
    refine hz.nonneg hstep ?_
    have hvalue : 0 ≤ (finite false c e).value * 10 ^ k := by
      rw [value_finite]
      simp only [Bool.false_eq_true, if_false]
      positivity
    rcases hf with ⟨-, rfl⟩ | ⟨k', hk', hround⟩
    · exact le_rfl
    · exact hround.nonneg (ten_zpow_pos _) hvalue
  cases s with
  | false => exact (abs_of_nonneg (hnonneg hf hz)).symm
  | true =>
    have hneg : (finite false c e).value = -(finite true c e).value := by
      rw [value_finite, value_finite]
      simp
    have hf' : Fits 28 ((finite false c e).value * 10 ^ k) (-f) := by
      rw [hneg, neg_mul]
      exact hf.neg
    have := hnonneg hf' hz.neg
    rw [if_pos rfl, abs_of_nonpos (by linarith), neg_neg]

section Apply

variable {c' : ℕ} {e' : ℤ} {natural : Bool} {range : DigitRange} (hp : p.Positional)
  (hy : y.isClear = true) (hprepare : p.prepare (finite s c e) = .ok (s, finite false c' e'))
  (hvalue : (finite false c' e').value = |f|)
  (hwrite : p.writeNumber y (p.placesOf money) natural (finite false c' e') =
    p.writeRounded y range (finite false c' e'))
  (hf : Fits 28 ((finite s c e).value * 10 ^ (p.scale : ℤ)) f)
  (hz : Rounded .toEven (10 ^ (-(range.max : ℤ))) f z)

include hp hy hprepare hvalue hwrite hf hz

/-- A text has a numeral of the number, rounded to the places that are written. -/
theorem exists_numeral {text : String} (h : p.apply y money natural (finite s c e) = .ok text) :
    |z| < 10 ^ (28 - (range.max : ℤ)) ∧ minExponent - 27 ≤ -(range.max : ℤ) ∧
      ∃ numeral, text.toList = p.textOf money s numeral ∧ y.read? numeral = some |z| ∧
        z = if s then -|z| else |z| := by
  have hstep := ten_zpow_pos (-(range.max : ℤ))
  rw [apply_eq] at h
  obtain ⟨r, hprepare', h⟩ := bind_eq_ok h
  obtain rfl := Except.ok.inj (hprepare.symm.trans hprepare')
  obtain ⟨numeral, hwritten, h⟩ := bind_eq_ok h
  have hrounded := hwrite.symm.trans hwritten
  obtain ⟨q, hquantize⟩ := exists_of_writeRounded hrounded
  obtain ⟨hleast, -, m, rfl, hround, hdigits⟩ := quantize_sound hquantize
  rw [hvalue] at hround
  have hsize := hround.unique hstep (hz.abs hstep)
  obtain ⟨numeral', hrounded', hread, hinert⟩ := writeRounded_of_quantize (p := p) hy hquantize
  obtain rfl := Except.ok.inj (hrounded'.symm.trans hrounded)
  dsimp only at h
  rw [text_eq hp.oneSided hinert s rfl] at h
  obtain rfl := Except.ok.inj h
  rw [hsize, abs_abs] at hdigits
  refine ⟨?_, by omega, numeral', String.toList_ofList, by rw [hread, hsize],
    signed_of_rounded hstep hf hz⟩
  rwa [room_eq]

omit hp hf in
/-- There is a text if the rounded number has at most 28 digits. -/
theorem exists_text (hsize : |z| < 10 ^ (28 - (range.max : ℤ)))
    (hleast : minExponent - 27 ≤ -(range.max : ℤ)) :
    ∃ text, p.apply y money natural (finite s c e) = .ok text := by
  have hstep := ten_zpow_pos (-(range.max : ℤ))
  have hround := hz.abs hstep
  rw [← hvalue] at hround
  obtain ⟨m, hquantize, -⟩ := quantize_eq_ok (p := 28) hround (by decide) (by omega)
    (by unfold maxExponent; omega) (by
      rw [abs_abs]
      rwa [← room_eq])
    (by
      rw [abs_abs]
      exact hsize.trans_le (ten_zpow_le (by unfold maxExponent; omega)))
  obtain ⟨numeral, hrounded, -⟩ := writeRounded_of_quantize (p := p) hy hquantize
  have happly := apply_eq (p := p) (y := y) money natural (finite s c e)
  simp only [hprepare, bind, Except.bind, hwrite, hrounded] at happly
  exact ⟨_, happly⟩

end Apply

section Rounding

variable (hp : p.Positional) (hy : y.isClear = true)
  (hf : Fits 28 ((finite s c e).value * 10 ^ (p.scale : ℤ)) f)
  (hz : Rounded .toEven (10 ^ (-((p.placesOf money).max : ℤ))) f z)

include hp hy hf hz

/-- A number that a pattern is applied to is shown rounded to the places of the pattern. -/
theorem shows_of_apply {text : String} (hnumber : p.number ≠ [])
    (h : p.apply y money false (finite s c e) = .ok text) :
    |z| < 10 ^ (28 - ((p.placesOf money).max : ℤ)) ∧
      minExponent - 27 ≤ -((p.placesOf money).max : ℤ) ∧ p.Shows y money text z := by
  obtain ⟨r, hprepare, -⟩ := exists_of_apply h
  obtain ⟨c', e', rfl, hvalue⟩ := prepare_sound hf hprepare
  obtain ⟨hsize, hleast, numeral, htext, hread, hsign⟩ :=
    exists_numeral hp hy hprepare hvalue (writeNumber_eq hp _ _) hf hz h
  exact ⟨hsize, hleast, shows_of_textOf hnumber htext hread hsign⟩

/-- There is a text for every number whose rounding has at most 28 digits. -/
theorem exists_apply (hsize : |z| < 10 ^ (28 - ((p.placesOf money).max : ℤ)))
    (hleast : minExponent - 27 ≤ -((p.placesOf money).max : ℤ)) :
    ∃ text, p.apply y money false (finite s c e) = .ok text := by
  -- what is rounded to few digits does not have many of them
  have hfew : |f| < 10 ^ maxExponent := by
    by_contra hle
    refine absurd (hz.le_abs (by unfold maxExponent; omega) (not_lt.1 hle)) (not_le.2 ?_)
    exact hsize.trans_le (ten_zpow_le (by unfold maxExponent; omega))
  obtain ⟨r, hprepare⟩ := exists_prepare hf hfew
  obtain ⟨c', e', rfl, hvalue⟩ := prepare_sound hf hprepare
  exact exists_text hy hprepare hvalue (writeNumber_eq hp _ _) hz hsize hleast

end Rounding

/-! ### All digits of a number -/

theorem naturalPlaces_sound {n : ℕ} {x : ℚ} (hx : Fits 28 x x)
    (hvalue : (finite false c e).value = x) (h : naturalPlaces (finite false c e) = .ok n) :
    (∃ i : ℤ, x = i * 10 ^ (-(n : ℤ))) ∧ (n ≠ 0 → |x| < 10 ^ (28 - (n : ℤ))) ∧
      minExponent - 27 ≤ -(n : ℤ) := by
  obtain ⟨d, hnormalize, h⟩ := bind_eq_ok h
  obtain ⟨c', e', rfl, hdigits, hleast, hfits⟩ := normalize_sound hnormalize
  obtain rfl := Except.ok.inj h
  rw [hvalue] at hfits
  obtain rfl := hx.unique hfits
  refine ⟨exists_value_eq (by omega) false c', fun hn ↦ ?_, ?_⟩
  · rw [show (28 : ℤ) - ((-e').toNat : ℤ) = e' + (28 : ℕ) by omega]
    exact abs_value_lt hdigits
  · unfold minExponent at *
    omega

theorem exists_naturalPlaces (h : |(finite false c e).value| < 10 ^ maxExponent) :
    ∃ n, naturalPlaces (finite false c e) = .ok n := by
  obtain ⟨d, hd⟩ := exists_normalize h
  unfold naturalPlaces
  simp only [hd, bind, Except.bind]
  split <;> exact ⟨_, rfl⟩

theorem writeNumber_natural (hp : p.Positional) (range : DigitRange) {d : Decimal} {n : ℕ}
    (h : naturalPlaces d = .ok n) : p.writeNumber y range true d =
      p.writeRounded y ⟨range.min, max range.max n⟩ d := by
  unfold writeNumber widen
  rw [hp.exponent]
  simp only [if_true, h, Except.map, bind, Except.bind, if_neg hp.source]

theorem natural_of_writeNumber (hp : p.Positional) {range : DigitRange} {d : Decimal}
    {numeral : List Char} (h : p.writeNumber y range true d = .ok numeral) :
    ∃ n, naturalPlaces d = .ok n := by
  cases hn : naturalPlaces d with
  | ok n => exact ⟨n, rfl⟩
  | error g =>
    unfold writeNumber widen at h
    rw [hp.exponent] at h
    simp [hn, Except.map, bind, Except.bind] at h

section Natural

variable (hp : p.Positional) (hy : y.isClear = true)
  (hf : Fits 28 ((finite s c e).value * 10 ^ (p.scale : ℤ)) f)

include hf in
/-- The places of a number that was made ready have all its digits. -/
theorem rounded_natural {c' n : ℕ} {e' : ℤ} (hvalue : (finite false c' e').value = |f|)
    (hn : naturalPlaces (finite false c' e') = .ok n) (least : ℕ) :
    Rounded .toEven (10 ^ (-(max least n : ℕ) : ℤ)) f f ∧ minExponent - 27 ≤ -(n : ℤ) ∧
      (|f| < 10 ^ (28 - (max least n : ℕ) : ℤ) ↔ |f| < 10 ^ (28 - (least : ℤ))) := by
  obtain ⟨⟨i, hi⟩, hdigits, hplaces⟩ :=
    naturalPlaces_sound (hf.again (by decide)).abs hvalue hn
  rw [abs_abs] at hdigits
  obtain ⟨j, hj⟩ : ∃ j : ℤ, f = j * 10 ^ (-(max least n : ℕ) : ℤ) := by
    obtain ⟨j, hj⟩ := exists_ten_zpow_eq (by omega : (-(max least n : ℕ) : ℤ) ≤ -(n : ℤ))
    rw [hj] at hi
    rcases abs_choice f with h | h
    · exact ⟨i * j, by rw [← h, hi]; push_cast; ring⟩
    · exact ⟨-(i * j), by rw [← neg_neg f, ← h, hi]; push_cast; ring⟩
  refine ⟨?_, hplaces, fun h ↦ h.trans_le (ten_zpow_le (by omega)), fun h ↦ ?_⟩
  · have hself := Rounded.self (ten_zpow_pos (-(max least n : ℕ) : ℤ)) .toEven j
    rwa [← hj] at hself
  · rcases le_total n least with hle | hle
    · rwa [max_eq_left hle]
    · rw [max_eq_right hle]
      by_cases hzero : n = 0
      · obtain rfl : least = 0 := by omega
        rwa [hzero]
      · exact hdigits hzero

include hp hy hf

/-- With all its digits, a number is shown as decimal arithmetic has it. A pattern without a place
for the number has a text without it. -/
theorem numeral_of_natural {text : String} (h : p.apply y money true (finite s c e) = .ok text) :
    |f| < 10 ^ (28 - ((p.placesOf money).max : ℤ)) ∧
      ∃ numeral, text.toList = p.textOf money s numeral ∧ y.read? numeral = some |f| ∧
        f = if s then -|f| else |f| := by
  obtain ⟨r, hprepare, numeral, hwrite⟩ := exists_of_apply h
  obtain ⟨c', e', rfl, hvalue⟩ := prepare_sound hf hprepare
  obtain ⟨n, hn⟩ := natural_of_writeNumber hp hwrite
  obtain ⟨hround, -, hiff⟩ := rounded_natural hf hvalue hn (p.placesOf money).max
  obtain ⟨hsize, -, htext⟩ :=
    exists_numeral hp hy hprepare hvalue (writeNumber_natural hp _ hn) hf hround h
  exact ⟨hiff.1 hsize, htext⟩

/-- There is such a text for every number with few enough digits before its point. -/
theorem exists_natural (hsize : |f| < 10 ^ (28 - ((p.placesOf money).max : ℤ)))
    (hleast : minExponent - 27 ≤ -((p.placesOf money).max : ℤ)) :
    ∃ text, p.apply y money true (finite s c e) = .ok text := by
  have hfew : |f| < 10 ^ maxExponent :=
    hsize.trans_le (ten_zpow_le (by unfold maxExponent; omega))
  obtain ⟨r, hprepare⟩ := exists_prepare hf hfew
  obtain ⟨c', e', rfl, hvalue⟩ := prepare_sound hf hprepare
  obtain ⟨n, hn⟩ := exists_naturalPlaces (c := c') (e := e') (by rwa [hvalue, abs_abs])
  obtain ⟨hround, hplaces, hiff⟩ := rounded_natural hf hvalue hn (p.placesOf money).max
  exact exists_text hy hprepare hvalue (writeNumber_natural hp _ hn) hround (hiff.2 hsize)
    (by dsimp only; omega)

end Natural

end NumberPattern

end Phrasebook
