import Phrasebook.Locale.PluralCategory
import Phrasebook.Proofs.Doubles

/-!
Where operations on the number of a message fail.

A whole number has a category unless it is too large for a double, a double always has one, and a
decimal number has one unless it has more than 28 digits before its point. Lowering by an offset
fails for a double when the offset is too large for one, and for a decimal number when the
difference is beyond the range.
-/

set_option autoImplicit false

namespace Phrasebook

open Arithmetic

/-! ### Computations and their faults -/

/-- Every fault of the computation is of a kind. -/
def FailsOnly {ε α : Type} (kind : ε → Prop) (x : Except ε α) : Prop :=
  ∀ f, x = .error f → kind f

namespace FailsOnly

variable {ε α β : Type} {kind : ε → Prop}

theorem ok (a : α) : FailsOnly kind (.ok a : Except ε α) := by
  intro f h
  cases h

theorem error {f : ε} (h : kind f) : FailsOnly kind (.error f : Except ε α) := by
  intro g hg
  rwa [← Except.error.inj hg]

theorem bind {x : Except ε α} {f : α → Except ε β} (hx : FailsOnly kind x)
    (hf : ∀ a, x = .ok a → FailsOnly kind (f a)) : FailsOnly kind (x >>= f) := by
  cases x with
  | error e => exact error (hx e rfl)
  | ok a => exact hf a rfl

theorem map {x : Except ε α} (f : α → β) (hx : FailsOnly kind x) : FailsOnly kind (x.map f) := by
  cases x with
  | error e => exact error (hx e rfl)
  | ok a => exact ok (f a)

theorem mapError {ε' : Type} {kind' : ε' → Prop} {x : Except ε α} {f : ε → ε'}
    (hx : FailsOnly kind x) (hf : ∀ e, kind e → kind' (f e)) : FailsOnly kind' (x.mapError f) := by
  cases x with
  | error e => exact error (hf e (hx e rfl))
  | ok a => exact ok a

theorem ite {c : Prop} [Decidable c] {x y : Except ε α} (hx : FailsOnly kind x)
    (hy : FailsOnly kind y) : FailsOnly kind (if c then x else y) := by
  split
  · exact hx
  · exact hy

end FailsOnly

/-! ### Lowering -/

namespace Number

/-- A whole number becomes a double unless it is too large. -/
theorem ofIntExact_cases (n : Int) :
    (Binary64.bound ≤ n.natAbs ∧ ofIntExact n = .error .tooLarge) ∨
      n.natAbs < Binary64.bound ∧ ∃ x, ofIntExact n = .ok x := by
  have hiff := Binary64.ofInt_eq_infinite_iff n
  unfold ofIntExact
  split
  · rename_i s hs
    exact .inl ⟨hiff.1 ⟨s, hs⟩, rfl⟩
  · rename_i x hx
    refine .inr ⟨?_, _, rfl⟩
    by_contra hle
    obtain ⟨s, hs⟩ := hiff.2 (Nat.not_lt.1 hle)
    exact hx s hs

/-- A double cannot be lowered by a whole number that is too large for a double. -/
theorem lower_binary (x : Binary64) (n : Int) :
    (Binary64.bound ≤ n.natAbs ∧ (binary x).lower n = .error .tooLarge) ∨
      n.natAbs < Binary64.bound ∧ ∃ y, (binary x).lower n = .ok (.binary y) := by
  unfold lower
  rcases ofIntExact_cases n with ⟨hlarge, hn⟩ | ⟨hsmall, y, hn⟩
  · rw [hn]
    exact .inl ⟨hlarge, rfl⟩
  · rw [hn]
    exact .inr ⟨hsmall, _, rfl⟩

/-- A defined decimal number is lowered to a defined one unless the difference is beyond the
range. -/
theorem lower_decimal {d : Decimal} (hd : d.isNaN = false) (n : Int) :
    (d.subInt n = .error .overflow ∧ (decimal d).lower n = .error (.decimal .overflow)) ∨
      ∃ d', d.subInt n = .ok d' ∧ d'.isNaN = false ∧ (decimal d).lower n = .ok (.decimal d') := by
  rcases Decimal.subInt_cases hd n with ⟨d', hsub, hd'⟩ | hsub
  · exact .inr ⟨d', hsub, hd', by simp only [lower, hsub]⟩
  · exact .inl ⟨hsub, by simp only [lower, hsub]⟩

/-- Why a defined number cannot be lowered. -/
theorem lower_eq_error_iff {n : Number} (hn : n.isNaN = false) {offset : Int} {f : Fault} :
    n.lower offset = .error f ↔
      (∃ x, n = .binary x ∧ Binary64.bound ≤ offset.natAbs ∧ f = .tooLarge) ∨
      ∃ d, n = .decimal d ∧ d.subInt offset = .error .overflow ∧ f = .decimal .overflow := by
  cases n with
  | integer i => simp [lower]
  | binary x =>
    rcases lower_binary x offset with ⟨hlarge, hx⟩ | ⟨hsmall, y, hx⟩
    · simp [hx, hlarge, eq_comm]
    · simp [hx, Nat.not_le.2 hsmall]
  | decimal d =>
    rcases lower_decimal hn offset with ⟨hsub, hd⟩ | ⟨d', hsub, -, hd⟩
    · simp [hd, hsub, eq_comm]
    · simp [hd, hsub]

end Number

/-! ### Plural rules -/

namespace Decimal

/-- A remainder fails only for a quotient with too many digits. -/
theorem failsOnly_modNat (c : Nat) (e : Int) (m : Nat) :
    FailsOnly (· = Fault.invalidOperation) (modNat c e m) :=
  .ite (.ok _) (.ite (.error rfl) (.ite (.ite (.error rfl) (.ok _)) (.ite (.error rfl) (.ok _))))

/-- The absolute value of a defined number less than `10 ^ 999999` in size. -/
theorem abs_cases {d : Decimal} (hd : d.isNaN = false) (h : d.Within maxExponent) :
    d.abs = .ok (.infinite false) ∨ ∃ t c e, d.abs = .ok (.finite t c e) ∧
      ∀ k, d.Within k → (Decimal.finite t c e).Within (k + 1) := by
  cases d with
  | nan => cases hd
  | infinite s => exact .inl rfl
  | finite s c e =>
    rcases fit_cases defaultPrecision false c e with ⟨t, c', e', hfit, hsize⟩ | ⟨-, hlarge⟩
    · exact .inr ⟨t, c', e', hfit, hsize⟩
    · exact absurd h hlarge

end Decimal

namespace Plural

/-- The number is zero, a whole number, or one whose whole part has no more digits than are kept. -/
def Operands.Small (o : Operands) : Prop :=
  o.exponent = 0 ∨ o.coefficient = 0 ∨
    o.exponent + decimalLength o.coefficient ≤ Decimal.defaultPrecision

section Rules

variable {o : Operands}

theorem Relation.exists_holds (r : Relation) (h : o.Small) : ∃ b, r.holds o = .ok b := by
  have hmod (m : Nat) (he : o.exponent ≠ 0) :
      ∃ q, Decimal.modNat o.coefficient o.exponent m = .ok q :=
    Decimal.exists_modNat (h.resolve_left he) m
  unfold holds
  dsimp only
  cases r.operand with
  | n =>
    cases r.modulus with
    | none => exact ⟨_, rfl⟩
    | some m =>
      dsimp only
      by_cases he : o.exponent = 0
      · rw [if_pos he]
        exact ⟨_, rfl⟩
      · obtain ⟨q, hq⟩ := hmod m he
        rw [if_neg he, hq]
        exact ⟨_, rfl⟩
  | _ => exact ⟨_, rfl⟩

theorem exists_allHold (h : o.Small) (rs : List Relation) : ∃ b, allHold o rs = .ok b := by
  induction rs with
  | nil => exact ⟨true, rfl⟩
  | cons r rs ih =>
    obtain ⟨b, hb⟩ := r.exists_holds h
    rw [allHold, hb]
    cases b with
    | true => exact ih
    | false => exact ⟨false, rfl⟩

theorem exists_anyHolds (h : o.Small) (cs : List (List Relation)) :
    ∃ b, anyHolds o cs = .ok b := by
  induction cs with
  | nil => exact ⟨false, rfl⟩
  | cons c cs ih =>
    obtain ⟨b, hb⟩ := exists_allHold h c
    rw [anyHolds, hb]
    cases b with
    | true => exact ⟨true, rfl⟩
    | false => exact ih

/-- The rules have a category for a number that is small. -/
theorem Rules.exists_select (h : o.Small) (rules : Rules) : ∃ p, rules.select o = .ok p := by
  induction rules with
  | nil => exact ⟨.other, rfl⟩
  | cons r rs ih =>
    obtain ⟨b, hb⟩ := exists_anyHolds h r.2
    rw [select, hb]
    cases b with
    | true => exact ⟨r.1, rfl⟩
    | false => exact ih

/-- Rules fail only for a remainder that has none. -/
theorem Rules.failsOnly_select (o : Operands) (rules : Rules) :
    FailsOnly (· = Decimal.Fault.invalidOperation) (rules.select o) := by
  have hholds (r : Relation) : FailsOnly (· = Decimal.Fault.invalidOperation) (r.holds o) := by
    unfold Relation.holds
    refine .map _ ?_
    cases r.operand with
    | n =>
      cases r.modulus with
      | none => exact .ok _
      | some m => exact .ite (.ok _) (.map _ (Decimal.failsOnly_modNat _ _ m))
    | _ => exact .ok _
  have hall (rs : List Relation) :
      FailsOnly (· = Decimal.Fault.invalidOperation) (allHold o rs) := by
    induction rs with
    | nil => exact .ok _
    | cons r rs ih => exact .bind (hholds r) fun _ _ ↦ .ite ih (.ok _)
  have hany (cs : List (List Relation)) :
      FailsOnly (· = Decimal.Fault.invalidOperation) (anyHolds o cs) := by
    induction cs with
    | nil => exact .ok _
    | cons c cs ih => exact .bind (hall c) fun _ _ ↦ .ite (.ok _) ih
  induction rules with
  | nil => exact .ok _
  | cons r rs ih => exact .bind (hany r.2) fun _ _ ↦ .ite (.ok _) ih

end Rules

/-! ### The category of a number -/

theorem exists_ofFinite {n : Number} {o : Operands} (ho : Operands.ofNumber n = .ok o)
    (h : o.Small) (rules : Rules) : ∃ p, ofFinite rules n = .ok p := by
  rw [ofFinite, ho]
  exact Rules.exists_select h _

theorem exists_ofFinite_integer (rules : Rules) (n : Int) :
    ∃ p, ofFinite rules (.integer n) = .ok p :=
  exists_ofFinite rfl (.inl rfl) rules

/-- The operands of a decimal number have its coefficient and its exponent. -/
theorem ofDecimal_eq (c : Nat) (e : Int) :
    (Operands.ofDecimal c e).coefficient = c ∧ (Operands.ofDecimal c e).exponent = e := by
  unfold Operands.ofDecimal
  dsimp only
  repeat' split
  all_goals exact ⟨rfl, rfl⟩

theorem small_ofDecimal {s : Bool} {c : Nat} {e : Int}
    (h : (Decimal.finite s c e).Within Decimal.defaultPrecision) :
    (Operands.ofDecimal c e).Small := by
  obtain ⟨hc, he⟩ := ofDecimal_eq c e
  rw [Operands.Small, hc, he]
  exact .inr h

/-- A finite double has a category by all rules. -/
theorem exists_ofFinite_binary (rules : Rules) {x : Binary64} (hx : x.isFinite = true) :
    ∃ p, ofFinite rules (.binary x) = .ok p := by
  cases hwhole : x.toInt? with
  | some n =>
    refine exists_ofFinite (o := .ofNat n.natAbs) ?_ (.inl rfl) rules
    rw [Operands.ofNumber, hwhole]
  | none =>
    obtain ⟨s, c, e, hd, hsize⟩ := Binary64.ofBinary64_of_toInt?_eq_none hx hwhole
    have hwithin : (Decimal.finite s c e).Within Decimal.defaultPrecision :=
      hsize.imp_right fun h ↦ Int.le_trans h (by decide)
    refine exists_ofFinite ?_ (small_ofDecimal hwithin) rules
    rw [Operands.ofNumber, hwhole, hd]

section Decimal

variable {d : Decimal}

theorem failsOnly_ofFinite_decimal (hd : d.isNaN = false) (h : d.Within Decimal.maxExponent)
    (rules : Rules) :
    FailsOnly (· = Decimal.Fault.invalidOperation) (ofFinite rules (.decimal d)) := by
  refine .bind ?_ fun o _ ↦ Rules.failsOnly_select o _
  rcases Decimal.abs_cases hd h with habs | ⟨t, c, e, habs, -⟩
  · rw [Operands.ofNumber, habs]
    exact .ok _
  · rw [Operands.ofNumber, habs]
    exact .ok _

end Decimal

section Book

variable {book : LocaleBook}

/-- The category of a finite number that has a double next to it: by the rules of the locale, or by
comparison with one. -/
theorem ofNumber_of_toBinary64 {n : Number} {x : Binary64} (hx : n.toBinary64 = .ok x)
    (tag : String) (kind : PluralKind) :
    ofNumber n tag kind book = if x.isFinite = true then
        match Locale.ofTag? tag, kind with
        | some locale, _ => (ofFinite ((book.data locale).plurals kind) n).mapError .decimal
        | none, .ordinal => .ok .other
        | none, .cardinal =>
          ((isUnit n).map fun b ↦ if b then Plural.one else .other).mapError .decimal
      else .ok .other := by
  unfold ofNumber
  rw [hx]
  cases hfinite : x.isFinite with
  | false => simp [bind, Except.bind, hfinite, pure, Except.pure]
  | true =>
    cases Locale.ofTag? tag with
    | some locale => simp [bind, Except.bind, hfinite]
    | none => cases kind <;> simp [bind, Except.bind, hfinite, Except.mapError]

theorem exists_ofNumber {n : Number} {x : Binary64} (hx : n.toBinary64 = .ok x) (tag : String)
    (kind : PluralKind) (hrules : x.isFinite = true → ∀ rules, ∃ p, ofFinite rules n = .ok p)
    (hunit : x.isFinite = true → ∃ b, isUnit n = .ok b) :
    ∃ p, ofNumber n tag kind book = .ok p := by
  rw [ofNumber_of_toBinary64 hx]
  split
  · rename_i hfinite
    cases Locale.ofTag? tag with
    | some locale =>
      obtain ⟨p, hp⟩ := hrules hfinite ((book.data locale).plurals kind)
      exact ⟨p, congrArg (Except.mapError Number.Fault.decimal) hp⟩
    | none =>
      obtain ⟨b, hb⟩ := hunit hfinite
      cases kind with
      | ordinal => exact ⟨.other, rfl⟩
      | cardinal => exact ⟨if b then .one else .other, by rw [hb]; rfl⟩
  · exact ⟨.other, rfl⟩

/-- A whole number has a category unless it is too large for a double. -/
theorem ofNumber_integer (n : Int) (tag : String) (kind : PluralKind) (book : LocaleBook) :
    (Binary64.bound ≤ n.natAbs ∧ ofNumber (.integer n) tag kind book = .error .tooLarge) ∨
      n.natAbs < Binary64.bound ∧ ∃ p, ofNumber (.integer n) tag kind book = .ok p := by
  rcases Number.ofIntExact_cases n with ⟨hlarge, hn⟩ | ⟨hsmall, x, hn⟩
  · refine .inl ⟨hlarge, ?_⟩
    unfold ofNumber
    rw [Number.toBinary64, hn]
    rfl
  · exact .inr ⟨hsmall, exists_ofNumber (n := .integer n) hn tag kind
      (fun _ rules ↦ exists_ofFinite_integer rules n) fun _ ↦ ⟨_, rfl⟩⟩

/-- A double has a category. -/
theorem exists_ofNumber_binary (x : Binary64) (tag : String) (kind : PluralKind)
    (book : LocaleBook) :
    ∃ p, ofNumber (.binary x) tag kind book = .ok p :=
  exists_ofNumber rfl tag kind (fun hx rules ↦ exists_ofFinite_binary rules hx)
    fun _ ↦ ⟨_, rfl⟩

section Decimal

variable {d : Decimal}

theorem toBinary64_decimal (hd : d.isNaN = false) :
    (Number.decimal d).toBinary64 = .ok d.toBinary64 := by
  cases d with
  | nan => cases hd
  | _ => rfl

/-- A decimal number that is a finite double is far from the end of the range. -/
theorem within_of_isFinite (hd : d.toBinary64.isFinite = true) : d.Within 310 := by
  cases d with
  | nan => trivial
  | infinite s => trivial
  | finite s c e =>
    unfold Decimal.toBinary64 at hd
    dsimp only at hd
    by_cases hc : c = 0
    · exact .inl hc
    · refine .inr ?_
      by_contra hlarge
      rw [if_neg hc, if_pos (by omega)] at hd
      cases hd

theorem exists_isUnit (hd : d.isNaN = false) (h : d.Within Decimal.maxExponent) :
    ∃ b, isUnit (.decimal d) = .ok b := by
  rcases Decimal.abs_cases hd h with habs | ⟨t, c, e, habs, -⟩
  all_goals
    rw [isUnit, habs]
    exact ⟨_, rfl⟩

/-- A decimal number has a category unless a remainder by a modulus of the rules has none. -/
theorem failsOnly_ofNumber_decimal (hd : d.isNaN = false) (tag : String) (kind : PluralKind)
    (book : LocaleBook) :
    FailsOnly (· = Number.Fault.decimal .invalidOperation)
      (ofNumber (.decimal d) tag kind book) := by
  rw [ofNumber_of_toBinary64 (toBinary64_decimal hd)]
  split
  · rename_i hfinite
    have hmax : d.Within Decimal.maxExponent := (within_of_isFinite hfinite).mono (by decide)
    cases Locale.ofTag? tag with
    | some locale =>
      exact .mapError (failsOnly_ofFinite_decimal hd hmax _) fun _ hf ↦ congrArg _ hf
    | none =>
      obtain ⟨b, hb⟩ := exists_isUnit hd hmax
      cases kind with
      | ordinal => exact .ok _
      | cardinal =>
        rw [hb]
        exact .ok _
  · exact .ok _

end Decimal

/-- Why a defined number that has been lowered has no category. -/
theorem ofNumber_lowered_eq_error_iff {n lowered : Number} (hn : n.isNaN = false) {offset : Int}
    (hlower : n.lower offset = .ok lowered) {tag : String} {kind : PluralKind}
    {f : Number.Fault} : ofNumber lowered tag kind book = .error f ↔
      (∃ i, n = .integer i ∧ Binary64.bound ≤ (i - offset).natAbs ∧ f = .tooLarge) ∨
      ∃ d d', n = .decimal d ∧ d.subInt offset = .ok d' ∧
        ofNumber (.decimal d') tag kind book = .error (.decimal .invalidOperation) ∧
        f = .decimal .invalidOperation := by
  cases n with
  | integer i =>
    obtain rfl := Except.ok.inj hlower
    rcases ofNumber_integer (i - offset) tag kind book with ⟨hlarge, hi⟩ | ⟨hsmall, p, hi⟩
    · simp [hi, hlarge, eq_comm]
    · simp [hi, Nat.not_le.2 hsmall]
  | binary x =>
    rcases Number.lower_binary x offset with ⟨-, hx⟩ | ⟨-, y, hx⟩
    · rw [hx] at hlower
      cases hlower
    · obtain rfl := Except.ok.inj (hx.symm.trans hlower)
      obtain ⟨p, hp⟩ := exists_ofNumber_binary y tag kind book
      simp [hp]
  | decimal d =>
    rcases Number.lower_decimal hn offset with ⟨-, hd⟩ | ⟨d', hsub, hd', hd⟩
    · rw [hd] at hlower
      cases hlower
    · obtain rfl := Except.ok.inj (hd.symm.trans hlower)
      have hfails := failsOnly_ofNumber_decimal hd' tag kind book
      constructor
      · intro h
        obtain rfl := hfails f h
        exact .inr ⟨d, d', rfl, hsub, h, rfl⟩
      · rintro (⟨i, hi, -⟩ | ⟨d₁, d₂, hd₁, hsub', hcategory, rfl⟩)
        · cases hi
        · obtain rfl := Number.decimal.inj hd₁
          obtain rfl := Except.ok.inj (hsub.symm.trans hsub')
          exact hcategory

end Book

end Plural

end Phrasebook
