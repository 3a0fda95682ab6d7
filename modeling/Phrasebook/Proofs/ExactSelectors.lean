import Mathlib.Data.List.Find
import Phrasebook.Proofs.Failures
import Phrasebook.Proofs.WholeDoubles

/-!
Selectors that name a whole number.

An equality sign and a numeral select by comparison with the double nearest to the numeral
(`Plural.isExact_integer`). A whole number of at most `2 ^ 53` is its own nearest double, so such a
selector takes its number and no other; beyond that a selector may take a neighbour of its number,
and a number that is no double is taken by none. `Scene.element_plural_integer` says which branch of
a plural argument is shown for a whole number, and when it is the one that is named.
-/

set_option autoImplicit false

namespace Phrasebook

open Arithmetic Text Message

/-! ### Numerals -/

namespace Grammar

theorem isDigit_of_takeDigits {s : List Char} {vs : List Nat} (h : takeDigits s = (vs, [])) :
    ∀ c ∈ s, isDigit c = true := by
  induction s generalizing vs with
  | nil => exact List.forall_mem_nil _
  | cons c s ih =>
    unfold takeDigits at h
    split at h
    · rename_i d hd
      have hc : isDigit c = true := by rw [isDigit, hd]; rfl
      exact List.forall_mem_cons.2 ⟨hc, ih (Prod.ext rfl (Prod.mk.inj h).2)⟩
    · cases h

theorem digits_of_takeDigits {s : List Char} {v : Nat} {vs : List Nat}
    (h : takeDigits s = (v :: vs, [])) : Digits s := by
  refine ⟨?_, isDigit_of_takeDigits h⟩
  rintro rfl
  cases h

/-- What is read as a whole number are digits, perhaps after a minus sign. -/
theorem exists_of_readInt? {s : List Char} {n : Int} (h : readInt? s = some n) :
    ∃ negative ds, Digits ds ∧ s = minus negative ++ ds ∧ n = signedValue negative ds := by
  obtain ⟨negative, ds, hds, rfl⟩ : ∃ negative ds, Digits ds ∧ s = minus negative ++ ds := by
    unfold readInt? at h
    dsimp only at h
    split at h
    · cases h
    · rename_i vs hne htake
      obtain ⟨v, vs, rfl⟩ := List.exists_cons_of_ne_nil hne
      have hds := digits_of_takeDigits htake
      split at hds
      · exact ⟨true, _, hds, rfl⟩
      · exact ⟨false, _, hds, rfl⟩
    · cases h
  rw [readInt?_digits hds, Option.some.injEq] at h
  exact ⟨negative, ds, hds, rfl, h.symm⟩

/-! ### The double of a numeral -/

section Numerals

variable {ds : List Char}

theorem ne_of_isDigit {c d : Char} (hc : isDigit c = true) (hd : isDigit d = false) : c ≠ d := by
  rintro rfl
  exact Bool.false_ne_true (hd.symm.trans hc)

theorem toLower_of_isDigit {c : Char} (h : isDigit c = true) : c.toLower = c := by
  unfold Char.toLower
  refine dif_neg fun hupper ↦ ?_
  have hlow : 65 ≤ c.toNat := UInt32.le_iff_toNat_le.1 hupper.1
  have hhigh : c.toNat ≤ 90 := UInt32.le_iff_toNat_le.1 hupper.2
  rw [isDigit, digitValue?, if_pos (by omega)] at h
  split at h
  · rename_i hdigit
    simp only [Char.isDigit, Bool.and_eq_true, decide_eq_true_eq, ge_iff_le,
      UInt32.le_iff_toNat_le] at hdigit
    have : c.toNat ≤ 57 := hdigit.2
    omega
  · cases h

/-- Digits are none of the words for special numbers. -/
theorem Digits.lowerAscii_ne (h : Digits ds) (word : String)
    (hword : ∀ c ∈ word.toList.head?, isDigit c = false) : lowerAscii ds ≠ word := by
  rintro rfl
  have hsame : ds.map Char.toLower = ds :=
    (List.map_congr_left fun c hc ↦ toLower_of_isDigit (h.2 c hc)).trans (List.map_id' ds)
  rw [lowerAscii, hsame, String.toList_ofList] at hword
  obtain ⟨c, r, rfl⟩ := List.exists_cons_of_ne_nil h.1
  exact Bool.false_ne_true ((hword c rfl).symm.trans (h.2 c List.mem_cons_self))

theorem joinDigits?_eq_self {s : List Char} (h : '_' ∉ s) (before : Option Char)
    (hbefore : before ≠ some '_') : joinDigits? before s = some s := by
  induction s generalizing before with
  | nil => rw [joinDigits?, if_neg hbefore]
  | cons c s ih =>
    rw [List.mem_cons, not_or] at h
    have hc : some c ≠ some '_' := fun hc ↦ h.1 (Option.some.inj hc).symm
    rw [joinDigits?, if_neg (Ne.symm h.1), if_neg fun hb ↦ hbefore hb.1, ih h.2 (some c) hc]
    rfl

theorem Digits.readNumeral? (h : Digits ds) : readNumeral? ds = some (digitsValue ds, 0) := by
  obtain ⟨hne, hds⟩ := h
  have htake : takeDigits ds = (ds.filterMap digitValue?, []) := by
    simpa using takeDigits_eq (t := []) hds (by simp)
  obtain ⟨c, r, rfl⟩ := List.exists_cons_of_ne_nil hne
  obtain ⟨d, hd⟩ := Option.isSome_iff_exists.1 (hds c List.mem_cons_self)
  have hcons : (c :: r).filterMap digitValue? = d :: r.filterMap digitValue? :=
    List.filterMap_cons_some hd
  simp [Text.readNumeral?, htake, readPower?, digitsValue, hcons]

theorem Digits.takeSign (h : Digits ds) (negative : Bool) :
    takeSign (minus negative ++ ds) = (negative, ds) := by
  cases negative with
  | true => rfl
  | false =>
    obtain ⟨c, r, rfl⟩ := List.exists_cons_of_ne_nil h.1
    have hc := h.2 c List.mem_cons_self
    have hminus : c ≠ '-' := ne_of_isDigit hc (by decide)
    have hplus : c ≠ '+' := ne_of_isDigit hc (by decide)
    simp [Text.takeSign, minus, hminus, hplus]

/-- A whole number is read as the double of the decimal number that it is. -/
theorem Digits.ofText? (h : Digits ds) (negative : Bool) :
    Binary64.ofText? (minus negative ++ ds) =
      some (Decimal.finite negative (digitsValue ds) 0).toBinary64 := by
  have hchars : ∀ c ∈ minus negative ++ ds, c = '-' ∨ isDigit c = true := by
    intro c hc
    rcases List.mem_append.1 hc with hc | hc
    · cases negative with
      | true => exact .inl (List.mem_singleton.1 hc)
      | false => cases hc
    · exact .inr (h.2 c hc)
  have hpadding : ∀ c ∈ minus negative ++ ds, isPadding c = false := by
    intro c hc
    rcases hchars c hc with rfl | hc
    · decide
    · rw [isPadding, isBlank_eq_false_of_isDigit hc, Bool.false_and]
  have hjoin : '_' ∉ minus negative ++ ds := by
    intro hmem
    rcases hchars '_' hmem with hc | hc
    · exact absurd hc (by decide)
    · exact absurd hc (by decide)
  have hdrop {s : List Char} (hs : ∀ c ∈ s, isPadding c = false) : s.dropWhile isPadding = s :=
    dropWhile_append_stop (w := []) (List.forall_mem_nil _)
      fun c hc ↦ hs c (List.mem_of_mem_head? hc)
  have htrim : (((minus negative ++ ds).dropWhile isPadding).reverse.dropWhile isPadding).reverse =
      minus negative ++ ds := by
    rw [hdrop hpadding, hdrop fun c hc ↦ hpadding c (List.mem_reverse.1 hc), List.reverse_reverse]
  unfold Binary64.ofText?
  simp only [htrim, joinDigits?_eq_self hjoin none (by simp), h.takeSign,
    h.readNumeral?, h.lowerAscii_ne "inf" (by decide),
    h.lowerAscii_ne "infinity" (by decide), h.lowerAscii_ne "nan" (by decide),
    or_self, if_false, Option.map_some]

end Numerals

end Grammar

namespace Binary64

theorem bound_le_ten_pow : bound ≤ 10 ^ 310 := by decide +kernel

/-- The double of a whole number does not depend on whether it is read as one or as a decimal
number, but for the sign of zero. -/
theorem toInt?_toBinary64 (s : Bool) (c : Nat) :
    (Decimal.finite s c 0).toBinary64.toInt? = (ofInt (if s then -(c : Int) else c)).toInt? := by
  have habs : (if s then -(c : Int) else c).natAbs = c := by cases s <;> simp
  unfold Decimal.toBinary64
  dsimp only
  split
  · rename_i hc
    subst hc
    cases s <;> rfl
  · rename_i hc
    split
    · rename_i hlarge
      have hlength : 310 + 1 ≤ decimalLength c := by omega
      have hpow : 10 ^ 310 * 10 ≤ 10 ^ decimalLength c := by
        rw [← pow_succ]
        exact pow_le_pow_right₀ (by decide) hlength
      have hbound : bound ≤ (if s then -(c : Int) else c).natAbs := by
        have hsize := pow_decimalLength_le hc
        have hten := bound_le_ten_pow
        rw [habs]
        generalize 10 ^ 310 = t at hpow hten
        omega
      obtain ⟨t, ht⟩ := (ofInt_eq_infinite_iff _).2 hbound
      rw [ht]
      rfl
    · rw [if_neg (by omega), if_pos (Int.le_refl 0), ofInt, habs]
      have hsign : decide ((if s then -(c : Int) else c) < 0) = s := by
        cases s <;> simp; omega
      rw [hsign, Int.toNat_zero, pow_zero, Nat.mul_one]

end Binary64

/-! ### Selectors -/

namespace Plural

/-- The whole number that a selector names. -/
def named? (selector : String) : Option Int :=
  match selector.toList with
  | '=' :: s => readInt? s
  | _ => none

/-- The branch of the first selector that names a number of the kind. -/
def namedBranch? {α : Type} (p : Int → Bool) (options : List (String × α)) : Option α :=
  (options.find? fun o ↦ (named? o.1).any p).map Prod.snd

theorem exists_of_named? {selector : String} {n : Int} (h : named? selector = some n) :
    ∃ s, selector.toList = '=' :: s ∧ readInt? s = some n := by
  unfold named? at h
  split at h
  · rename_i s hs
    exact ⟨s, hs, h⟩
  · cases h

/-- A selector for a whole number takes the numbers that are the double next to it. -/
theorem isExact_integer {selector : String} {n : Int} (h : named? selector = some n) (v : Int) :
    isExact selector (.integer v) = decide ((Binary64.ofInt n).toInt? = some v) := by
  obtain ⟨s, hs, hread⟩ := exists_of_named? h
  obtain ⟨negative, ds, hds, rfl, rfl⟩ := Grammar.exists_of_readInt? hread
  unfold isExact
  rw [hs]
  simp only [hds.ofText?, Number.equalsBinary, Binary64.toInt?_toBinary64]
  cases negative <;> rfl

/-- Where every selector with an equality sign names a whole number, the branch for a whole number
is the one of the first selector that takes it, and else one of its category. -/
theorem branch?_integer {α : Type} {options : List (String × α)} {v lowered : Int}
    {locale : String} {kind : PluralKind} {book : LocaleBook} {category : Plural}
    (hselectors : ∀ o ∈ options, o.1.toList.head? = some '=' → (named? o.1).isSome = true)
    (hcategory : ofNumber (.integer lowered) locale kind book = .ok category) :
    branch? options (.integer v) (.integer lowered) locale kind book =
      .ok ((namedBranch? (fun n ↦ decide ((Binary64.ofInt n).toInt? = some v)) options).or
        ((options.lookup category.word).or (options.lookup "other"))) := by
  have hexact : ∀ o ∈ options, isExact o.1 (.integer v) =
      (named? o.1).any fun n ↦ decide ((Binary64.ofInt n).toInt? = some v) := by
    intro o ho
    cases hnamed : named? o.1 with
    | some n => exact isExact_integer hnamed v
    | none =>
      unfold isExact
      split
      · rename_i s hs
        have hsome := hselectors o ho (by rw [hs]; rfl)
        rw [hnamed] at hsome
        cases hsome
      · rfl
  unfold branch? namedBranch?
  rw [List.find?_congr hexact, hcategory]
  cases options.find? fun o ↦ (named? o.1).any fun n ↦ decide ((Binary64.ofInt n).toInt? = some v)
    <;> rfl

/-- Small numbers are taken by the selectors that name them. -/
theorem namedBranch?_nearest {α : Type} {options : List (String × α)} {v : Int}
    (h : v.natAbs < 2 ^ 53 ∨ ∀ o ∈ options, ∀ n ∈ named? o.1, n.natAbs ≤ 2 ^ 53) :
    namedBranch? (fun n ↦ decide ((Binary64.ofInt n).toInt? = some v)) options =
      namedBranch? (fun n ↦ decide (n = v)) options := by
  unfold namedBranch?
  congr 1
  refine List.find?_congr fun o ho ↦ ?_
  cases hnamed : named? o.1 with
  | none => rfl
  | some n =>
    refine decide_eq_decide.2 (Binary64.toInt?_ofInt_iff ?_)
    exact h.symm.imp_left fun hall ↦ hall o ho n hnamed

end Plural

namespace Scene

/-- A plural argument shows the branch of the first selector whose number has the double `v` next to
it, and else the branch of the category of `v` less the offset, the one for other numbers, or a
hole. For a `v` below `2 ^ 53`, or below selectors that name nothing larger, that is the first
branch whose selector names `v`. A number sign directly in the branch shows `v` less the offset. -/
theorem element_plural_integer (scene : Scene) {value : String → Value} (name : String)
    (v offset : Int) (os : List (String × Message)) (hvalues : scene.values = .named value)
    (hvalue : value name = .number (.integer v))
    (hselectors : ∀ o ∈ os, o.1.toList.head? = some '=' → (Plural.named? o.1).isSome = true)
    (hsmall : (v - offset).natAbs < Binary64.bound) (kind : PluralKind) (pound : Option Value) :
    ∃ category,
      Plural.ofNumber (.integer (v - offset)) scene.locale kind scene.book = .ok category ∧
      let pound' := some (Value.number (.integer (v - offset)))
      let shownBranch (branch : Option Message) :=
        ((branch.or ((os.lookup category.word).or (os.lookup "other"))).map
          (scene.message pound')).getD [.hole name]
      scene.element pound (.plural name kind offset os) = shownBranch
        (Plural.namedBranch? (fun n ↦ decide ((Binary64.ofInt n).toInt? = some v)) os) ∧
      ((v.natAbs < 2 ^ 53 ∨ ∀ o ∈ os, ∀ n ∈ Plural.named? o.1, n.natAbs ≤ 2 ^ 53) →
        scene.element pound (.plural name kind offset os) =
          shownBranch (Plural.namedBranch? (fun n ↦ decide (n = v)) os)) ∧
      scene.element pound' .pound = [.text .value (toString (v - offset))] := by
  obtain ⟨hlarge, -⟩ | ⟨-, category, hcategory⟩ :=
    Plural.ofNumber_integer (v - offset) scene.locale kind scene.book
  · omega
  refine ⟨category, hcategory, ?_⟩
  intro pound' shownBranch
  have hnumber : (Value.number (.integer v)).number? = some (.integer v) := rfl
  have hshown : scene.element pound (.plural name kind offset os) = shownBranch
      (Plural.namedBranch? (fun n ↦ decide ((Binary64.ofInt n).toInt? = some v)) os) := by
    rw [element, withValue, hvalues]
    dsimp only
    rw [hvalue, hnumber, orHole]
    simp only [Number.lower, options_eq_map, branch?_map,
      Plural.branch?_integer hselectors hcategory, Except.map]
    rfl
  refine ⟨hshown, fun h ↦ ?_, ?_⟩
  · rw [hshown, Plural.namedBranch?_nearest h]
  · have hoverlong := Number.isOverlong_of_lt_bound hsmall
    rw [element, Option.map_some, Option.getD_some, shown]
    simp only [Value.isOverlong, hoverlong, Bool.false_eq_true, if_false]
    rfl

/-- The selector names the number after the one that it takes. -/
theorem element_plural_nextToSelector :
    let scene : Scene :=
      ⟨.named fun _ ↦ .number (.integer (2 ^ 53)), "en", default, [], fun _ ↦ none, .tables⟩
    let os : List (String × Message) :=
      [("=9007199254740993", [.literal "a"]), ("other", [.literal "b"])]
    scene.element none (.plural "n" .cardinal 0 os) = [.text .template "a"] ∧
      Plural.namedBranch? (fun n ↦ decide (n = 2 ^ 53)) os = none := by
  intro scene os
  have hnearest : Plural.namedBranch?
      (fun n ↦ decide ((Binary64.ofInt n).toInt? = some (2 ^ 53))) os = some [.literal "a"] := by
    have htakes : (Plural.named? "=9007199254740993").any
        (fun n ↦ decide ((Binary64.ofInt n).toInt? = some (2 ^ 53))) = true := by
      decide +kernel
    simp only [Plural.namedBranch?, os, List.find?_cons, htakes, Option.map_some]
  obtain ⟨category, -, hshown, -, -⟩ := element_plural_integer scene "n" (2 ^ 53) 0 os rfl rfl
    (by decide +kernel) (by decide +kernel) .cardinal none
  have hnone : os.find? (fun o ↦ (Plural.named? o.1).any fun n ↦ decide (n = 2 ^ 53)) = none :=
    List.find?_eq_none.2 (by decide +kernel)
  refine ⟨?_, by rw [Plural.namedBranch?, hnone]; rfl⟩
  rw [hshown, hnearest]
  rfl

end Scene

end Phrasebook
