import Phrasebook.Locale.NumberPattern
import Phrasebook.Proofs.RoundTrip
import Phrasebook.Proofs.RoundedArithmetic
import Phrasebook.Proofs.RoundedPlaces

/-!
The numerals that number patterns write, read back.

A numeral is read by taking off the group symbols and reading the decimal symbol as a point
(`NumberSymbols.read?`). Zeros in front of a whole part and at the end of a fraction do not change
what is read (`numeralValue_zeros`, `numeralValue_append_zeros`), so a quantized number is read back
from its numeral, whatever grouping and digits the pattern has 
(`NumberPattern.writeRounded_of_quantize`).
-/

set_option autoImplicit false

namespace Phrasebook

open Arithmetic Text Grammar

/-! ### Rows of digits -/

section Digits

variable {ws ps : List Char} {n : ℕ}

/-- A row of ASCII digits. -/
def DigitRow (ds : List Char) : Prop :=
  ∀ c ∈ ds, c.isDigit = true

theorem DigitRow.append {a b : List Char} (ha : DigitRow a) (hb : DigitRow b) :
    DigitRow (a ++ b) := by
  intro c hc
  rcases List.mem_append.1 hc with hc | hc
  · exact ha c hc
  · exact hb c hc

theorem DigitRow.of_append {a b : List Char} (h : DigitRow (a ++ b)) : DigitRow a ∧ DigitRow b :=
  ⟨fun c hc ↦ h c (List.mem_append_left b hc), fun c hc ↦ h c (List.mem_append_right a hc)⟩

theorem digitRow_zeros (n : ℕ) : DigitRow (List.replicate n '0') := by
  intro c hc
  rw [List.eq_of_mem_replicate hc]
  rfl

theorem DigitRow.isDigit (h : DigitRow ps) : ∀ c ∈ ps, Text.isDigit c = true := by
  intro c hc
  rw [Text.isDigit, digitValue?_of_isDigit (h c hc)]
  rfl

theorem DigitRow.ne_point (h : DigitRow ps) : ∀ c ∈ ps, decide (c ≠ '.') = true := by
  intro c hc
  rw [decide_eq_true_eq]
  rintro rfl
  exact absurd (h _ hc) (by decide)

theorem DigitRow.length_values (h : DigitRow ps) :
    (ps.filterMap digitValue?).length = ps.length := by
  induction ps with
  | nil => rfl
  | cons c ps ih =>
    obtain ⟨hc, hps⟩ := List.forall_mem_cons.1 h
    rw [List.filterMap_cons_some (digitValue?_of_isDigit hc), List.length_cons, List.length_cons,
      ih hps]

theorem digitsValue_append (ws : List Char) (hps : DigitRow ps) :
    digitsValue (ws ++ ps) = digitsValue ws * 10 ^ ps.length + digitsValue ps := by
  have hfold (ds : List ℕ) (k : ℕ) :
      ds.foldl (fun n d ↦ 10 * n + d) k = k * 10 ^ ds.length + ofDigits ds := by
    unfold ofDigits
    induction ds generalizing k with
    | nil => simp
    | cons d ds ih =>
      rw [List.foldl_cons, List.foldl_cons, ih, ih (10 * 0 + d), List.length_cons, pow_succ]
      ring
  rw [digitsValue, List.filterMap_append, ofDigits, List.foldl_append, hfold, hps.length_values]
  rfl

theorem digitsValue_zeros (n : ℕ) : digitsValue (List.replicate n '0') = 0 := by
  have hzero : digitValue? '0' = some 0 := rfl
  have hvalues : (List.replicate n '0').filterMap digitValue? = List.replicate n 0 := by
    induction n with
    | zero => rfl
    | succ n ih => rw [List.replicate_succ, List.filterMap_cons_some hzero, ih, List.replicate_succ]
  rw [digitsValue, hvalues, ofDigits]
  clear hvalues
  induction n with
  | zero => rfl
  | succ n ih => exact ih

/-- The number with these digits before and after its point. -/
def numeralValue (ws ps : List Char) : ℚ :=
  digitsValue (ws ++ ps) * 10 ^ (-(ps.length : ℤ))

theorem numeralValue_zeros (hws : DigitRow ws) (hps : DigitRow ps) (n : ℕ) :
    numeralValue (List.replicate n '0' ++ ws) ps = numeralValue ws ps := by
  rw [numeralValue, numeralValue, List.append_assoc, digitsValue_append _ (hws.append hps),
    digitsValue_zeros, Nat.zero_mul, Nat.zero_add]

theorem numeralValue_append_zeros (ws ps : List Char) (n : ℕ) :
    numeralValue ws (ps ++ List.replicate n '0') = numeralValue ws ps := by
  have hpow : (10 : ℚ) ^ (-((ps.length + n : ℕ) : ℤ)) * 10 ^ n = 10 ^ (-(ps.length : ℤ)) := by
    rw [← zpow_natCast, ← zpow_add₀ (by norm_num)]
    congr 1
    push_cast
    ring
  rw [numeralValue, numeralValue, ← List.append_assoc, digitsValue_append _ (digitRow_zeros n),
    digitsValue_zeros, List.length_append, List.length_replicate, Nat.add_zero, ← hpow]
  push_cast
  ring

/-- A number is read from its digits. -/
theorem readNumeral?_whole (hne : ws ≠ []) (hws : DigitRow ws) :
    (readNumeral? ws).map (fun n ↦ (n.1 : ℚ) * 10 ^ n.2) = some (numeralValue ws []) := by
  have htake : takeDigits ws = (ws.filterMap digitValue?, []) := by
    simpa using takeDigits_eq (t := []) hws.isDigit (by simp)
  have hvalues : ws.filterMap digitValue? ≠ [] := by
    intro h
    have := hws.length_values
    rw [h] at this
    exact hne (List.length_eq_zero_iff.1 this.symm)
  simp [readNumeral?, htake, hvalues, readPower?, numeralValue, digitsValue]

theorem readNumeral?_point (hne : ws ≠ []) (hws : DigitRow ws) (hps : DigitRow ps) :
    (readNumeral? (ws ++ '.' :: ps)).map (fun n ↦ (n.1 : ℚ) * 10 ^ n.2) =
      some (numeralValue ws ps) := by
  have htake : takeDigits (ws ++ '.' :: ps) = (ws.filterMap digitValue?, '.' :: ps) :=
    takeDigits_eq hws.isDigit (by
      intro c hc
      rw [← Option.some.inj hc]
      rfl)
  have htake' : takeDigits ps = (ps.filterMap digitValue?, []) := by
    simpa using takeDigits_eq (t := []) hps.isDigit (by simp)
  have hvalues : ws.filterMap digitValue? ≠ [] := by
    intro h
    have := hws.length_values
    rw [h] at this
    exact hne (List.length_eq_zero_iff.1 this.symm)
  simp [readNumeral?, htake, htake', hvalues, readPower?, numeralValue, digitsValue,
    hps.length_values]

end Digits

/-! ### Symbols -/

namespace NumberSymbols

variable {y : NumberSymbols}

/-- The number that a numeral spells. -/
def read? (y : NumberSymbols) (numeral : List Char) : Option ℚ :=
  (readNumeral? ((numeral.filter fun c ↦ c ∉ y.group.toList).map fun c ↦
    if y.decimal.toList = [c] then '.' else c)).map fun n ↦ n.1 * 10 ^ n.2

/-- A character that neither a digit nor a sign of the pattern language can be taken for. -/
def isMark (c : Char) : Bool :=
  !c.isDigit && c != '\'' && c != '¤'

/-- The group and the decimal symbol are two such characters. -/
def isClear (y : NumberSymbols) : Bool :=
  match y.group.toList, y.decimal.toList with
  | [g], [d] => g != d && isMark g && isMark d
  | _, _ => false

theorem exists_of_isClear (h : y.isClear = true) : ∃ g d, y.group.toList = [g] ∧
    y.decimal.toList = [d] ∧ g ≠ d ∧ isMark g = true ∧ isMark d = true := by
  unfold isClear at h
  split at h
  · rename_i g d hg hd
    simp only [Bool.and_eq_true, bne_iff_ne] at h
    exact ⟨g, d, hg, hd, h.1.1, h.1.2, h.2⟩
  · cases h

end NumberSymbols

namespace NumberPattern

variable {p : NumberPattern} {y : NumberSymbols} {ws ps : List Char} {range : DigitRange}

/-! ### Groups and zeros -/

theorem filter_groupReversed {g : Char} (next limit size : ℕ) {s : List Char} (hs : g ∉ s) :
    (groupReversed [g] next limit size s).filter (fun c ↦ c ∉ [g]) = s := by
  have hkeep {s : List Char} (hs : g ∉ s) : s.filter (fun c ↦ c ∉ [g]) = s := by
    refine List.filter_eq_self.2 fun c hc ↦ ?_
    rw [decide_eq_true_eq, List.mem_singleton]
    rintro rfl
    exact hs hc
  induction limit generalizing size s with
  | zero => exact hkeep hs
  | succ limit ih =>
    unfold groupReversed
    by_cases hsize : size < s.length
    · rw [if_pos hsize]
      dsimp only
      by_cases hzero : size = 0
      · rw [if_pos hzero, if_pos hzero, List.filter_append, List.filter_append, hkeep hs,
          ih next List.not_mem_nil]
        simp
      · rw [if_neg hzero, if_neg hzero, List.filter_append, List.filter_append,
          hkeep fun h ↦ hs (List.mem_of_mem_take h), ih next fun h ↦ hs (List.mem_of_mem_drop h)]
        simp
    · rw [if_neg hsize]
      exact hkeep hs

theorem exists_dropZeros (least : ℕ) (ds : List Char) :
    ∃ n, ds = dropZeros least ds ++ List.replicate n '0' := by
  have htail (s : List Char) :
      ∃ n, s = (s.reverse.dropWhile (· = '0')).reverse ++ List.replicate n '0' := by
    refine ⟨(s.reverse.takeWhile (· = '0')).length, ?_⟩
    have hzeros : s.reverse.takeWhile (· = '0') =
        List.replicate (s.reverse.takeWhile (· = '0')).length '0' := by
      refine List.eq_replicate_of_mem fun c hc ↦ ?_
      simpa using List.mem_takeWhile_imp hc
    rw [← List.reverse_inj, List.reverse_append, List.reverse_reverse, List.reverse_replicate,
      ← hzeros, List.takeWhile_append_dropWhile]
  obtain ⟨n, hn⟩ := htail (ds.drop least)
  refine ⟨n, ?_⟩
  rw [dropZeros, List.append_assoc, ← hn, List.take_append_drop]

/-- A fraction is written with digits that stand for the same number, or left out when it is
zero. -/
theorem writePlaces_cases (y : NumberSymbols) (hps : DigitRow ps)
    (hmax : range.max = 0 → ∀ c ∈ ps, c = '0') (ws : List Char) :
    (writePlaces y range ps = [] ∧ numeralValue ws [] = numeralValue ws ps) ∨
      ∃ qs, writePlaces y range ps = y.decimal.toList ++ qs ∧ DigitRow qs ∧
        numeralValue ws qs = numeralValue ws ps := by
  obtain ⟨ds, hds⟩ : ∃ ds, ds = ps ++ List.replicate (range.min - ps.length) '0' := ⟨_, rfl⟩
  have hrow : DigitRow ds := hds ▸ hps.append (digitRow_zeros _)
  have hvalue : numeralValue ws ds = numeralValue ws ps := by
    rw [hds, numeralValue_append_zeros]
  unfold writePlaces
  dsimp only
  rw [← hds]
  by_cases hnone : range.max = 0 ∨ (range.min = 0 ∧ ds.all (· = '0') = true)
  · rw [if_pos hnone]
    refine .inl ⟨rfl, ?_⟩
    have hzeros : ∀ c ∈ ds, c = '0' := by
      rcases hnone with h | ⟨-, h⟩
      · intro c hc
        rw [hds, List.mem_append] at hc
        exact hc.elim (hmax h c) List.eq_of_mem_replicate
      · simpa using h
    rw [← hvalue, List.eq_replicate_of_mem hzeros]
    simpa using (numeralValue_append_zeros ws [] ds.length).symm
  · rw [if_neg hnone]
    obtain ⟨n, hn⟩ := exists_dropZeros range.min ds
    refine .inr ⟨_, rfl, (hn ▸ hrow).of_append.1, ?_⟩
    conv_rhs => rw [← hvalue, hn, numeralValue_append_zeros]

/-! ### Numerals -/

theorem filter_writeWhole {g : Char} (hg : y.group.toList = [g]) (hmark : g.isDigit = false)
    (least : ℕ) (hws : DigitRow ws) :
    (p.writeWhole y least ws).filter (fun c ↦ c ∉ [g]) = padZeros least ws := by
  have hrow : DigitRow (padZeros least ws) := (digitRow_zeros _).append hws
  have hnot : g ∉ (padZeros least ws).reverse := by
    intro h
    rw [List.mem_reverse] at h
    rw [hrow g h] at hmark
    cases hmark
  unfold writeWhole
  dsimp only
  rw [hg, List.filter_reverse, filter_groupReversed _ _ _ hnot, List.reverse_reverse]

/-- What is written is read back. -/
theorem read?_written (hy : y.isClear = true) (least : ℕ) (hne : ws ≠ []) (hws : DigitRow ws)
    (hps : DigitRow ps) (hmax : range.max = 0 → ∀ c ∈ ps, c = '0') :
    y.read? (p.writeWhole y least ws ++ writePlaces y range ps) = some (numeralValue ws ps) := by
  obtain ⟨g, d, hg, hd, hgd, hmark, hmark'⟩ := NumberSymbols.exists_of_isClear hy
  have hrow : DigitRow (padZeros least ws) := (digitRow_zeros _).append hws
  have hnonempty : padZeros least ws ≠ [] := List.append_ne_nil_of_right_ne_nil _ hne
  have hdigit {c : Char} (hc : NumberSymbols.isMark c = true) : c.isDigit = false := by
    simp only [NumberSymbols.isMark, Bool.and_eq_true, Bool.not_eq_true'] at hc
    exact hc.1.1
  have hkeep {ds : List Char} (hds : DigitRow ds) : ds.filter (fun c ↦ c ∉ [g]) = ds := by
    refine List.filter_eq_self.2 fun c hc ↦ ?_
    rw [decide_eq_true_eq, List.mem_singleton]
    rintro rfl
    exact absurd (hds c hc) (by rw [hdigit hmark]; decide)
  have hpoint {ds : List Char} (hds : DigitRow ds) :
      ds.map (fun c ↦ if [d] = [c] then '.' else c) = ds := by
    refine (List.map_congr_left fun c hc ↦ if_neg ?_).trans (List.map_id' ds)
    intro h
    rw [← (List.cons.inj h).1] at hc
    exact absurd (hds d hc) (by rw [hdigit hmark']; decide)
  unfold NumberSymbols.read?
  rw [hg, hd, List.filter_append, filter_writeWhole hg (hdigit hmark) least hws, List.map_append,
    hpoint hrow]
  rcases writePlaces_cases y hps hmax (padZeros least ws) with ⟨hnone, hvalue⟩ |
    ⟨qs, hqs, hqrow, hvalue⟩
  · rw [hnone, List.filter_nil, List.map_nil, List.append_nil, readNumeral?_whole hnonempty hrow,
      hvalue]
    exact congrArg some (numeralValue_zeros hws hps _)
  · have hdg : d ∉ [g] := fun h ↦ hgd (List.mem_singleton.1 h).symm
    rw [hqs, hd, List.singleton_append, List.filter_cons_of_pos (by simpa using hdg.imp id),
      hkeep hqrow, List.map_cons, if_pos rfl, hpoint hqrow, readNumeral?_point hnonempty hrow hqrow,
      hvalue]
    exact congrArg some (numeralValue_zeros hws hps _)

/-- The characters of a numeral mean nothing in the pattern language. -/
theorem isPlain_written (hy : y.isClear = true) (least : ℕ) (hws : DigitRow ws)
    (hps : DigitRow ps) {c : Char}
    (hc : c ∈ p.writeWhole y least ws ++ writePlaces y range ps) : c ≠ '\'' ∧ c ≠ '¤' := by
  obtain ⟨g, d, hg, hd, -, hmark, hmark'⟩ := NumberSymbols.exists_of_isClear hy
  have hplain {c : Char} (hc : NumberSymbols.isMark c = true) : c ≠ '\'' ∧ c ≠ '¤' := by
    simp only [NumberSymbols.isMark, Bool.and_eq_true, bne_iff_ne] at hc
    exact ⟨hc.1.2, hc.2⟩
  have hdigit {c : Char} (hc : c.isDigit = true) : c ≠ '\'' ∧ c ≠ '¤' := by
    constructor <;> rintro rfl <;> exact absurd hc (by decide)
  have hgroups (next limit size : ℕ) {s : List Char} (hs : DigitRow s) :
      ∀ c ∈ groupReversed [g] next limit size s, c ≠ '\'' ∧ c ≠ '¤' := by
    induction limit generalizing size s with
    | zero => exact fun c hc ↦ hdigit (hs c hc)
    | succ limit ih =>
      intro c hc
      unfold groupReversed at hc
      split at hc
      · dsimp only at hc
        rw [List.reverse_singleton, List.mem_append, List.mem_append, List.mem_singleton] at hc
        rcases hc with (hc | rfl) | hc
        · refine hdigit (hs c ?_)
          split at hc
          · exact hc
          · exact List.mem_of_mem_take hc
        · exact hplain hmark
        · refine ih next (fun c hc ↦ hs c ?_) c hc
          split at hc
          · cases hc
          · exact List.mem_of_mem_drop hc
      · exact hdigit (hs c hc)
  rcases List.mem_append.1 hc with hc | hc
  · unfold writeWhole at hc
    dsimp only at hc
    rw [hg, List.mem_reverse] at hc
    refine hgroups _ _ _ (fun c hc ↦ ?_) c hc
    exact ((digitRow_zeros _).append hws) c (List.mem_reverse.1 hc)
  · have hrow := hps.append (digitRow_zeros (range.min - ps.length))
    obtain ⟨n, hn⟩ := exists_dropZeros range.min (ps ++ List.replicate (range.min - ps.length) '0')
    unfold writePlaces at hc
    dsimp only at hc
    split at hc
    · cases hc
    · rw [hd, List.singleton_append, List.mem_cons] at hc
      rcases hc with rfl | hc
      · exact hplain hmark'
      · exact hdigit ((hn ▸ hrow).of_append.1 c hc)

/-! ### Quantized numbers -/

/-- The digits of a quantized number, before and after its point. -/
theorem exists_splitText (m n : ℕ) :
    ∃ ws ps, (splitText (Decimal.finite false m (-(n : ℤ))).positional).1 = ws ∧
      (if (splitText (Decimal.finite false m (-(n : ℤ))).positional).2.isEmpty then ['0']
        else (splitText (Decimal.finite false m (-(n : ℤ))).positional).2) = ps ∧
      ws ≠ [] ∧ DigitRow ws ∧ DigitRow ps ∧ (n = 0 → ∀ c ∈ ps, c = '0') ∧
      numeralValue ws ps = (Decimal.finite false m (-(n : ℤ))).value := by
  have hrow : DigitRow (digits m) := isDigit_of_mem_digits
  have hvalue : (Decimal.finite false m (-(n : ℤ))).value = m * 10 ^ (-(n : ℤ)) := by
    simp [Decimal.value]
  rw [hvalue]
  cases n with
  | zero =>
    have htext : (Decimal.finite false m (-((0 : ℕ) : ℤ))).positional = digits m := by
      simp [Decimal.positional]
    rw [htext, splitText, span_all hrow.ne_point]
    refine ⟨_, _, rfl, rfl, (digits_digits m).1, hrow, digitRow_zeros 1, fun _ ↦ by simp, ?_⟩
    have hzero := numeralValue_append_zeros (digits m) [] 1
    rw [List.nil_append] at hzero
    exact hzero.trans (by simp [numeralValue, digitsValue_digits])
  | succ n =>
    obtain ⟨ds, hds⟩ : ∃ ds, ds = padZeros (n + 1 + 1) (digits m) := ⟨_, rfl⟩
    have hdsrow : DigitRow ds := hds ▸ (digitRow_zeros _).append hrow
    have hlen : n + 2 ≤ ds.length := by
      rw [hds, padZeros, List.length_append, List.length_replicate]
      omega
    have htext : (Decimal.finite false m (-((n + 1 : ℕ) : ℤ))).positional =
        ds.take (ds.length - (n + 1)) ++ '.' :: ds.drop (ds.length - (n + 1)) := by
      have hneg : ¬ (0 : ℤ) ≤ -((n + 1 : ℕ) : ℤ) := by omega
      have hplaces : (- -((n + 1 : ℕ) : ℤ)).toNat = n + 1 := by omega
      rw [Decimal.positional, if_neg hneg, hplaces, ← hds]
      rfl
    have hsplit := hdsrow
    rw [← List.take_append_drop (ds.length - (n + 1)) ds] at hsplit
    obtain ⟨htake, hdrop⟩ := hsplit.of_append
    have hdropLength : (ds.drop (ds.length - (n + 1))).length = n + 1 := by
      rw [List.length_drop]
      omega
    have hempty : (ds.drop (ds.length - (n + 1))).isEmpty = false := by
      rw [List.isEmpty_eq_false_iff]
      intro h
      rw [h] at hdropLength
      cases hdropLength
    rw [htext, splitText, span_append_stop htake.ne_point (by simp)]
    refine ⟨_, _, rfl, rfl, ?_, htake, ?_, fun h ↦ absurd h n.succ_ne_zero, ?_⟩
    · intro h
      have := congrArg List.length h
      rw [List.length_take, List.length_nil] at this
      omega
    · simpa [hempty] using hdrop
    · dsimp only
      rw [hempty, if_neg Bool.false_ne_true, numeralValue, List.take_append_drop, hdropLength, hds,
        padZeros, digitsValue_append _ hrow, digitsValue_zeros, digitsValue_digits, Nat.zero_mul,
        Nat.zero_add]

/-- A number is written as it is quantized to the places of the pattern. -/
theorem writeRounded_of_quantize (hy : y.isClear = true) {c m : ℕ} {e : ℤ}
    (h : (Decimal.finite false c e).quantize 28 .toEven (-(range.max : ℤ)) =
      .ok (.finite false m (-(range.max : ℤ)))) :
    ∃ numeral, p.writeRounded y range (.finite false c e) = .ok numeral ∧
      y.read? numeral = some (Decimal.finite false m (-(range.max : ℤ))).value ∧
      ∀ c ∈ numeral, c ≠ '\'' ∧ c ≠ '¤' := by
  have h : (Decimal.finite false c e).quantize Decimal.defaultPrecision .toEven
      (-(range.max : ℤ)) = _ := h
  obtain ⟨ws, ps, hws, hps, hne, hrow, hrow', hzeros, hvalue⟩ := exists_splitText m range.max
  refine ⟨p.writeWhole y p.whole.min ws ++ writePlaces y range ps, ?_, ?_, ?_⟩
  · unfold writeRounded
    simp only [Decimal.isInfinite, Bool.false_eq_true, if_false, h, bind, Except.bind, pure,
      Except.pure, hws, hps]
  · rw [← hvalue]
    exact read?_written hy _ hne hrow hrow' hzeros
  · exact fun c hc ↦ isPlain_written hy _ hrow hrow' hc

end NumberPattern

end Phrasebook
