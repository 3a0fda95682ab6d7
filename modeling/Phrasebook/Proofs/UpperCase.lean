import Mathlib.Data.List.Basic
import Phrasebook.Text.Character

/-!
Upper-casing twice is upper-casing once, and it makes no white space and no braces.

The characters that have an upper-case form of their own, the white space and the braces are runs of
code points (`sources` and `marks`), and so are the upper-case forms (`forms`). The tables keep the
two apart, which is checked run by run and not point by point. What upper-casing puts out is
therefore left alone by it, and is visible unless it was there before (`mem_upperChar`).
-/

set_option autoImplicit false

namespace Phrasebook.Text

/-- The code points of a run. -/
def CaseRun.has (r : CaseRun) (n : Nat) : Bool :=
  Nat.ble r.first n && Nat.ble n r.last && Nat.beq ((n - r.first) % r.step) 0

/-- Where a run shifts a code point. -/
def CaseRun.target (r : CaseRun) (n : Nat) : Nat :=
  (n + r.shift).toNat

/-- The runs of a point alone. -/
def CaseRun.point (n : Nat) : CaseRun :=
  ⟨n, n, 1, 0⟩

/-- The runs of letters with an upper-case form of one character, ASCII included. -/
def shiftedRuns : List CaseRun :=
  ⟨0x61, 0x7A, 1, -32⟩ :: upperRuns

/-- The characters with an upper-case form other than themselves. -/
def sources : List CaseRun :=
  shiftedRuns ++ upperExpansions.map fun e ↦ CaseRun.point e.1

/-- The upper-case forms, as the places to which runs are shifted. -/
def forms : List CaseRun :=
  shiftedRuns ++ (upperExpansions.flatMap fun e ↦ e.2).map CaseRun.point

/-- White space and braces. -/
def marks : List CaseRun :=
  [⟨0x09, 0x0D, 1, 0⟩, ⟨0x1C, 0x20, 1, 0⟩, .point 0x85, .point 0xA0, .point 0x1680,
    ⟨0x2000, 0x200A, 1, 0⟩, ⟨0x2028, 0x2029, 1, 0⟩, .point 0x202F, .point 0x205F, .point 0x3000,
    .point 0x7B, .point 0x7D]

/-- No code point of `r` is shifted into `q`. Where the hulls meet, the code points decide. -/
def CaseRun.avoids (r q : CaseRun) : Bool :=
  Nat.blt (r.target r.last) q.first || Nat.blt q.last (r.target r.first) ||
    (List.range ((r.last - r.first) / r.step + 1)).all fun k ↦
      !q.has (r.target (r.first + k * r.step))

theorem CaseRun.has_iff {r : CaseRun} {n : Nat} :
    r.has n = true ↔ r.first ≤ n ∧ n ≤ r.last ∧ (n - r.first) % r.step = 0 := by
  simp [CaseRun.has, and_assoc]

theorem CaseRun.target_mono (r : CaseRun) {m n : Nat} (h : m ≤ n) : r.target m ≤ r.target n := by
  unfold CaseRun.target
  omega

theorem CaseRun.has_target {r q : CaseRun} {n : Nat} (h : r.avoids q = true) (hn : r.has n = true) :
    q.has (r.target n) = false := by
  obtain ⟨hfirst, hlast, hstep⟩ := CaseRun.has_iff.1 hn
  simp only [CaseRun.avoids, Bool.or_eq_true, Nat.blt_eq, List.all_eq_true, List.mem_range] at h
  refine Bool.eq_false_iff.2 fun hq ↦ ?_
  obtain ⟨hqfirst, hqlast, -⟩ := CaseRun.has_iff.1 hq
  rcases h with (h | h) | h
  · have := r.target_mono hlast
    omega
  · have := r.target_mono hfirst
    omega
  · have hk := h ((n - r.first) / r.step)
      (Nat.lt_succ_of_le (Nat.div_le_div_right (Nat.sub_le_sub_right hlast _)))
    rw [Nat.div_mul_cancel (Nat.dvd_of_mod_eq_zero hstep), Nat.add_sub_cancel' hfirst, hq] at hk
    exact Bool.false_ne_true hk

set_option maxRecDepth 10000 in
theorem forms_avoid : (forms.all fun r ↦ (sources ++ marks).all r.avoids) = true := by
  decide +kernel

/-- A form is no source, no white space and no brace. -/
theorem has_target_eq_false {r q : CaseRun} {n : Nat} (hr : r ∈ forms) (hn : r.has n = true)
    (hq : q ∈ sources ++ marks) : q.has (r.target n) = false :=
  CaseRun.has_target (List.all_eq_true.1 (List.all_eq_true.1 forms_avoid r hr) q hq) hn

/-! ### Characters -/

theorem toNat_ofNat (n : Nat) : (Char.ofNat n).toNat = n ∨ (Char.ofNat n).toNat = 0 := by
  by_cases h : n.isValidChar
  · rw [Char.ofNat, dif_pos h]
    exact .inl rfl
  · rw [Char.ofNat, dif_neg h]
    exact .inr rfl

theorem toUpper_eq_self {c : Char} (h : ¬ (0x61 ≤ c.toNat ∧ c.toNat ≤ 0x7A)) : c.toUpper = c := by
  unfold Char.toUpper
  exact dif_neg h

/-- A character that no run has is its own upper-case form. -/
theorem upperChar_eq_self {c : Char} (h : ∀ q ∈ sources, q.has c.toNat = false) :
    upperChar c = [c] := by
  unfold upperChar
  split
  · have hlower := h ⟨0x61, 0x7A, 1, -32⟩ (by simp [sources, shiftedRuns])
    rw [toUpper_eq_self fun hc ↦ Bool.eq_false_iff.1 hlower
      (CaseRun.has_iff.2 ⟨hc.1, hc.2, Nat.mod_one _⟩)]
  · have hexp : (upperExpansions.find? fun e ↦ e.1 == c.toNat) = none := by
      refine List.find?_eq_none.2 fun e he hc ↦ ?_
      have := h (.point e.1) (List.mem_append_right _ (List.mem_map_of_mem he))
      rw [beq_iff_eq] at hc
      refine Bool.eq_false_iff.1 this (CaseRun.has_iff.2 ⟨?_, ?_, Nat.mod_one _⟩)
      · exact Nat.le_of_eq hc
      · exact Nat.le_of_eq hc.symm
    have hrun : (upperRuns.find? fun r ↦ decide (r.first ≤ c.toNat) && decide (c.toNat ≤ r.last)
        && (c.toNat - r.first) % r.step == 0) = none := by
      refine List.find?_eq_none.2 fun r hr hc ↦ ?_
      have := h r (List.mem_append_left _ (List.mem_cons_of_mem _ hr))
      simp only [Bool.and_eq_true, decide_eq_true_eq, beq_iff_eq] at hc
      exact Bool.eq_false_iff.1 this (CaseRun.has_iff.2 ⟨hc.1.1, hc.1.2, hc.2⟩)
    rw [hexp, hrun]

/-- Whether a word may have the character where braces are not allowed. -/
def isPlain (c : Char) : Bool :=
  !isBlank c && c != '{' && c != '}'

theorem isPlain_of_marks {c : Char} (h : ∀ q ∈ marks, q.has c.toNat = false) :
    isPlain c = true := by
  have hmark : ∀ q ∈ marks, ¬ (q.first ≤ c.toNat ∧ c.toNat ≤ q.last ∧
      (c.toNat - q.first) % q.step = 0) := fun q hq hc ↦
    Bool.eq_false_iff.1 (h q hq) (CaseRun.has_iff.2 hc)
  simp only [marks, CaseRun.point, List.forall_mem_cons, Nat.mod_one, and_true] at hmark
  have hopen : c ≠ '{' := by
    rintro rfl
    exact absurd hmark (by decide)
  have hclose : c ≠ '}' := by
    rintro rfl
    exact absurd hmark (by decide)
  simp only [isPlain, isBlank, inRanges, List.any_cons, List.any_nil, Bool.and_eq_true,
    Bool.not_eq_true', Bool.or_eq_false_iff, Bool.and_eq_false_iff, decide_eq_false_iff_not,
    bne_iff_ne, and_true]
  refine ⟨⟨?_, hopen⟩, hclose⟩
  omega

/-- A form is its own upper-case form, and it is visible. -/
theorem of_form {r : CaseRun} {n : Nat} (hr : r ∈ forms) (hn : r.has n = true) :
    upperChar (Char.ofNat (r.target n)) = [Char.ofNat (r.target n)] ∧
      isPlain (Char.ofNat (r.target n)) = true := by
  have hq : ∀ q ∈ sources ++ marks, q.has (Char.ofNat (r.target n)).toNat = false := by
    intro q hq
    rcases toNat_ofNat (r.target n) with h | h
    · rw [h]
      exact has_target_eq_false hr hn hq
    · rw [h]
      revert q hq
      decide +kernel
  exact ⟨upperChar_eq_self fun q hs ↦ hq q (List.mem_append_left _ hs),
    isPlain_of_marks fun q hm ↦ hq q (List.mem_append_right _ hm)⟩

theorem toUpper_eq_ofNat {c : Char} (h : 0x61 ≤ c.toNat ∧ c.toNat ≤ 0x7A) :
    c.toUpper = Char.ofNat (CaseRun.target ⟨0x61, 0x7A, 1, -32⟩ c.toNat) := by
  have hall : ∀ n < 0x7B, 0x61 ≤ n →
      (Char.ofNat n).toUpper = Char.ofNat (CaseRun.target ⟨0x61, 0x7A, 1, -32⟩ n) := by
    decide
  have := hall c.toNat (Nat.lt_succ_of_le h.2) h.1
  rwa [Char.ofNat_toNat] at this

theorem upperChar_cases {c d : Char} (h : d ∈ upperChar c) :
    d = c ∧ upperChar c = [c] ∨
      ∃ r n, r ∈ forms ∧ r.has n = true ∧ d = Char.ofNat (r.target n) := by
  by_cases hascii : c.toNat < 0x80
  · have hc : upperChar c = [c.toUpper] := by rw [upperChar, if_pos hascii]
    rw [hc] at h ⊢
    obtain rfl := List.mem_singleton.1 h
    by_cases hlower : 0x61 ≤ c.toNat ∧ c.toNat ≤ 0x7A
    · exact .inr ⟨_, c.toNat, List.mem_cons_self, CaseRun.has_iff.2
        ⟨hlower.1, hlower.2, Nat.mod_one _⟩, toUpper_eq_ofNat hlower⟩
    · exact .inl ⟨toUpper_eq_self hlower, by rw [toUpper_eq_self hlower]⟩
  · cases hexp : upperExpansions.find? fun e ↦ e.1 == c.toNat with
    | some e =>
      rw [upperChar, if_neg hascii, hexp] at h
      obtain ⟨n, hn, rfl⟩ := List.mem_map.1 h
      exact .inr ⟨.point n, n, List.mem_append_right _ (List.mem_map_of_mem
        (List.mem_flatMap.2 ⟨e, List.mem_of_find?_eq_some hexp, hn⟩)),
        CaseRun.has_iff.2 ⟨Nat.le_refl _, Nat.le_refl _, Nat.mod_one _⟩, rfl⟩
    | none =>
      cases hrun : upperRuns.find? fun r ↦ decide (r.first ≤ c.toNat) && decide (c.toNat ≤ r.last)
          && (c.toNat - r.first) % r.step == 0 with
      | some r =>
        rw [upperChar, if_neg hascii, hexp] at h
        dsimp only at h
        rw [hrun] at h
        have hin := List.find?_some hrun
        simp only [Bool.and_eq_true, decide_eq_true_eq, beq_iff_eq] at hin
        exact .inr ⟨r, c.toNat, List.mem_append_left _
          (List.mem_cons_of_mem _ (List.mem_of_find?_eq_some hrun)),
          CaseRun.has_iff.2 ⟨hin.1.1, hin.1.2, hin.2⟩, List.mem_singleton.1 h⟩
      | none =>
        have hc : upperChar c = [c] := by
          rw [upperChar, if_neg hascii, hexp]
          dsimp only
          rw [hrun]
        rw [hc] at h
        exact .inl ⟨List.mem_singleton.1 h, hc⟩

/-- What upper-casing puts out is its own upper-case form, and it is visible or was there before. -/
theorem mem_upperChar {c d : Char} (h : d ∈ upperChar c) :
    upperChar d = [d] ∧ (d = c ∨ isPlain d = true) := by
  rcases upperChar_cases h with ⟨rfl, hself⟩ | ⟨r, n, hr, hn, rfl⟩
  · exact ⟨hself, .inl rfl⟩
  · obtain ⟨hself, hplain⟩ := of_form hr hn
    exact ⟨hself, .inr hplain⟩

/-! ### Texts -/

theorem upper_eq_self {s : String} (h : ∀ c ∈ s.toList, upperChar c = [c]) : upper s = s := by
  have hmap : s.toList.flatMap upperChar = s.toList.flatMap fun c ↦ [c] :=
    List.flatMap_congr h
  rw [upper, hmap, List.flatMap_singleton', String.ofList_toList]

theorem upper_upper (s : String) : upper (upper s) = upper s := by
  refine upper_eq_self fun c hc ↦ ?_
  rw [upper, String.toList_ofList] at hc
  obtain ⟨b, -, hb⟩ := List.mem_flatMap.1 hc
  exact (mem_upperChar hb).1

/-- Upper-casing makes no white space and no braces. -/
theorem isPlain_of_mem_upper {s : String} (hs : ∀ c ∈ s.toList, isPlain c = true) :
    ∀ c ∈ (upper s).toList, isPlain c = true := by
  intro c hc
  rw [upper, String.toList_ofList] at hc
  obtain ⟨b, hb, hc⟩ := List.mem_flatMap.1 hc
  rcases (mem_upperChar hc).2 with rfl | hplain
  · exact hs c hb
  · exact hplain

end Phrasebook.Text
