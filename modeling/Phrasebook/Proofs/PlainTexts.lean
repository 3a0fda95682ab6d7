import Phrasebook.Value

/-!
The plain texts of numbers and moments have no underscore in them, so nothing that looks like the
name of a placeholder comes from a value that does not say so itself.
-/

set_option autoImplicit false

namespace Phrasebook

open Arithmetic

/-! ### Rows of digits -/

theorem Arithmetic.underscore_notMem_digits (n : Nat) : '_' ∉ digits n := by
  simp [digits]

theorem Arithmetic.underscore_notMem_padZeros (width : Nat) {s : List Char} (h : '_' ∉ s) :
    '_' ∉ padZeros width s := by
  simp [padZeros, h]

theorem underscore_notMem_intText (n : Int) : '_' ∉ (toString n).toList := by
  rw [Int.toString_eq_repr, Int.repr_eq_if]
  split <;> simp [Nat.repr]

/-! ### Numbers -/

theorem Binary64.underscore_notMem_exponentText (k : Int) : '_' ∉ exponentText k := by
  have hdigits := underscore_notMem_padZeros 2 (underscore_notMem_digits k.natAbs)
  rw [exponentText]
  split <;> simp [hdigits]

theorem Binary64.underscore_notMem_digitsText (c : Nat) (g : Int) : '_' ∉ digitsText c g := by
  have hdigits := underscore_notMem_digits c
  have htake (n : Nat) : '_' ∉ (digits c).take n := fun h ↦ hdigits (List.mem_of_mem_take h)
  have hdrop (n : Nat) : '_' ∉ (digits c).drop n := fun h ↦ hdigits (List.mem_of_mem_drop h)
  have hexponent := underscore_notMem_exponentText (g + (digits c).length - 1)
  simp only [digitsText]
  split
  · split
    · simp [hdigits]
    · split
      · rw [List.mem_append, List.mem_cons]
        rintro (h | h | h)
        · exact htake _ h
        · exact absurd h (by decide)
        · exact hdrop _ h
      · simp [hdigits]
  · split
    · simp
    · rename_i d hd
      rw [hd] at hdigits
      simp only [List.mem_cons, not_or] at hdigits ⊢
      exact ⟨hdigits.1, hexponent⟩
    · rename_i d rest _ hd
      rw [hd] at hdigits
      simp only [List.mem_cons, not_or] at hdigits
      simp only [List.cons_append, List.mem_cons, List.mem_append, not_or]
      exact ⟨hdigits.1, by decide, hdigits.2, hexponent⟩

theorem Binary64.underscore_notMem_text (x : Binary64) : '_' ∉ x.text.toList := by
  cases x with
  | nan => decide
  | infinite s => cases s <;> decide
  | finite s m e h =>
    have hbody : '_' ∉ if m = 0 then ['0', '.', '0']
        else digitsText (shortest m e).1 (shortest m e).2 := by
      split
      · decide
      · exact underscore_notMem_digitsText _ _
    rw [text, String.toList_ofList]
    cases s
    · exact hbody
    · exact List.not_mem_cons_of_ne_of_not_mem (by decide) hbody

theorem Decimal.underscore_notMem_positional (d : Decimal) : '_' ∉ d.positional := by
  cases d with
  | nan s signaling payload =>
    have hpayload := underscore_notMem_digits payload
    rw [positional]
    cases s <;> cases signaling <;> split <;> simp [hpayload]
  | infinite s => cases s <;> decide
  | finite s c e =>
    have hdigits := underscore_notMem_digits c
    have hpadded := underscore_notMem_padZeros ((-e).toNat + 1) hdigits
    rw [positional, List.mem_append]
    rintro (h | h)
    · cases s <;> simp at h
    · split at h
      · split at h <;> simp [hdigits] at h
      · rw [List.mem_append, List.mem_cons] at h
        rcases h with h | h | h
        · exact hpadded (List.mem_of_mem_take h)
        · exact absurd h (by decide)
        · exact hpadded (List.mem_of_mem_drop h)

theorem Decimal.underscore_notMem_text (d : Decimal) : '_' ∉ d.text.toList := by
  cases d with
  | nan s signaling payload =>
    rw [text, String.toList_ofList]
    · exact underscore_notMem_positional _
    · simp
  | infinite s =>
    rw [text, String.toList_ofList]
    · exact underscore_notMem_positional _
    · simp
  | finite s c e =>
    have hdigits := underscore_notMem_digits c
    have hpower := underscore_notMem_digits (e + decimalLength c - 1).natAbs
    rw [text]
    split
    · rw [String.toList_ofList]
      exact underscore_notMem_positional _
    · rw [String.toList_ofList, List.mem_append, List.mem_append]
      rintro ((h | h) | h)
      · cases s <;> simp at h
      · split at h
        · exact absurd h (by simp)
        · rename_i d hd
          exact hdigits (hd ▸ h)
        · rename_i d rest _ hd
          rw [hd, List.mem_cons] at hdigits
          rw [List.mem_cons, List.mem_cons] at h
          rcases h with h | h | h
          · exact hdigits (.inl h)
          · exact absurd h (by decide)
          · exact hdigits (.inr h)
      · split at h
        · simp at h
        · split at h <;> simp [hpower] at h

/-- The plain text of a number has no underscore. -/
theorem Number.underscore_notMem_plainText (n : Number) : '_' ∉ n.plainText.toList := by
  cases n with
  | integer n => exact underscore_notMem_intText n
  | binary x =>
    rw [plainText]
    split
    · exact underscore_notMem_intText _
    · exact x.underscore_notMem_text
  | decimal d => exact d.underscore_notMem_text

/-! ### Moments -/

namespace Calendar

theorem underscore_notMem_padded (width n : Nat) : '_' ∉ (padded width n).toList := by
  rw [padded, String.toList_ofList]
  exact underscore_notMem_padZeros _ (underscore_notMem_digits n)

theorem Offset.underscore_notMem_isoText (o : Offset) : '_' ∉ o.isoText.toList := by
  simp only [isoText]
  split <;> split <;> try split
  all_goals simp [underscore_notMem_padded]

/-- The text of a moment in ISO form has no underscore. -/
theorem Moment.underscore_notMem_isoText (m : Moment) : '_' ∉ m.isoText.toList := by
  have htime : '_' ∉ m.time.isoText.toList := by
    rw [TimeOfDay.isoText]
    split <;> simp [underscore_notMem_padded]
  have hoffset : '_' ∉ ((m.offset.map Offset.isoText).getD "").toList := by
    cases m.offset with
    | none => decide
    | some o => exact o.underscore_notMem_isoText
  simp [isoText, Date.isoText, underscore_notMem_padded, htime, hoffset]

end Calendar

end Phrasebook
