import Phrasebook.Proofs.Grammar
import Phrasebook.Proofs.Words

/-!
The parts of a message that the reader takes off the text in one go: blanks, signs, names, styles,
offsets, selectors and pieces of text. Each reader finds what the rule of the grammar says, and
finds it whenever it stands there.
-/

set_option autoImplicit false

namespace Phrasebook.Grammar

open Arithmetic Text Message

/-! ### Blanks and signs -/

theorem isSpace_cases {c : Char} (h : isSpace c = true) :
    c = ' ' ∨ c = '\t' ∨ c = '\r' ∨ c = '\n' := by
  simpa [isSpace, or_assoc] using h

/-- What blanks are not, class by class. -/
theorem classes_of_isSpace {c : Char} (h : isSpace c = true) :
    isNameChar c = false ∧ isLetter c = false ∧ isSelectorChar c = false ∧ isDigit c = false := by
  rcases isSpace_cases h with rfl | rfl | rfl | rfl <;> decide

theorem isSpace_eq_false_of_isNameChar {c : Char} (h : isNameChar c = true) :
    isSpace c = false := by
  by_contra hc
  rw [(classes_of_isSpace (Bool.of_not_eq_false hc)).1] at h
  exact Bool.false_ne_true h

theorem isSpace_eq_false_of_isLetter {c : Char} (h : isLetter c = true) : isSpace c = false := by
  by_contra hc
  rw [(classes_of_isSpace (Bool.of_not_eq_false hc)).2.1] at h
  exact Bool.false_ne_true h

theorem isSpace_eq_false_of_isSelectorChar {c : Char} (h : isSelectorChar c = true) :
    isSpace c = false := by
  by_contra hc
  rw [(classes_of_isSpace (Bool.of_not_eq_false hc)).2.2.1] at h
  exact Bool.false_ne_true h

/-- A name may have any word character. -/
theorem isNameChar_of_isWord {c : Char} (h : isWord c = true) : isNameChar c = true := by
  have hpunctuation : c ∉ ['{', '}', '#', ',', '\'', '|'] := by
    intro hc
    simp only [List.mem_cons, List.not_mem_nil, or_false] at hc
    rcases hc with rfl | rfl | rfl | rfl | rfl | rfl <;> exact absurd h (by decide)
  rw [isNameChar, isBlank_eq_false_of_isWord h]
  simpa using hpunctuation

section Blanks

variable {s t u : List Char} {c d : Char}

theorem Blanks.refl (s : List Char) : Blanks s s :=
  ⟨[], by simp, rfl⟩

theorem Blanks.trans (hs : Blanks s t) (ht : Blanks t u) : Blanks s u := by
  obtain ⟨b, hb, rfl⟩ := hs
  obtain ⟨b', hb', rfl⟩ := ht
  refine ⟨b ++ b', fun c hc ↦ ?_, by rw [List.append_assoc]⟩
  rcases List.mem_append.1 hc with hc | hc
  · exact hb c hc
  · exact hb' c hc

theorem blanks_skipSpace (s : List Char) : Blanks s (skipSpace s) :=
  ⟨s.takeWhile isSpace, fun _ hc ↦ List.mem_takeWhile_imp hc, List.takeWhile_append_dropWhile.symm⟩

theorem head_skipSpace (s : List Char) : ∀ c ∈ (skipSpace s).head?, isSpace c = false :=
  head_dropWhile

/-- Blanks end where the first character that is none stands. -/
theorem Blanks.skipSpace_eq (h : Blanks s t) (ht : ∀ c ∈ t.head?, isSpace c = false) :
    skipSpace s = t := by
  obtain ⟨b, hb, rfl⟩ := h
  exact dropWhile_append_stop hb ht

theorem Blanks.skipSpace_cons (h : Blanks s (c :: t)) (hc : isSpace c = false) :
    skipSpace s = c :: t :=
  h.skipSpace_eq fun d hd ↦ by
    rw [Option.mem_some.1 hd] at hc
    exact hc

/-- A text that begins with no blank has no blanks to be skipped. -/
theorem Blanks.eq_of_head {w : List Char} (h : Blanks s (w ++ t))
    (hs : ∀ c ∈ s.head?, isSpace c = false) (hw : ∃ c ∈ w.head?, isSpace c = false) :
    s = w ++ t := by
  obtain ⟨c, hc, hcs⟩ := hw
  obtain ⟨r, rfl⟩ := List.head?_eq_some_iff.1 (Option.mem_def.1 hc)
  exact ((Blanks.refl s).skipSpace_eq hs).symm.trans (h.skipSpace_cons hcs)

/-- Blanks may be skipped before a character that is none is looked for. -/
theorem Blanks.cons_iff (h : Blanks s t) (hc : isSpace c = false) :
    Blanks s (c :: u) ↔ Blanks t (c :: u) := by
  refine ⟨fun hs ↦ ?_, h.trans⟩
  have hskip : skipSpace s = skipSpace t := by
    obtain ⟨b, hb, rfl⟩ := h
    exact List.dropWhile_append_of_pos hb
  have := blanks_skipSpace t
  rwa [← hskip, hs.skipSpace_cons hc] at this

theorem Sign.unique (h : Sign c s t) (h' : Sign d s u) (hc : isSpace c = false)
    (hd : isSpace d = false) : c = d ∧ t = u := by
  have := (Blanks.skipSpace_cons h hc).symm.trans (Blanks.skipSpace_cons h' hd)
  exact List.cons.inj this

/-- Before a sign stand blanks only. -/
theorem Sign.head (h : Sign c s t) : ∀ d ∈ s.head?, isSpace d = true ∨ d = c := by
  obtain ⟨b, hb, rfl⟩ := h
  intro d hd
  cases b with
  | nil => exact .inr (Option.mem_some.1 hd).symm
  | cons e b => exact .inl ((Option.mem_some.1 hd) ▸ hb e List.mem_cons_self)

theorem Sign.exists_head (h : Sign c s t) : ∃ d ∈ s.head?, isSpace d = true ∨ d = c := by
  obtain ⟨b, hb, rfl⟩ := h
  cases b with
  | nil => exact ⟨c, rfl, .inr rfl⟩
  | cons e b => exact ⟨e, rfl, .inl (hb e List.mem_cons_self)⟩

theorem Sign.of_cons (c : Char) (t : List Char) : Sign c (c :: t) t :=
  Blanks.refl _

/-- Where a text can only begin with the sign, no blanks stand before it. -/
theorem Sign.eq_cons_of_head (h : Sign c s t) (hs : ∀ d ∈ s.head?, d = c)
    (hc : isSpace c = false := by decide) : s = c :: t := by
  refine Blanks.eq_of_head (w := [c]) h (fun d hd ↦ ?_) ⟨c, rfl, hc⟩
  rw [hs d hd]
  exact hc

theorem sign_of_expect {r : { r : List Char // r.length < s.length }}
    (h : expect c s = .ok r) : Sign c s r.1 := by
  unfold expect at h
  split at h
  · rename_i d r' hs
    split at h
    · rename_i hd
      cases h
      have := blanks_skipSpace s
      rwa [hs, hd] at this
    · cases h
  · cases h

theorem not_sign_of_expect {f : Failure} (hc : isSpace c = false) (h : expect c s = .error f) :
    ¬ Sign c s t := by
  intro hs
  unfold expect at h
  split at h
  · rename_i d r hr
    rw [Blanks.skipSpace_cons hs hc] at hr
    cases hr
    simp at h
  · rename_i hr
    rw [Blanks.skipSpace_cons hs hc] at hr
    cases hr

theorem cause_of_expect {f : Failure} (h : expect c s = .error f) (l : LongNumeral) :
    f.cause ≠ .longOffset l := by
  unfold expect at h
  split at h
  · split at h
    · cases h
    · cases h
      simp
  · cases h
    simp

end Blanks

/-! ### Names and types -/

theorem name_of_takeWhile {s : List Char}
    (h : ((skipSpace s).takeWhile isNameChar).isEmpty = false) :
    Name s (String.ofList ((skipSpace s).takeWhile isNameChar))
      ((skipSpace s).dropWhile isNameChar) := by
  refine ⟨_, by simpa using h, fun _ hc ↦ List.mem_takeWhile_imp hc, rfl, ?_⟩
  rw [List.takeWhile_append_dropWhile]
  exact blanks_skipSpace s

/-- A name ends where the first character that no name has stands. -/
theorem Name.scan {s t : List Char} {name : String} (h : Name s name t)
    (ht : ∀ c ∈ t.head?, isNameChar c = false) :
    ((skipSpace s).takeWhile isNameChar).isEmpty = false ∧
      String.ofList ((skipSpace s).takeWhile isNameChar) = name ∧
      (skipSpace s).dropWhile isNameChar = t := by
  obtain ⟨w, hne, hw, rfl, hs⟩ := h
  have hskip : skipSpace s = w ++ t := by
    obtain ⟨c, w, rfl⟩ := List.exists_cons_of_ne_nil hne
    exact hs.skipSpace_cons (isSpace_eq_false_of_isNameChar (hw c List.mem_cons_self))
  rw [hskip, takeWhile_append_stop hw ht, dropWhile_append_stop hw ht]
  exact ⟨by simpa using hne, rfl, rfl⟩

theorem Sign.head_not_nameChar {s t : List Char} {c : Char} (h : Sign c s t)
    (hc : isNameChar c = false) : ∀ d ∈ s.head?, isNameChar d = false := by
  intro d hd
  rcases h.head d hd with hd | rfl
  · exact (classes_of_isSpace hd).1
  · exact hc

theorem Sign.head_not_letter {s t : List Char} {c : Char} (h : Sign c s t)
    (hc : isLetter c = false) : ∀ d ∈ s.head?, isLetter d = false := by
  intro d hd
  rcases h.head d hd with hd | rfl
  · exact (classes_of_isSpace hd).2.1
  · exact hc

theorem blanks_word {s : List Char} :
    Blanks s ((String.ofList ((skipSpace s).takeWhile isLetter)).toList ++
      (skipSpace s).dropWhile isLetter) := by
  rw [String.toList_ofList, List.takeWhile_append_dropWhile]
  exact blanks_skipSpace s

/-- A word of letters ends where the first character that is no letter stands. -/
theorem word_scan {s t : List Char} {word : String} (hne : word.toList ≠ [])
    (hw : ∀ c ∈ word.toList, isLetter c = true) (h : Blanks s (word.toList ++ t))
    (ht : ∀ c ∈ t.head?, isLetter c = false) :
    ((skipSpace s).takeWhile isLetter).isEmpty = false ∧
      String.ofList ((skipSpace s).takeWhile isLetter) = word ∧
      (skipSpace s).dropWhile isLetter = t := by
  have hskip : skipSpace s = word.toList ++ t := by
    obtain ⟨c, w, hcw⟩ := List.exists_cons_of_ne_nil hne
    rw [hcw] at h hw ⊢
    exact h.skipSpace_cons (isSpace_eq_false_of_isLetter (hw c List.mem_cons_self))
  rw [hskip, takeWhile_append_stop hw ht, dropWhile_append_stop hw ht]
  exact ⟨by simpa using hne, String.ofList_toList, rfl⟩

end Phrasebook.Grammar
