import Mathlib.Data.List.TakeWhile
import Phrasebook.Proofs.UpperCase

/-!
Words between white space, and texts without white space at their ends. Words that are put together
with spaces are found again (`words_spaced`), and trimming takes off just what is put around a bare
text (`trim_pad`).
-/

set_option autoImplicit false

namespace Phrasebook.Text

section Runs

variable {p : Char → Bool} {s t w : List Char}

theorem head_dropWhile : ∀ c ∈ (s.dropWhile p).head?, p c = false := by
  intro c hc
  have h := List.head?_dropWhile_not p s
  rw [Option.mem_def.mp hc] at h
  exact h

theorem takeWhile_append_stop (hw : ∀ c ∈ w, p c = true) (ht : ∀ c ∈ t.head?, p c = false) :
    (w ++ t).takeWhile p = w := by
  rw [List.takeWhile_append_of_pos hw]
  cases t with
  | nil => simp
  | cons c t => simp [ht c rfl]

theorem dropWhile_append_stop (hw : ∀ c ∈ w, p c = true) (ht : ∀ c ∈ t.head?, p c = false) :
    (w ++ t).dropWhile p = t := by
  rw [List.dropWhile_append_of_pos hw]
  cases t with
  | nil => rfl
  | cons c t => simp [ht c rfl]

end Runs

/-- A text without braces. -/
def BraceFree (s : List Char) : Prop :=
  ∀ c ∈ s, c ≠ '{' ∧ c ≠ '}'

instance (s : List Char) : Decidable (BraceFree s) :=
  inferInstanceAs (Decidable (∀ c ∈ s, c ≠ '{' ∧ c ≠ '}'))

theorem BraceFree.nil : BraceFree [] :=
  fun _ hc ↦ absurd hc List.not_mem_nil

theorem BraceFree.cons {c : Char} {s : List Char} (hc : c ≠ '{' ∧ c ≠ '}') (hs : BraceFree s) :
    BraceFree (c :: s) :=
  List.forall_mem_cons.2 ⟨hc, hs⟩

theorem BraceFree.append {s t : List Char} (hs : BraceFree s) (ht : BraceFree t) :
    BraceFree (s ++ t) := by
  intro c hc
  rcases List.mem_append.1 hc with hc | hc
  · exact hs c hc
  · exact ht c hc

theorem BraceFree.sublist {s t : List Char} (ht : BraceFree t) (h : List.Sublist s t) :
    BraceFree s :=
  fun c hc ↦ ht c (h.subset hc)

/-! ### Words -/

theorem isBlank_of_isPlain {c : Char} (h : isPlain c = true) : isBlank c = false := by
  simp only [isPlain, Bool.and_eq_true, Bool.not_eq_true'] at h
  exact h.1.1

theorem ne_brace_of_isPlain {c : Char} (h : isPlain c = true) : c ≠ '{' ∧ c ≠ '}' := by
  simp only [isPlain, Bool.and_eq_true, bne_iff_ne] at h
  exact ⟨h.1.2, h.2⟩

theorem isPlain_iff {c : Char} : isPlain c = true ↔ isBlank c = false ∧ c ≠ '{' ∧ c ≠ '}' := by
  refine ⟨fun h ↦ ⟨isBlank_of_isPlain h, ne_brace_of_isPlain h⟩, ?_⟩
  rintro ⟨hblank, hopen, hclose⟩
  simp [isPlain, hblank, hopen, hclose]

theorem mem_splitOnP {p : Char → Bool} {s w : List Char} (h : w ∈ s.splitOnP p) :
    ∀ c ∈ w, c ∈ s ∧ p c = false := by
  induction s generalizing w with
  | nil =>
    rw [List.splitOnP_nil, List.mem_singleton] at h
    rw [h]
    exact fun c hc ↦ absurd hc List.not_mem_nil
  | cons d s ih =>
    have hlater : ∀ v ∈ s.splitOnP p, ∀ c ∈ v, c ∈ d :: s ∧ p c = false := fun v hv c hc ↦
      ⟨List.mem_cons_of_mem d (ih hv c hc).1, (ih hv c hc).2⟩
    rw [List.splitOnP_cons_eq_if_modifyHead] at h
    split at h
    · rcases List.mem_cons.1 h with rfl | h
      · exact fun c hc ↦ absurd hc List.not_mem_nil
      · exact hlater w h
    · rename_i hd
      obtain ⟨v, vs, hv⟩ := List.exists_cons_of_ne_nil (List.splitOnP_ne_nil p s)
      rw [hv, List.modifyHead_cons] at h
      rcases List.mem_cons.1 h with rfl | h
      · intro c hc
        rcases List.mem_cons.1 hc with rfl | hc
        · exact ⟨List.mem_cons_self, Bool.of_not_eq_true hd⟩
        · exact hlater v (hv ▸ List.mem_cons_self) c hc
      · exact hlater w (hv ▸ List.mem_cons_of_mem v h)

/-- The words of a text have no white space, and no braces if the text has none. -/
theorem isPlain_of_mem_words {s w : List Char} (hs : ∀ c ∈ s, c ≠ '{' ∧ c ≠ '}')
    (h : w ∈ words s) : ∀ c ∈ w, isPlain c = true := by
  intro c hc
  obtain ⟨hmem, hblank⟩ := mem_splitOnP (List.mem_filter.1 h).1 c hc
  exact isPlain_iff.2 ⟨hblank, hs c hmem⟩

/-- Words with single spaces between them. -/
def spaced (ws : List (List Char)) : List Char :=
  [' '].intercalate ws

theorem spaced_cons (w : List Char) {ws : List (List Char)} (h : ws ≠ []) :
    spaced (w :: ws) = w ++ ' ' :: spaced ws := by
  rw [spaced, List.intercalate_cons_of_ne_nil h]
  simp [spaced]

theorem words_spaced {ws : List (List Char)}
    (h : ∀ w ∈ ws, w ≠ [] ∧ ∀ c ∈ w, isPlain c = true) : words (spaced ws) = ws := by
  have hblank : ∀ w ∈ ws, ∀ c ∈ w, isBlank c = false := fun w hw c hc ↦
    isBlank_of_isPlain ((h w hw).2 c hc)
  induction ws with
  | nil => rfl
  | cons w ws ih =>
    obtain ⟨⟨hne, -⟩, hrest⟩ := List.forall_mem_cons.1 h
    obtain ⟨hw, hws⟩ := List.forall_mem_cons.1 hblank
    by_cases hnil : ws = []
    · rw [hnil, spaced, List.intercalate_singleton, words, List.splitOnP_eq_singleton hw]
      simp [hne]
    · have hsplit : (w ++ ' ' :: spaced ws).splitOnP isBlank = w :: (spaced ws).splitOnP isBlank :=
        List.splitOnP_append_cons_of_forall_mem hw ' ' (by decide) _
      rw [spaced_cons w hnil, words, hsplit, List.filter_cons_of_pos (by simpa using hne)]
      exact congrArg (w :: ·) (ih hrest hws)

theorem mem_spaced {ws : List (List Char)} {c : Char} (h : c ∈ spaced ws) :
    c = ' ' ∨ ∃ w ∈ ws, c ∈ w := by
  induction ws with
  | nil => exact absurd h List.not_mem_nil
  | cons w ws ih =>
    by_cases hnil : ws = []
    · rw [hnil, spaced, List.intercalate_singleton] at h
      exact .inr ⟨w, List.mem_cons_self, h⟩
    · rw [spaced_cons w hnil, List.mem_append, List.mem_cons] at h
      rcases h with h | rfl | h
      · exact .inr ⟨w, List.mem_cons_self, h⟩
      · exact .inl rfl
      · rcases ih h with rfl | ⟨v, hv, hc⟩
        · exact .inl rfl
        · exact .inr ⟨v, List.mem_cons_of_mem w hv, hc⟩

/-! ### Texts without white space at their ends -/

/-- Neither end of the text is white space. -/
def Bare (s : List Char) : Prop :=
  (∀ c ∈ s.head?, isBlank c = false) ∧ ∀ c ∈ s.getLast?, isBlank c = false

theorem trimStart_of_head {s : List Char} (h : ∀ c ∈ s.head?, isBlank c = false) :
    trimStart s = s := by
  cases s with
  | nil => rfl
  | cons c s => exact List.dropWhile_cons_of_neg (by simp [h c rfl])

theorem trimStart_append {b : List Char} (hb : ∀ c ∈ b, isBlank c = true) (s : List Char) :
    trimStart (b ++ s) = trimStart s :=
  List.dropWhile_append_of_pos hb

theorem head_trimStart (s : List Char) : ∀ c ∈ (trimStart s).head?, isBlank c = false :=
  head_dropWhile

/-- Trimming takes off what is white space around a bare text. -/
theorem trim_pad {b s b' : List Char} (hb : ∀ c ∈ b, isBlank c = true) (hs : Bare s)
    (hb' : ∀ c ∈ b', isBlank c = true) : trim (b ++ s ++ b') = s := by
  obtain ⟨hhead, hlast⟩ := hs
  rw [trim, List.append_assoc, trimStart_append hb]
  have hfront : trimStart (s ++ b') = s ++ b' ∨ s = [] ∧ trimStart (s ++ b') = [] := by
    cases s with
    | nil =>
      refine .inr ⟨rfl, ?_⟩
      have := trimStart_append hb' []
      rwa [List.append_nil] at this
    | cons c s => exact .inl (trimStart_of_head hhead)
  rcases hfront with hfront | ⟨rfl, hfront⟩
  · have hback : ∀ c ∈ s.reverse.head?, isBlank c = false := by
      rw [List.head?_reverse]
      exact hlast
    rw [hfront, List.reverse_append, trimStart_append (by simpa using hb'),
      trimStart_of_head hback, List.reverse_reverse]
  · rw [hfront]
    rfl

theorem trim_of_bare {s : List Char} (hs : Bare s) : trim s = s := by
  have : trim ([] ++ s ++ []) = s := trim_pad (by simp) hs (by simp)
  simpa using this

theorem bare_of_trim {s : List Char} (h : trim s = s) : Bare s := by
  have hlast : ∀ c ∈ (trim s).getLast?, isBlank c = false := by
    intro c hc
    rw [trim, List.getLast?_reverse] at hc
    exact head_trimStart _ c hc
  have hlen : (trim s).length ≤ (trimStart s).length := by
    have := (List.dropWhile_sublist isBlank (l := (trimStart s).reverse)).length_le
    simpa [trim, trimStart] using this
  have hstart : trimStart s = s := by
    refine (List.dropWhile_sublist isBlank).eq_of_length_le ?_
    rw [h] at hlen
    exact hlen
  rw [h] at hlast
  refine ⟨fun c hc ↦ head_trimStart s c ?_, hlast⟩
  rw [hstart]
  exact hc

theorem trim_isPrefix (s : List Char) : trim s <+: trimStart s := by
  have hsuffix : trimStart (trimStart s).reverse <:+ (trimStart s).reverse :=
    List.dropWhile_suffix _
  rw [trim, ← List.reverse_suffix, List.reverse_reverse]
  exact hsuffix

/-- What is left of a text stood in it. -/
theorem trim_isInfix (s : List Char) : trim s <:+: s :=
  (trim_isPrefix s).isInfix.trans (List.dropWhile_suffix _).isInfix

theorem bare_trim (s : List Char) : Bare (trim s) := by
  refine ⟨fun c hc ↦ ?_, fun c hc ↦ ?_⟩
  · obtain ⟨t, ht⟩ := trim_isPrefix s
    refine head_trimStart s c ?_
    rw [← ht]
    exact List.mem_head?_append_of_mem_head? hc
  · rw [trim, List.getLast?_reverse] at hc
    exact head_trimStart _ c hc

theorem trim_trim (s : List Char) : trim (trim s) = trim s :=
  trim_of_bare (bare_trim s)

/-- Something bare in front of a text leaves its end as it is. -/
theorem Bare.cons {c : Char} {s : List Char} (hc : isBlank c = false) (hs : Bare s) :
    Bare (c :: s) := by
  refine ⟨fun d hd ↦ by rwa [← Option.mem_some.1 hd], fun d hd ↦ ?_⟩
  by_cases hnil : s = []
  · subst hnil
    rwa [← Option.mem_some.1 hd]
  · rw [List.getLast?_cons_of_ne_nil hnil] at hd
    exact hs.2 d hd

theorem bare_of_isPlain {w : List Char} (h : ∀ c ∈ w, isPlain c = true) : Bare w :=
  ⟨fun _ hc ↦ isBlank_of_isPlain (h _ (List.mem_of_head? hc)),
    fun _ hc ↦ isBlank_of_isPlain (h _ (List.mem_of_getLast? hc))⟩

theorem bare_spaced {ws : List (List Char)}
    (h : ∀ w ∈ ws, w ≠ [] ∧ ∀ c ∈ w, isPlain c = true) : Bare (spaced ws) := by
  induction ws with
  | nil => exact bare_of_isPlain (by simp [spaced, List.intercalate_nil])
  | cons w ws ih =>
    obtain ⟨⟨hne, hw⟩, hrest⟩ := List.forall_mem_cons.1 h
    by_cases hnil : ws = []
    · rw [hnil, spaced, List.intercalate_singleton]
      exact bare_of_isPlain hw
    · rw [spaced_cons w hnil]
      have hspaced : spaced ws ≠ [] := by
        obtain ⟨v, vs, rfl⟩ := List.exists_cons_of_ne_nil hnil
        have hv := (hrest v List.mem_cons_self).1
        by_cases hvs : vs = []
        · rw [hvs, spaced, List.intercalate_singleton]
          exact hv
        · rw [spaced_cons v hvs]
          simp
      refine ⟨fun c hc ↦ ?_, fun c hc ↦ (ih hrest).2 c ?_⟩
      · rw [List.head?_append_of_ne_nil _ hne] at hc
        exact (bare_of_isPlain hw).1 c hc
      · rwa [List.getLast?_append_of_ne_nil _ (List.cons_ne_nil _ _),
          List.getLast?_cons_of_ne_nil hspaced] at hc

/-! ### Word characters -/

/-- Ranges that do not overlap have no number in common. -/
theorem inRanges_eq_false {rs qs : List (Nat × Nat)} {n : Nat}
    (h : (rs.all fun r ↦ qs.all fun q ↦ decide (r.2 < q.1 ∨ q.2 < r.1)) = true)
    (hn : inRanges rs n = true) : inRanges qs n = false := by
  by_contra hq
  rw [Bool.not_eq_false, inRanges, List.any_eq_true] at hq
  rw [inRanges, List.any_eq_true] at hn
  obtain ⟨r, hr, hrn⟩ := hn
  obtain ⟨q, hq, hqn⟩ := hq
  have := List.all_eq_true.1 (List.all_eq_true.1 h r hr) q hq
  simp only [Bool.and_eq_true, decide_eq_true_eq] at hrn hqn this
  omega

theorem isBlank_eq_false_of_isWord {c : Char} (h : isWord c = true) : isBlank c = false := by
  rw [isWord] at h
  split at h
  · rename_i hascii
    have hall : ∀ n < 0x80,
        (isLetter (Char.ofNat n) || (Char.ofNat n).isDigit || Char.ofNat n == '_') = true →
          isBlank (Char.ofNat n) = false := by
      decide +kernel
    have := hall c.toNat hascii
    rw [Char.ofNat_toNat] at this
    exact this h
  · exact inRanges_eq_false (by decide +kernel) h

theorem isWord_of_isDigit {c : Char} (h : c.isDigit = true) : isWord c = true := by
  have hascii : c.toNat < 0x80 := by
    simp only [Char.isDigit, Bool.and_eq_true, decide_eq_true_eq] at h
    exact Nat.lt_of_le_of_lt (UInt32.le_iff_toNat_le.1 h.2) (by decide)
  rw [isWord, if_pos hascii, h, Bool.or_true]
  rfl

theorem isWord_of_isLetter {c : Char} (h : isLetter c = true) : isWord c = true := by
  have hascii : c.toNat < 0x80 := by
    rw [isLetter, Bool.or_eq_true] at h
    rcases h with h | h
    · have hle : c.val ≤ 'Z'.val := (of_decide_eq_true h).2
      exact Nat.lt_of_le_of_lt (UInt32.le_iff_toNat_le.1 hle) (by decide)
    · have hle : c.val ≤ 'z'.val := of_decide_eq_true (Bool.and_eq_true_iff.1 h).2
      exact Nat.lt_of_le_of_lt (UInt32.le_iff_toNat_le.1 hle) (by decide)
  rw [isWord, if_pos hascii, h]
  rfl

/-- A character that no word has is not one that a word has. -/
theorem ne_of_isWord {c d : Char} (h : isWord c = true) (hd : isWord d = false := by decide) :
    c ≠ d := by
  rintro rfl
  rw [hd] at h
  exact Bool.false_ne_true h

theorem braceFree_of_isWord {s : List Char} (h : ∀ c ∈ s, isWord c = true) : BraceFree s :=
  fun c hc ↦ ⟨ne_of_isWord (h c hc), ne_of_isWord (h c hc)⟩

end Phrasebook.Text
