import Phrasebook.Proofs.Scanning

/-!
Styles, offsets, selectors and pieces of text as the reader finds them. What follows a style, an
offset or a selector is never part of it, so the longest one that stands there is the only one.
-/

set_option autoImplicit false

namespace Phrasebook.Grammar

open Arithmetic Text Message

/-! ### Pieces of text -/

theorem run_iff {s w t : List Char} : Run s w t ↔ takeRun s = (w, t) := by
  constructor
  · intro h
    induction h with
    | unclosed => rfl
    | @closed s hs =>
      cases s with
      | nil => rfl
      | cons c s =>
        have hc : c ≠ '\'' := by simpa using hs
        simp [takeRun, hc]
    | doubled _ ih => simp [takeRun, ih]
    | @char c s w t hc _ ih => simp [takeRun, hc, ih]
  · intro h
    induction s using takeRun.induct generalizing w t with
    | case1 =>
      cases h
      exact .unclosed
    | case2 s ih =>
      cases h
      exact .doubled (ih rfl)
    | case3 s hs =>
      rw [takeRun.eq_3 _ hs] at h
      cases h
      refine .closed fun hc ↦ ?_
      obtain ⟨r, rfl⟩ := List.head?_eq_some_iff.1 hc
      exact hs r rfl
    | case4 c s hs hc ih =>
      rw [takeRun.eq_4 _ _ hs hc] at h
      cases h
      exact .char hc (ih rfl)

theorem takeApostrophe_iff {inPlural : Bool} {s w t : List Char} :
    Piece inPlural ('\'' :: s) w t ↔ takeApostrophe inPlural s = (w, t) := by
  constructor
  · intro h
    cases h with
    | char hc => exact absurd rfl hc
    | doubled => rfl
    | quoted hq hr =>
      rw [run_iff] at hr
      rcases hq with rfl | rfl | ⟨rfl, rfl⟩ <;> simpa [takeApostrophe] using hr
    | lone hs =>
      unfold takeApostrophe
      split
      · exact absurd rfl (hs _ rfl).1
      · exact absurd (.inl rfl) (hs _ rfl).2
      · exact absurd (.inr (.inl rfl)) (hs _ rfl).2
      · split
        · rename_i hp
          exact absurd (.inr (.inr ⟨hp, rfl⟩)) (hs _ rfl).2
        · rfl
      · rfl
  · intro h
    unfold takeApostrophe at h
    split at h
    · cases h
      exact .doubled
    · exact .quoted (.inl rfl) (run_iff.2 h)
    · exact .quoted (.inr (.inl rfl)) (run_iff.2 h)
    · split at h
      · rename_i hp
        exact .quoted (.inr (.inr ⟨hp, rfl⟩)) (run_iff.2 h)
      · rename_i hp
        cases h
        exact .lone (by simp [Quotable, hp])
    · rename_i h₁ h₂ h₃ h₄
      cases h
      refine .lone fun c hc ↦ ?_
      obtain ⟨r, rfl⟩ := List.head?_eq_some_iff.1 (Option.mem_def.1 hc)
      refine ⟨fun hc ↦ h₁ r (hc ▸ rfl), ?_⟩
      rintro (rfl | rfl | ⟨-, rfl⟩)
      · exact h₂ r rfl
      · exact h₃ r rfl
      · exact h₄ r rfl

/-- A piece of text begins where no argument, option end or number sign does. -/
theorem piece_cons_iff {inPlural : Bool} {c : Char} {s w t : List Char} :
    Piece inPlural (c :: s) w t ↔ c ≠ '{' ∧ c ≠ '}' ∧ ¬ (c = '#' ∧ inPlural = true) ∧
      (if c = '\'' then takeApostrophe inPlural s else ([c], s)) = (w, t) := by
  by_cases hc : c = '\''
  · subst hc
    simp [takeApostrophe_iff]
  · rw [if_neg hc]
    constructor
    · intro h
      cases h with
      | char _ hq =>
        exact ⟨fun h ↦ hq (.inl h), fun h ↦ hq (.inr (.inl h)),
          fun h ↦ hq (.inr (.inr ⟨h.2, h.1⟩)), rfl⟩
      | doubled => exact absurd rfl hc
      | quoted => exact absurd rfl hc
      | lone => exact absurd rfl hc
    · rintro ⟨h₁, h₂, h₃, h⟩
      cases h
      refine .char hc ?_
      rintro (h | h | ⟨hp, h⟩)
      · exact h₁ h
      · exact h₂ h
      · exact h₃ ⟨h, hp⟩

theorem Piece.ne_nil {inPlural : Bool} {s w t : List Char} (h : Piece inPlural s w t) :
    ∃ c u, s = c :: u := by
  cases h with
  | char => exact ⟨_, _, rfl⟩
  | doubled => exact ⟨_, _, rfl⟩
  | quoted => exact ⟨_, _, rfl⟩
  | lone => exact ⟨_, _, rfl⟩

/-! ### Styles -/

theorem mem_of_mem_trim {s : List Char} {c : Char} (h : c ∈ trim s) : c ∈ s :=
  (trim_isInfix s).mem h

/-- Trimming takes off white space only. -/
theorem mem_trim {s : List Char} {c : Char} (h : c ∈ s) (hc : isBlank c = false) : c ∈ trim s := by
  have hstart : ∀ r : List Char, c ∈ r → c ∈ trimStart r := by
    intro r hr
    rw [← List.takeWhile_append_dropWhile (p := isBlank) (l := r)] at hr
    rcases List.mem_append.1 hr with hr | hr
    · rw [List.mem_takeWhile_imp hr] at hc
      cases hc
    · exact hr
  exact List.mem_reverse.2 (hstart _ (List.mem_reverse.2 (hstart s h)))

theorem formatted_eq_unstyled (name : String) (type : FormattedType) :
    (formatted name type none).1 = unstyled name type := by
  cases type <;> rfl

theorem after?_eq_none_iff {p s : List Char} : after? p s = none ↔ ¬ p <+: s := by
  constructor
  · rintro h ⟨t, rfl⟩
    simp at h
  · intro h
    cases ha : after? p s with
    | none => rfl
    | some t => exact absurd ⟨t, (append_of_after? ha).symm⟩ h

/-- A style means what the reader makes of it. -/
theorem styled_iff {name : String} {type : FormattedType} {w : List Char} {e : Element} :
    Styled name type w e ↔ (formatted name type (some w)).1 = e := by
  constructor
  · intro h
    cases h with
    | number h => simp [formatted, after?_eq_none_iff.2 h]
    | numberSkeleton k => rfl
    | date h => simp [formatted, after?_eq_none_iff.2 h]
    | dateSkeleton k => rfl
    | time h => simp [formatted, after?_eq_none_iff.2 h]
    | timeSkeleton k => rfl
  · rintro rfl
    by_cases h : [':', ':'] <+: w
    · obtain ⟨k, rfl⟩ := h
      cases type
      · exact .numberSkeleton k
      · exact .dateSkeleton k
      · exact .timeSkeleton k
    · cases type <;> simp only [formatted, Option.bind_some, after?_eq_none_iff.2 h,
        Option.map_none, Option.isSome_none, Bool.false_eq_true, if_false, Option.map_some]
      · exact .number h
      · exact .date h
      · exact .time h

theorem styleEnd_of_parseStyle {name : String} {type : FormattedType} {s : List Char}
    {x : Parsed s Element} (h : parseStyle name type s = .ok x) :
    StyleEnd name type s x.value x.rest := by
  unfold parseStyle at h
  split at h
  · rename_i t hs
    dsimp only at h
    split at h
    · cases h
    · rename_i c rest hrest
      split at h
      · cases h
      · rename_i hbrace
        split at h
        · cases h
        · rename_i hne
          cases h
          have hc : c = '}' := by
            simpa using head_dropWhile (p := (· ≠ '}')) (s := t) c (by rw [hrest]; rfl)
          subst hc
          refine .styled ⟨t.takeWhile (· ≠ '}'), ?_, ?_, rfl, by simpa using hne⟩ (styled_iff.2 rfl)
          · rw [← hrest, List.takeWhile_append_dropWhile]
            have hcomma := blanks_skipSpace s
            rwa [hs] at hcomma
          · intro d hd
            refine ⟨?_, by simpa using List.mem_takeWhile_imp hd⟩
            rintro rfl
            exact hbrace (by simpa using mem_trim hd (by decide))
  · split at h
    · cases h
    · rename_i r hr
      cases h
      rw [formatted_eq_unstyled]
      exact .unstyled (sign_of_expect hr)

theorem parseStyle_of_styleEnd {name : String} {type : FormattedType} {s t : List Char}
    {e : Element} (h : StyleEnd name type s e t) :
    ∃ x, parseStyle name type s = .ok x ∧ x.value = e ∧ x.rest = t := by
  cases h with
  | unstyled h =>
    unfold parseStyle
    split
    · rename_i u hu
      rw [Blanks.skipSpace_cons h (by decide)] at hu
      cases hu
    · split
      · rename_i f hf
        exact absurd h (not_sign_of_expect (by decide) hf)
      · rename_i r hr
        exact ⟨_, rfl, formatted_eq_unstyled name type,
          (Sign.unique (sign_of_expect hr) h (by decide) (by decide)).2⟩
  | @styled w _ _ h he =>
    obtain ⟨v, hs, hv, rfl, hne⟩ := h
    have hstop : ∀ c ∈ ('}' :: t).head?, decide (c ≠ '}') = false := by simp
    have hall : ∀ c ∈ v, decide (c ≠ '}') = true := fun c hc ↦ by simpa using (hv c hc).2
    have htake := takeWhile_append_stop hall hstop
    have hdrop := dropWhile_append_stop hall hstop
    unfold parseStyle
    split
    · rename_i u hu
      rw [Blanks.skipSpace_cons hs (by decide)] at hu
      cases hu
      dsimp only
      split
      · rename_i hnil
        rw [hdrop] at hnil
        cases hnil
      · rename_i c rest hrest
        rw [hdrop] at hrest
        cases hrest
        have hbrace : ¬ (trim ((v ++ '}' :: t).takeWhile (· ≠ '}'))).contains '{' = true := by
          rw [htake]
          simp only [List.contains_eq_mem, decide_eq_true_eq]
          exact fun hmem ↦ (hv _ (mem_of_mem_trim hmem)).1 rfl
        rw [if_neg hbrace, if_neg (by rw [htake]; simpa using hne)]
        refine ⟨_, rfl, ?_, rfl⟩
        dsimp only
        rw [htake]
        exact styled_iff.1 he
    · rename_i hno
      exact absurd (Blanks.skipSpace_cons hs (by decide)) (hno _)

/-- What holds of every number, date and time under a name holds of each argument that shows one
value, whatever style it has. -/
@[elab_as_elim]
theorem StyleEnd.forall_shown {name : String} {type : FormattedType} {s t : List Char} {e : Element}
    {motive : Element → Prop} (h : StyleEnd name type s e t)
    (number : ∀ style options, motive (.number name style options))
    (date : ∀ style skeleton, motive (.date name style skeleton))
    (time : ∀ style skeleton, motive (.time name style skeleton)) : motive e := by
  cases h with
  | unstyled =>
    cases type with
    | number => exact number none none
    | date => exact date none none
    | time => exact time none none
  | styled _ he =>
    cases he with
    | number | numberSkeleton => exact number _ _
    | date | dateSkeleton => exact date _ _
    | time | timeSkeleton => exact time _ _

theorem cause_of_parseStyle {name : String} {type : FormattedType} {s : List Char} {f : Failure}
    (h : parseStyle name type s = .error f) (l : LongNumeral) : f.cause ≠ .longOffset l := by
  unfold parseStyle at h
  split at h
  · dsimp only at h
    split at h
    · cases h
      simp
    · split at h
      · cases h
        simp
      · split at h <;> cases h
        simp
  · split at h
    · rename_i g hg
      cases h
      exact cause_of_expect hg l
    · cases h

/-! ### Digits and offsets -/

/-- No digit of any script is white space. -/
theorem isBlank_eq_false_of_isDigit {c : Char} (h : isDigit c = true) : isBlank c = false := by
  have hzeros : ∀ z ∈ digitZeros, z ≠ 0x30 → ∀ k < 10, inRanges
      [(0x09, 0x0D), (0x1C, 0x20), (0x85, 0x85), (0xA0, 0xA0), (0x1680, 0x1680),
        (0x2000, 0x200A), (0x2028, 0x2029), (0x202F, 0x202F), (0x205F, 0x205F),
        (0x3000, 0x3000)] (z + k) = false := by decide +kernel
  have hascii : ∀ k < 10, inRanges
      [(0x09, 0x0D), (0x1C, 0x20), (0x85, 0x85), (0xA0, 0xA0), (0x1680, 0x1680),
        (0x2000, 0x200A), (0x2028, 0x2029), (0x202F, 0x202F), (0x205F, 0x205F),
        (0x3000, 0x3000)] (0x30 + k) = false := by decide
  unfold isDigit digitValue? at h
  unfold isBlank
  split at h
  · split at h
    · rename_i hd
      simp only [Char.isDigit, Bool.and_eq_true, decide_eq_true_eq, ge_iff_le,
        UInt32.le_iff_toNat_le] at hd
      obtain ⟨k, hk⟩ : ∃ k, c.toNat = 0x30 + k := ⟨c.toNat - 0x30, by
        have : 0x30 ≤ c.toNat := hd.1
        omega⟩
      rw [hk]
      have : c.toNat ≤ 0x39 := hd.2
      exact hascii k (by omega)
    · cases h
  · rename_i hlarge
    rw [Option.isSome_map] at h
    obtain ⟨z, hz⟩ := Option.isSome_iff_exists.1 h
    have hmem := List.mem_of_find?_eq_some hz
    have hp := List.find?_some hz
    simp only [Bool.and_eq_true, decide_eq_true_eq] at hp
    obtain ⟨k, hk⟩ : ∃ k, c.toNat = z + k := ⟨c.toNat - z, by omega⟩
    rw [hk]
    exact hzeros z hmem (by omega) k (by omega)

theorem takeDigits_eq {ds t : List Char} (hds : ∀ c ∈ ds, isDigit c = true)
    (ht : ∀ c ∈ t.head?, isDigit c = false) :
    takeDigits (ds ++ t) = (ds.filterMap digitValue?, t) := by
  induction ds with
  | nil =>
    cases t with
    | nil => rfl
    | cons c t =>
      have hc : digitValue? c = none := by simpa [isDigit] using ht c rfl
      simp [takeDigits, hc]
  | cons c ds ih =>
    obtain ⟨d, hd⟩ := Option.isSome_iff_exists.1 (hds c List.mem_cons_self)
    simp [takeDigits, hd, ih fun x hx ↦ hds x (List.mem_cons_of_mem c hx)]

/-- A minus sign or nothing, and digits, spell the whole number that they should. -/
theorem readInt?_digits {ds : List Char} (h : Digits ds) (negative : Bool) :
    readInt? (minus negative ++ ds) =
      some (signedValue negative ds) := by
  obtain ⟨hne, hds⟩ := h
  have htake : takeDigits ds = (ds.filterMap digitValue?, []) := by
    simpa using takeDigits_eq (t := []) hds (by simp)
  obtain ⟨c, r, rfl⟩ := List.exists_cons_of_ne_nil hne
  have hc := hds c List.mem_cons_self
  have hminus : c ≠ '-' := by
    rintro rfl
    cases hc
  obtain ⟨d, hd⟩ := Option.isSome_iff_exists.1 hc
  have hcons : (c :: r).filterMap digitValue? = d :: r.filterMap digitValue? :=
    List.filterMap_cons_some hd
  cases negative <;> simp [readInt?, minus, htake, hminus, hcons, digitsValue, signedValue]

theorem takeMinus_minus (negative : Bool) {s : List Char} (hs : s.head? ≠ some '-') :
    takeMinus (minus negative ++ s) = (minus negative, s) := by
  cases negative with
  | true => rfl
  | false =>
    cases s with
    | nil => rfl
    | cons c s =>
      have hc : c ≠ '-' := by simpa using hs
      simp [takeMinus, minus, hc]

theorem exists_minus (s : List Char) : ∃ negative, (takeMinus s).1 = minus negative := by
  unfold takeMinus
  split
  · exact ⟨true, rfl⟩
  · exact ⟨false, rfl⟩

/-- A sign alone spells no number. -/
theorem readInt?_takeMinus (s : List Char) : readInt? ((takeMinus s).1 ++ []) = none := by
  obtain ⟨negative, hneg⟩ := exists_minus s
  rw [hneg]
  cases negative <;> rfl

theorem OffsetDigits.digits {s ds t : List Char} {negative : Bool}
    (h : OffsetDigits s negative ds t) : Digits ds := by
  obtain ⟨_, -, -, hds, -⟩ := h
  exact hds

/-- Where an offset stands, it is taken whole. -/
theorem OffsetDigits.scan {s ds t : List Char} {negative : Bool} (h : OffsetDigits s negative ds t)
    (hs : ∀ c ∈ s.head?, isSpace c = false) :
    ∃ u, s = "offset".toList ++ ':' :: u ∧
      takeMinus (u.dropWhile isBlank) = (minus negative, ds ++ t) ∧
      (ds ++ t).takeWhile isDigit = ds ∧ (ds ++ t).dropWhile isDigit = t := by
  obtain ⟨b, hb, hoff, ⟨hne, hds⟩, ht⟩ := h
  obtain ⟨c, r, rfl⟩ := List.exists_cons_of_ne_nil hne
  have hc := hds c List.mem_cons_self
  have hminus : c ≠ '-' := by
    rintro rfl
    cases hc
  have hstop : ∀ d ∈ (minus negative ++ (c :: r ++ t)).head?, isBlank d = false := by
    intro d hd
    cases negative with
    | true =>
      obtain rfl : '-' = d := by simpa [minus] using hd
      decide
    | false =>
      obtain rfl : c = d := by simpa [minus] using hd
      exact isBlank_eq_false_of_isDigit hc
  refine ⟨b ++ (minus negative ++ (c :: r ++ t)), hoff.eq_of_head hs ⟨'o', rfl, by decide⟩, ?_,
    takeWhile_append_stop hds ht, dropWhile_append_stop hds ht⟩
  rw [dropWhile_append_stop hb hstop]
  exact takeMinus_minus negative (by simpa using hminus)

theorem offsetDigits_of_scan {s u : List Char} (hs : s = "offset".toList ++ ':' :: u)
    (hne : (takeMinus (u.dropWhile isBlank)).2.takeWhile isDigit ≠ []) :
    ∃ negative, (takeMinus (u.dropWhile isBlank)).1 = minus negative ∧
      OffsetDigits s negative ((takeMinus (u.dropWhile isBlank)).2.takeWhile isDigit)
        ((takeMinus (u.dropWhile isBlank)).2.dropWhile isDigit) := by
  obtain ⟨negative, hneg⟩ := exists_minus (u.dropWhile isBlank)
  refine ⟨negative, hneg, u.takeWhile isBlank, fun _ hc ↦ List.mem_takeWhile_imp hc, ?_,
    ⟨hne, fun _ hc ↦ List.mem_takeWhile_imp hc⟩, head_dropWhile⟩
  rw [List.takeWhile_append_dropWhile, ← hneg, takeMinus_append, List.takeWhile_append_dropWhile,
    ← hs]
  exact Blanks.refl s

/-- Before an offset that is found stands nothing that could be skipped. -/
theorem offset_of_takeOffset {s : List Char} {n : Int}
    {r : { r : List Char // r.length ≤ s.length }}
    (hs : ∀ c ∈ s.head?, isSpace c = false) (h : takeOffset s = .ok (n, r)) :
    Offset Readable s n r.1 := by
  unfold takeOffset at h
  split at h
  · rename_i hno
    cases h
    refine .absent fun t ht ↦ after?_eq_none_iff.1 hno ⟨t, ?_⟩
    exact (ht.eq_of_head hs ⟨'o', rfl, by decide⟩).symm
  · rename_i t ht
    have hst := append_of_after? ht
    dsimp only at h
    split at h
    · rename_i u
      split at h
      · cases h
      · rename_i n' hcheck hread
        split at h
        · cases h
          have hne : (takeMinus (u.dropWhile isBlank)).2.takeWhile isDigit ≠ [] := by
            intro hnil
            rw [hnil, readInt?_takeMinus] at hread
            cases hread
          obtain ⟨negative, hneg, hoff⟩ := offsetDigits_of_scan hst hne
          have hlen : Readable ((takeMinus (u.dropWhile isBlank)).2.takeWhile isDigit).length := by
            unfold LongNumeral.check at hcheck
            split at hcheck
            · cases hcheck
            · exact Nat.le_of_not_lt ‹_›
          rw [hneg, readInt?_digits hoff.digits] at hread
          cases hread
          exact .given hoff hlen
        · cases h
      · cases h
    · cases h

theorem takeOffset_of_offset {s t : List Char} {n : Int} (hs : ∀ c ∈ s.head?, isSpace c = false)
    (h : Offset Readable s n t) : ∃ ht, takeOffset s = .ok (n, ⟨t, ht⟩) := by
  cases h with
  | absent h =>
    refine ⟨Nat.le_refl _, ?_⟩
    have hno : after? "offset".toList s = none :=
      after?_eq_none_iff.2 fun ⟨t, ht⟩ ↦ h t (ht ▸ Blanks.refl _)
    simp only [takeOffset, hno]
  | @given negative ds t hoff hlen =>
    obtain ⟨u, rfl, hminus, htake, hdrop⟩ := hoff.scan hs
    have hle : t.length ≤ ("offset".toList ++ ':' :: u).length := by
      have h₁ := congrArg List.length (takeMinus_append (u.dropWhile isBlank))
      have h₂ := length_dropWhile_le isBlank u
      rw [hminus] at h₁
      simp only [List.length_append, List.length_cons] at h₁ ⊢
      omega
    refine ⟨hle, ?_⟩
    have hcheck : LongNumeral.check ds = .ok () := if_neg (Nat.not_lt.2 hlen)
    simp only [takeOffset, after?_append, hminus, htake, hdrop, hcheck, readInt?_digits hoff.digits]
    rw [dif_pos hle]

theorem longOffset_of_takeOffset {s : List Char} {f : Failure} {l : LongNumeral}
    (h : takeOffset s = .error f) (hl : f.cause = .longOffset l) :
    ∃ negative ds t, OffsetDigits s negative ds t ∧ ¬ Readable ds.length ∧
      l.digits = ds.length := by
  unfold takeOffset at h
  split at h
  · cases h
  · rename_i t ht
    dsimp only at h
    split at h
    · rename_i u
      split at h
      · rename_i g _ hcheck
        cases h
        cases hl
        unfold LongNumeral.check at hcheck
        split at hcheck
        · rename_i hlen
          cases hcheck
          have hne : (takeMinus (u.dropWhile isBlank)).2.takeWhile isDigit ≠ [] := by
            intro hnil
            rw [hnil] at hlen
            cases hlen
          obtain ⟨negative, -, hoff⟩ := offsetDigits_of_scan (append_of_after? ht) hne
          exact ⟨negative, _, _, hoff, Nat.not_le.2 hlen, rfl⟩
        · cases hcheck
      · split at h <;> cases h
        cases hl
      · cases h
        cases hl
    · cases h
      cases hl

theorem takeOffset_of_long {s ds t : List Char} {negative : Bool}
    (hs : ∀ c ∈ s.head?, isSpace c = false) (h : OffsetDigits s negative ds t)
    (hlen : ¬ Readable ds.length) :
    ∃ f, takeOffset s = .error f ∧ f.cause = .longOffset ⟨ds.length⟩ := by
  obtain ⟨u, rfl, hminus, htake, hdrop⟩ := h.scan hs
  have hcheck : LongNumeral.check ds = .error ⟨ds.length⟩ := if_pos (Nat.not_le.1 hlen)
  refine ⟨⟨.longOffset ⟨ds.length⟩, ("offset".toList ++ ':' :: u).length, []⟩, ?_, rfl⟩
  simp only [takeOffset, after?_append, hminus, htake, hcheck]

/-! ### Selectors -/

theorem takeDigitChars?_append_stop {ds t : List Char} (h : Digits ds)
    (ht : ∀ c ∈ t.head?, isDigit c = false) : takeDigitChars? (ds ++ t) = some (ds, t) := by
  unfold takeDigitChars?
  rw [takeWhile_append_stop h.2 ht, dropWhile_append_stop h.2 ht, if_neg (by simpa using h.1)]

theorem digits_of_takeDigitChars? {s : List Char} {w : List Char × List Char}
    (h : takeDigitChars? s = some w) : Digits w.1 := by
  unfold takeDigitChars? at h
  split at h
  · cases h
  · rename_i hne
    cases h
    exact ⟨by simpa using hne, fun _ hc ↦ List.mem_takeWhile_imp hc⟩

theorem places_of_takeFraction (s : List Char) :
    (takeFraction s).1 = [] ∨ ∃ fs, Digits fs ∧ (takeFraction s).1 = '.' :: fs := by
  unfold takeFraction
  split
  · split
    · rename_i w hw
      exact .inr ⟨_, digits_of_takeDigitChars? hw, rfl⟩
    · exact .inl rfl
  · exact .inl rfl

theorem exactSelector_of_takeExact? {s : List Char} {w : List Char × List Char}
    (h : takeExact? s = some w) : ExactSelector w.1 := by
  unfold takeExact? at h
  split at h
  · rename_i t
    obtain ⟨u, hu, rfl⟩ := Option.map_eq_some_iff.1 h
    obtain ⟨negative, hneg⟩ := exists_minus t
    exact ⟨negative, u.1, _, digits_of_takeDigitChars? hu, places_of_takeFraction u.2, by rw [hneg]⟩
  · cases h

/-- Digits after an equality sign are found, whatever follows them. -/
theorem ExactSelector.isSome_takeExact? {w : List Char} (h : ExactSelector w) (t : List Char) :
    (takeExact? (w ++ t)).isSome = true := by
  obtain ⟨negative, ds, places, ⟨hne, hds⟩, -, rfl⟩ := h
  obtain ⟨c, r, rfl⟩ := List.exists_cons_of_ne_nil hne
  have hc := hds c List.mem_cons_self
  have hminus : c ≠ '-' := by
    rintro rfl
    cases hc
  have hsplit : '=' :: minus negative ++ c :: r ++ places ++ t =
      '=' :: (minus negative ++ c :: (r ++ (places ++ t))) := by simp
  rw [hsplit, takeExact?, takeMinus_minus negative (by simpa using hminus), takeDigitChars?]
  simp [hc]

/-- A selector that names a number is taken whole where neither a digit nor a point follows it. -/
theorem ExactSelector.takeExact?_append {w t : List Char} (h : ExactSelector w)
    (ht : ∀ c ∈ t.head?, isDigit c = false ∧ c ≠ '.') : takeExact? (w ++ t) = some (w, t) := by
  obtain ⟨negative, ds, places, hds, hplaces, rfl⟩ := h
  have hdt : ∀ c ∈ t.head?, isDigit c = false := fun c hc ↦ (ht c hc).1
  have hhead : ∀ r, (ds ++ r).head? ≠ some '-' := by
    obtain ⟨hne, hall⟩ := hds
    obtain ⟨c, r, rfl⟩ := List.exists_cons_of_ne_nil hne
    have hc := hall c List.mem_cons_self
    rintro r' h'
    cases h'
    cases hc
  have hplacesHead : ∀ c ∈ (places ++ t).head?, isDigit c = false := by
    rcases hplaces with rfl | ⟨fs, -, rfl⟩
    · exact hdt
    · intro c hc
      cases hc
      decide
  have hfraction : takeFraction (places ++ t) = (places, t) := by
    rcases hplaces with rfl | ⟨fs, hfs, rfl⟩
    · rw [List.nil_append]
      unfold takeFraction
      split
      · exact absurd rfl (ht '.' rfl).2
      · rfl
    · simp only [List.cons_append, takeFraction, takeDigitChars?_append_stop hfs hdt]
  have hsplit : '=' :: minus negative ++ ds ++ places ++ t =
      '=' :: (minus negative ++ (ds ++ (places ++ t))) := by simp
  rw [hsplit, takeExact?, takeMinus_minus negative (hhead _)]
  simp only [takeDigitChars?_append_stop hds hplacesHead, Option.map_some, hfraction]

theorem ExactSelector.not_isSpace {w : List Char} (h : ExactSelector w) :
    ∀ c ∈ w, isSpace c = false ∧ c ≠ '{' ∧ c ≠ '}' := by
  have hdigit : ∀ c, isDigit c = true → isSpace c = false ∧ c ≠ '{' ∧ c ≠ '}' := by
    intro c hc
    refine ⟨?_, ?_, ?_⟩
    · by_contra hspace
      rw [(classes_of_isSpace (Bool.of_not_eq_false hspace)).2.2.2] at hc
      cases hc
    · rintro rfl
      cases hc
    · rintro rfl
      cases hc
  obtain ⟨negative, ds, places, hds, hplaces, rfl⟩ := h
  intro c hc
  simp only [List.cons_append, List.mem_cons, List.mem_append] at hc
  rcases hc with rfl | (hc | hc) | hc
  · decide
  · cases negative with
    | true =>
      obtain rfl := List.mem_singleton.1 hc
      decide
    | false => cases hc
  · exact hdigit c (hds.2 c hc)
  · rcases hplaces with rfl | ⟨fs, hfs, rfl⟩
    · cases hc
    · rcases List.mem_cons.1 hc with rfl | hc
      · decide
      · exact hdigit c (hfs.2 c hc)

theorem Selector.exists_cons {w : List Char} (h : Selector w) :
    ∃ c r, w = c :: r ∧ isSpace c = false ∧ c ≠ '{' ∧ c ≠ '}' := by
  rcases h with h | ⟨hne, hw, -⟩
  · have hw := h.not_isSpace
    obtain ⟨negative, ds, places, -, -, rfl⟩ := h
    exact ⟨'=', _, rfl, hw _ List.mem_cons_self⟩
  · obtain ⟨c, r, rfl⟩ := List.exists_cons_of_ne_nil hne
    have hc := hw c List.mem_cons_self
    refine ⟨c, r, rfl, isSpace_eq_false_of_isSelectorChar hc, ?_, ?_⟩ <;> rintro rfl <;> cases hc

theorem Selector.braceFree {w : List Char} (h : Selector w) : BraceFree w := by
  rcases h with h | ⟨-, hw, -⟩
  · exact fun c hc ↦ (h.not_isSpace c hc).2
  · refine fun c hc ↦ ⟨?_, ?_⟩ <;> rintro rfl <;> exact absurd (hw _ hc) (by decide)

theorem selector_of_takeSelector {s : List Char} (hne : (takeSelector s).1 ≠ []) :
    Selector (takeSelector s).1 := by
  unfold takeSelector at hne ⊢
  cases he : takeExact? s with
  | some w => exact .inl (exactSelector_of_takeExact? he)
  | none =>
    rw [he] at hne
    refine .inr ⟨hne, fun _ hc ↦ List.mem_takeWhile_imp hc, fun u v hu huv ↦ ?_⟩
    have hs : s = u ++ (v ++ s.dropWhile isSelectorChar) := by
      rw [← List.append_assoc, ← huv]
      exact List.takeWhile_append_dropWhile.symm
    have := hu.isSome_takeExact? (v ++ s.dropWhile isSelectorChar)
    rw [← hs, he] at this
    cases this

/-- A selector is taken whole where a blank or an opening brace follows it. -/
theorem Selector.takeSelector_append {w t : List Char} (h : Selector w)
    (ht : ∀ c ∈ t.head?, isSpace c = true ∨ c = '{') : takeSelector (w ++ t) = (w, t) := by
  have hstop : ∀ c ∈ t.head?, isSelectorChar c = false ∧ isDigit c = false ∧ c ≠ '.' := by
    intro c hc
    rcases ht c hc with hc | rfl
    · refine ⟨(classes_of_isSpace hc).2.2.1, (classes_of_isSpace hc).2.2.2, ?_⟩
      rintro rfl
      cases hc
    · decide
  unfold takeSelector
  rcases h with h | ⟨hne, hw, hno⟩
  · rw [h.takeExact?_append fun c hc ↦ (hstop c hc).2]
    rfl
  · cases he : takeExact? (w ++ t) with
    | none =>
      have hsel : ∀ c ∈ t.head?, isSelectorChar c = false := fun c hc ↦ (hstop c hc).1
      simp [takeWhile_append_stop hw hsel, dropWhile_append_stop hw hsel]
    | some x =>
      exfalso
      have hx := exactSelector_of_takeExact? he
      rcases List.append_eq_append_iff.1 (takeExact?_append he) with ⟨v, hv, -⟩ | ⟨v, hv, hvt⟩
      · exact hno _ v hx hv
      · cases v with
        | nil => exact hno x.1 [] hx (by simpa using hv.symm)
        | cons d v =>
          have hd := hx.not_isSpace d (by rw [hv]; simp)
          rcases ht d (by rw [hvt]; rfl) with hs | hs
          · rw [hd.1] at hs
            cases hs
          · exact hd.2.1 hs

end Phrasebook.Grammar
