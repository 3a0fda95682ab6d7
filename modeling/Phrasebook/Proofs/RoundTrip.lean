import Phrasebook.Proofs.Acceptance
import Phrasebook.Proofs.Printing

/-!
Reading a written message gives it back.

The text of a message is derived by the grammar, element by element. A text is a row of pieces that
spells it (`pieces_literalText`), whatever the characters in it are, as long as no apostrophe
follows and none ever does: texts do not stand next to each other. What follows a name, a style or
a selector begins with a blank or a sign, so none of them runs on.

The offsets are the only thing that the reader may refuse. It does so at the first one with too many
digits (`parse_print`).
-/

set_option autoImplicit false

namespace Phrasebook.Grammar

open Arithmetic Text Message

/-! ### Texts -/

/-- A row of pieces and the characters that they stand for. -/
inductive Pieces (inPlural : Bool) : List Char → List Char → List Char → Prop
  | none {s : List Char} : Pieces inPlural s [] s
  | more {s v t w u : List Char} : Piece inPlural s v t → Pieces inPlural t w u →
      Pieces inPlural s (v ++ w) u

theorem addText_nil (m : Message) : addText [] m = m := by
  unfold addText
  split
  · rw [String.ofList_nil, String.empty_append]
  · rfl

theorem addText_append (v w : List Char) (m : Message) :
    addText (v ++ w) m = addText v (addText w m) := by
  by_cases hw : w = []
  · rw [hw, List.append_nil, addText_nil]
  · unfold addText
    split
    · simp [String.ofList_append, String.append_assoc]
    · simp [hw, String.ofList_append]

section Pieces

variable {fits : Nat → Prop} {inPlural : Bool} {s w t r : List Char}

theorem Pieces.trans {v u : List Char} (h : Pieces inPlural s v t) (h' : Pieces inPlural t w u) :
    Pieces inPlural s (v ++ w) u := by
  induction h with
  | none => exact h'
  | more hp _ ih =>
    rw [List.append_assoc]
    exact .more hp (ih h')

theorem Elements.of_pieces {m : Message} (h : Pieces inPlural s w t)
    (hm : Elements fits inPlural t m r) : Elements fits inPlural s (addText w m) r := by
  induction h with
  | none =>
    rw [addText_nil]
    exact hm
  | more hp _ ih =>
    rw [addText_append]
    exact .text hp (ih hm)

theorem LongOffset.of_pieces {n : Nat} (h : Pieces inPlural s w t) (hn : LongOffset inPlural t n) :
    LongOffset inPlural s n := by
  induction h with
  | none => exact hn
  | more hp _ ih => exact .text hp (ih hn)

/-- Characters that are no syntax stand for themselves once apostrophes are doubled. -/
theorem pieces_doubled (hs : ∀ c ∈ s, ¬ Quotable inPlural c) :
    Pieces inPlural (doubled s ++ t) s t := by
  induction s with
  | nil => exact .none
  | cons c s ih =>
    obtain ⟨hc, hs⟩ := List.forall_mem_cons.1 hs
    rw [doubled, List.flatMap_cons]
    by_cases hquote : c = '\''
    · rw [if_pos hquote, hquote]
      exact .more .doubled (ih hs)
    · rw [if_neg hquote]
      exact .more (.char hquote hc) (ih hs)

/-- A literal run holds any characters, and ends where it should if no apostrophe follows. -/
theorem run_doubled (s : List Char) (ht : t.head? ≠ some '\'') :
    Run (doubled s ++ '\'' :: t) s t := by
  induction s with
  | nil => exact .closed ht
  | cons c s ih =>
    rw [doubled, List.flatMap_cons]
    by_cases hquote : c = '\''
    · rw [if_pos hquote, hquote]
      exact .doubled ih
    · rw [if_neg hquote]
      exact .char hquote ih

theorem not_quotable_apostrophe : ¬ Quotable inPlural '\'' := by
  unfold Quotable
  decide +revert

theorem pieces_literalText (s : List Char) (ht : t.head? ≠ some '\'') :
    Pieces inPlural (literalText inPlural s ++ t) s t := by
  have hplain : ∀ c ∈ s.takeWhile fun c ↦ !decide (Quotable inPlural c),
      ¬ Quotable inPlural c := by
    intro c hc
    simpa using List.mem_takeWhile_imp hc
  have hsplit :=
    List.takeWhile_append_dropWhile (p := fun c ↦ !decide (Quotable inPlural c)) (l := s)
  unfold literalText
  dsimp only
  rw [List.append_assoc]
  cases hquoted : s.dropWhile fun c ↦ !decide (Quotable inPlural c) with
  | nil =>
    rw [hquoted, List.append_nil] at hsplit
    rw [hsplit] at hplain ⊢
    rw [if_pos rfl, List.nil_append]
    exact pieces_doubled hplain
  | cons c q =>
    have hc : Quotable inPlural c := by
      have := head_dropWhile (p := fun c ↦ !decide (Quotable inPlural c)) (s := s) c
        (by rw [hquoted]; rfl)
      simpa using this
    have hne : c ≠ '\'' := by
      rintro rfl
      exact not_quotable_apostrophe hc
    have hrun := run_doubled (c :: q) ht
    rw [doubled, List.flatMap_cons, if_neg hne] at hrun
    rw [hquoted] at hsplit
    rw [if_neg (List.cons_ne_nil _ _)]
    conv => arg 3; rw [← hsplit]
    refine (pieces_doubled hplain).trans ?_
    have hpiece : Piece inPlural
        (('\'' :: (doubled (c :: q) ++ ['\''])) ++ t) (c :: q) t := by
      rw [doubled, List.flatMap_cons, if_neg hne]
      simp only [List.cons_append, List.nil_append, List.append_assoc]
      exact .quoted hc hrun
    simpa using Pieces.more hpiece .none

end Pieces

/-! ### The parts of an argument -/

theorem Layout.blanks_spaces (layout : Layout) (place : Nat) (s : List Char) :
    Blanks (layout.spaces place ++ s) s :=
  ⟨_, layout.isSpace_of_mem [] place, rfl⟩

theorem Layout.sign (layout : Layout) (place : Nat) (c : Char) (s : List Char) :
    Sign c (layout.spaces place ++ c :: s) s :=
  layout.blanks_spaces place (c :: s)

theorem isBlank_of_isSpace {c : Char} (h : isSpace c = true) : isBlank c = true := by
  rcases isSpace_cases h with rfl | rfl | rfl | rfl <;> decide

theorem ne_brace_of_isSpace {c : Char} (h : isSpace c = true) : c ≠ '{' ∧ c ≠ '}' := by
  rcases isSpace_cases h with rfl | rfl | rfl | rfl <;> decide

theorem name_nameText {name : String} (h : IsName name) (layout : Layout) (t : List Char) :
    Name (nameText layout name ++ t) name (layout.spaces 1 ++ t) := by
  refine ⟨name.toList, h.1, h.2, String.ofList_toList.symm, ?_⟩
  simp only [nameText, List.append_assoc]
  exact layout.blanks_spaces 0 _

theorem typed_typedText {name : String} (h : IsName name) (layout : Layout) (type : ArgumentType)
    (t : List Char) :
    Typed (typedText layout name type ++ t) name (typeWord type) (layout.spaces 3 ++ t) := by
  simp only [typedText, List.append_assoc, List.cons_append]
  exact ⟨_, _, name_nameText h layout _, layout.sign 1 ',' _, layout.blanks_spaces 2 _⟩

/-- A style is read without the blanks around it. -/
theorem style_spaces {w : List Char} (hne : w ≠ []) (hw : Bare w) (hbrace : BraceFree w)
    (layout : Layout) (t : List Char) :
    Style (layout.spaces 3 ++ ',' :: (layout.spaces 4 ++ w ++ layout.spaces 5 ++ '}' :: t))
      w t := by
  have hspace : ∀ place, ∀ c ∈ layout.spaces place, isSpace c = true := layout.isSpace_of_mem []
  refine ⟨layout.spaces 4 ++ w ++ layout.spaces 5, layout.sign 3 ',' _, fun c hc ↦ ?_, ?_, hne⟩
  · rcases List.mem_append.1 hc with hc | hc
    · rcases List.mem_append.1 hc with hc | hc
      · exact ne_brace_of_isSpace (hspace 4 c hc)
      · exact hbrace c hc
    · exact ne_brace_of_isSpace (hspace 5 c hc)
  · exact (trim_pad (fun c hc ↦ isBlank_of_isSpace (hspace 4 c hc)) hw
      fun c hc ↦ isBlank_of_isSpace (hspace 5 c hc)).symm

/-- An argument that shows one value is read as what its style means. -/
theorem argument_formattedText {fits : Nat → Prop} {name : String} (h : IsName name)
    (layout : Layout) {type : FormattedType} {style : Option (List Char)} {e : Element}
    (hnone : style = none → e = unstyled name type)
    (hsome : ∀ w ∈ style, w ≠ [] ∧ Bare w ∧ BraceFree w ∧ Styled name type w e) (t : List Char) :
    ∃ s, formattedText layout name type style ++ t = '{' :: s ∧ Argument fits s e t := by
  cases style with
  | none =>
    have htyped := typed_typedText h layout (.formatted type) ('}' :: t)
    have hend : StyleEnd name type (layout.spaces 3 ++ '}' :: t) e t := by
      rw [hnone rfl]
      exact .unstyled (layout.sign 3 '}' t)
    exact ⟨_, by simp [formattedText], .typed htyped (.formatted hend)⟩
  | some w =>
    obtain ⟨hne, hbare, hbrace, hw⟩ := hsome w rfl
    have htyped := typed_typedText h layout (.formatted type)
      (',' :: (layout.spaces 4 ++ w ++ layout.spaces 5 ++ '}' :: t))
    have hend := StyleEnd.styled (style_spaces hne hbare hbrace layout t) hw
    exact ⟨_, by simp [formattedText], .typed htyped (.formatted hend)⟩

theorem bare_skeletonText {k : List Char} (h : Bare k) : Bare (':' :: ':' :: k) :=
  (h.cons (by decide)).cons (by decide)

theorem braceFree_skeletonText {k : List Char} (h : BraceFree k) : BraceFree (':' :: ':' :: k) :=
  (h.cons (by decide)).cons (by decide)

/-- A style or a skeleton is read as itself, whatever the type of the argument that `make` makes
of it. -/
theorem argument_styleText {fits : Nat → Prop} {α : Type} {name : String} {type : FormattedType}
    {text : α → List Char} {make : Option String → Option α → Element} {style : Option String}
    {skeleton : Option α} (h : IsName name) (layout : Layout)
    (hunstyled : make none none = unstyled name type)
    (hstyled : ∀ w, ¬ [':', ':'] <+: w → Styled name type w (make (some (String.ofList w)) none))
    (hstyle : ∀ s ∈ style, IsStyle s)
    (hskeleton : ∀ k ∈ skeleton, Bare (text k) ∧ BraceFree (text k) ∧
      Styled name type (':' :: ':' :: text k) (make none (some k)))
    (hone : style = none ∨ skeleton = none) (t : List Char) :
    ∃ s, formattedText layout name type (styleText style (skeleton.map text)) ++ t = '{' :: s ∧
      Argument fits s (make style skeleton) t := by
  refine argument_formattedText h layout (fun hw ↦ ?_) (fun w hw ↦ ?_) t
  · cases skeleton with
    | some k => exact absurd hw (Option.some_ne_none _)
    | none =>
      cases style with
      | some s => exact absurd hw (Option.some_ne_none _)
      | none => exact hunstyled
  · cases skeleton with
    | some k =>
      obtain rfl : ':' :: ':' :: text k = w := Option.mem_some.1 hw
      obtain rfl : style = none := by simpa using hone
      obtain ⟨hbare, hbrace, hk⟩ := hskeleton k rfl
      exact ⟨List.cons_ne_nil _ _, bare_skeletonText hbare, braceFree_skeletonText hbrace, hk⟩
    | none =>
      cases style with
      | none => exact absurd hw (by simp [styleText])
      | some s =>
        obtain rfl : s.toList = w := Option.mem_some.1 hw
        obtain ⟨hne, htrim, hbrace, hcolons⟩ := hstyle s rfl
        have hs := hstyled s.toList hcolons
        rw [String.ofList_toList] at hs
        exact ⟨hne, bare_of_trim htrim, hbrace, hs⟩

/-- A skeleton that is read trimmed is read as itself. -/
theorem styled_skeletonText {name : String} {type : FormattedType}
    {make : Option String → Element} {skeleton : String}
    (hstyled : ∀ k, Styled name type (':' :: ':' :: k) (make (some (String.ofList (trim k)))))
    (h : IsSkeleton skeleton) :
    Bare skeleton.toList ∧ BraceFree skeleton.toList ∧
      Styled name type (':' :: ':' :: skeleton.toList) (make (some skeleton)) := by
  obtain ⟨htrim, hbrace⟩ := h
  have hs := hstyled skeleton.toList
  rw [htrim, String.ofList_toList] at hs
  exact ⟨bare_of_trim htrim, hbrace, hs⟩

/-- The skeleton of options that some skeleton asks for is read as them. -/
theorem styled_optionsText {name : String} {options : NumberOptions} (h : IsRequested options) :
    Bare options.skeleton ∧ BraceFree options.skeleton ∧
      Styled name .number (':' :: ':' :: options.skeleton) (.number name none (some options)) := by
  obtain ⟨k, hk, rfl⟩ := h
  have hattain := NumberOptions.attainable_ofSkeleton hk
  have hbare := NumberOptions.bare_skeleton hattain
  have hs : Styled name .number _ _ := .numberSkeleton (NumberOptions.ofSkeleton k).skeleton
  rw [trim_of_bare hbare, NumberOptions.ofSkeleton_skeleton hattain] at hs
  exact ⟨hbare, NumberOptions.ne_brace_of_mem_skeleton hattain, hs⟩

/-! ### Offsets -/

theorem isDigit_of_mem_digits {n : Nat} : ∀ c ∈ digits n, c.isDigit = true := fun _ hc ↦
  Nat.isDigit_of_mem_toDigits (by decide) (by decide) hc

theorem digitValue?_of_isDigit {c : Char} (h : c.isDigit = true) :
    digitValue? c = some (c.toNat - '0'.toNat) := by
  have hascii : c.toNat < 0x80 := by
    simp only [Char.isDigit, Bool.and_eq_true, decide_eq_true_eq] at h
    have := UInt32.le_iff_toNat_le.1 h.2
    exact Nat.lt_of_le_of_lt this (by decide)
  rw [digitValue?, if_pos hascii, if_pos h]
  rfl

theorem digitsValue_digits (n : Nat) : digitsValue (digits n) = n := by
  have hfold : ∀ (ds : List Char), (∀ c ∈ ds, c.isDigit = true) → ∀ k : Nat,
      (ds.filterMap digitValue?).foldl (fun n d ↦ 10 * n + d) k = Nat.ofDigitChars 10 ds k := by
    intro ds hds
    induction ds with
    | nil => exact fun k ↦ Nat.ofDigitChars_nil.symm
    | cons c ds ih =>
      intro k
      obtain ⟨hc, hds⟩ := List.forall_mem_cons.1 hds
      rw [List.filterMap_cons_some (digitValue?_of_isDigit hc), List.foldl_cons, ih hds,
        Nat.ofDigitChars_cons]
  rw [digitsValue, ofDigits, hfold _ isDigit_of_mem_digits, digits, Nat.ofDigitChars_ten_toDigits]

theorem digits_digits (n : Nat) : Digits (digits n) := by
  refine ⟨Nat.toDigits_ne_nil, fun c hc ↦ ?_⟩
  rw [isDigit, digitValue?_of_isDigit (isDigit_of_mem_digits c hc)]
  rfl

theorem signedValue_digits (offset : Int) :
    signedValue (decide (offset < 0)) (digits offset.natAbs) = offset := by
  rw [signedValue, digitsValue_digits]
  split
  · rename_i h
    have := of_decide_eq_true h
    omega
  · rename_i h
    have := of_decide_eq_false (Bool.of_not_eq_true h)
    omega

theorem offsetDigits_offsetText (layout : Layout) (offset : Int) {t : List Char}
    (ht : ∀ c ∈ t.head?, isDigit c = false) :
    OffsetDigits (layout.spaces 6 ++ offsetText offset ++ t) (decide (offset < 0))
      (digits offset.natAbs) t := by
  have hblanks : Blanks (layout.spaces 6 ++ offsetText offset ++ t)
      ("offset".toList ++ ':' :: ([] ++ (minus (decide (offset < 0)) ++
        (digits offset.natAbs ++ t)))) := by
    unfold offsetText
    simp only [List.append_assoc, List.cons_append, List.nil_append]
    exact layout.blanks_spaces 6 _
  exact ⟨[], fun c hc ↦ absurd hc List.not_mem_nil, hblanks, digits_digits _, ht⟩

/-- A selector that begins like an offset is seen to do so. -/
theorem offset_opens {w x t : List Char} (hx : ∃ c ∈ x.head?, isSpace c = true ∨ c = '{')
    (h : "offset".toList ++ t = w ++ x) : "offset".toList <+: w := by
  rcases List.append_eq_append_iff.1 h with ⟨v, rfl, -⟩ | ⟨v, hv, hx'⟩
  · exact List.prefix_append _ _
  · cases v with
    | nil =>
      rw [List.append_nil] at hv
      exact hv ▸ List.prefix_rfl
    | cons c v =>
      obtain ⟨d, hd, hstop⟩ := hx
      rw [hx'] at hd
      obtain rfl : c = d := Option.mem_some.1 hd
      have hmem : c ∈ "offset".toList := hv ▸ List.mem_append_right _ List.mem_cons_self
      exact absurd hstop ((by decide +kernel :
        ∀ c ∈ "offset".toList, ¬ (isSpace c = true ∨ c = '{')) c hmem)

/-! ### Messages -/

theorem addText_literal {s : String} (hs : s ≠ "") {m : Message}
    (hm : ∀ t, m.head? ≠ some (.literal t)) : addText s.toList m = .literal s :: m := by
  have hne : s.toList ≠ [] := fun h ↦ hs (String.toList_eq_nil_iff.1 h)
  unfold addText
  split
  · rename_i t rest
    exact absurd rfl (hm t)
  · rw [if_neg (by simpa using hne), String.ofList_toList]

/-- After a text stands a sign, the end of an option or the end of the template. -/
theorem head_messageText {inPlural : Bool} {m : Message} (h : MessageWellFormed inPlural m)
    (hm : ∀ s, m.head? ≠ some (.literal s)) (layout : Layout) {t : List Char}
    (ht : ∀ c ∈ t.head?, c = '}') : (messageText layout inPlural m ++ t).head? ≠ some '\'' := by
  have hformatted : ∀ layout name type style (u : List Char),
      (formattedText layout name type style ++ u).head? = some '{' := by
    intro layout name type style u
    cases style <;> rfl
  cases m with
  | nil =>
    intro hquote
    exact absurd (ht _ hquote) (by decide)
  | cons e m =>
    obtain ⟨he, -, -⟩ := h
    rw [messageText, List.append_assoc]
    cases e with
    | literal s => exact absurd rfl (hm s)
    | foreign kind => exact absurd he id
    | number => simp [elementText, hformatted]
    | date => simp [elementText, hformatted]
    | time => simp [elementText, hformatted]
    | _ => simp [elementText]

section Derivations

variable {fits : Nat → Prop}

theorem opening_spaces {selector : String} (h : Selector selector.toList) (layout : Layout)
    (t : List Char) :
    Opening (layout.spaces 8 ++ selector.toList ++ layout.spaces 9 ++ '{' :: t) selector t := by
  refine ⟨selector.toList, layout.spaces 9 ++ '{' :: t, h, String.ofList_toList.symm, ?_,
    layout.sign 9 '{' t⟩
  simp only [List.append_assoc]
  exact layout.blanks_spaces 8 _

/-- A written offset is read up to the blanks before the options. -/
theorem offsetDigits_offsetPart {layout : Layout} {offset : Int} {os : List (String × Message)}
    (hne : os ≠ []) (hwritten : writesOffset layout offset os = true) (t : List Char) :
    ∃ u, OffsetDigits (offsetPart layout offset os ++ (optionsText (layout.inner 0) true os ++ t))
        (decide (offset < 0)) (digits offset.natAbs) u ∧
      Blanks u (optionsText (layout.inner 0) true os ++ t) := by
  obtain ⟨⟨selector, m⟩, os, rfl⟩ := List.exists_cons_of_ne_nil hne
  rw [offsetPart, if_pos hwritten]
  by_cases hblank : (layout.inner 0).spaces 8 = []
  · rw [if_pos hblank]
    have hoffset := offsetDigits_offsetText layout offset (t := ' ' ::
      (optionsText (layout.inner 0) true ((selector, m) :: os) ++ t)) (by simp; decide)
    exact ⟨_, by simpa using hoffset, ⟨[' '], by decide, rfl⟩⟩
  · rw [if_neg hblank]
    have hstop : ∀ c ∈ (optionsText (layout.inner 0) true ((selector, m) :: os) ++ t).head?,
        isDigit c = false := by
      intro c hc
      have hspace := (layout.inner 0).isSpace_of_mem [] 8
      obtain ⟨d, b, hdb⟩ := List.exists_cons_of_ne_nil hblank
      rw [show (layout.inner 0).blanks [] 8 = d :: b from hdb] at hspace
      rw [optionsText, hdb] at hc
      obtain rfl : d = c := Option.mem_some.1 hc
      exact (classes_of_isSpace (hspace d List.mem_cons_self)).2.2.2
    have hoffset := offsetDigits_offsetText layout offset hstop
    exact ⟨_, by simpa using hoffset, Blanks.refl _⟩

/-- Options are not taken for an offset unless the first selector begins like one. -/
theorem not_offset_optionsText {os : List (String × Message)} (hne : os ≠ [])
    (hos : OptionsWellFormed true os) (hlooks : looksLikeOffset os = false) (layout : Layout)
    (t u : List Char) : ¬ Blanks (optionsText layout true os ++ t) ("offset".toList ++ u) := by
  obtain ⟨⟨selector, m⟩, os, rfl⟩ := List.exists_cons_of_ne_nil hne
  intro hu
  obtain ⟨c, w, hcw, hc, -⟩ := hos.1.exists_cons
  have hselector : Blanks (optionsText layout true ((selector, m) :: os) ++ t)
      (selector.toList ++ (layout.spaces 9 ++ '{' :: (messageText (layout.inner 0) true m ++
        '}' :: (optionsText (layout.inner 1) true os ++ t)))) := by
    simp only [optionsText, List.append_assoc, List.cons_append]
    exact layout.blanks_spaces 8 _
  have hstop := (layout.sign 9 '{' (messageText (layout.inner 0) true m ++
    '}' :: (optionsText (layout.inner 1) true os ++ t))).exists_head
  have hbegin : "offset".toList ++ u = selector.toList ++ (layout.spaces 9 ++ '{' ::
      (messageText (layout.inner 0) true m ++
        '}' :: (optionsText (layout.inner 1) true os ++ t))) := by
    have hskip := hu.skipSpace_cons (c := 'o') (by decide)
    rw [hcw] at hselector ⊢
    exact hskip.symm.trans (hselector.skipSpace_cons hc)
  have hopens := List.isPrefixOf_iff_prefix.2 (offset_opens hstop hbegin)
  exact Bool.false_ne_true (hlooks.symm.trans hopens)

/-- An offset is read as it is written, or is not there, and before the options stand blanks. -/
theorem offset_offsetPart {offset : Int} {os : List (String × Message)} (hne : os ≠ [])
    (hos : OptionsWellFormed true os) (hfits : fits (digits offset.natAbs).length)
    (layout : Layout) (t : List Char) :
    ∃ u, Offset fits (offsetPart layout offset os ++ (optionsText (layout.inner 0) true os ++ t))
      offset u ∧ Blanks u (optionsText (layout.inner 0) true os ++ t) := by
  cases hwritten : writesOffset layout offset os with
  | true =>
    obtain ⟨u, hu, hblanks⟩ := offsetDigits_offsetPart hne hwritten t
    have hoffset : Offset fits _ _ u := .given hu hfits
    rw [signedValue_digits] at hoffset
    exact ⟨u, hoffset, hblanks⟩
  | false =>
    have hpart : offsetPart layout offset os = [] := by rw [offsetPart, hwritten]; rfl
    rw [writesOffset, Bool.or_eq_false_iff, Bool.or_eq_false_iff] at hwritten
    obtain rfl : offset = 0 := by simpa using hwritten.1.1
    rw [hpart]
    exact ⟨_, .absent (not_offset_optionsText hne hos hwritten.2 _ _), Blanks.refl _⟩

theorem not_mem_seen {selector : String} {m : Message} {os : List (String × Message)}
    {seen : List String} (hdiff : selector ∉ os.map Prod.fst)
    (hseen : ∀ o ∈ (selector, m) :: os, o.1 ∉ seen) :
    selector ∉ seen ∧ ∀ o ∈ os, o.1 ∉ selector :: seen := by
  obtain ⟨hnew, hseen⟩ := List.forall_mem_cons.1 hseen
  refine ⟨hnew, fun o ho hmem ↦ ?_⟩
  rcases List.mem_cons.1 hmem with hsame | hmem
  · exact hdiff (List.mem_map.2 ⟨o, ho, hsame⟩)
  · exact hseen o ho hmem

mutual

/-- A written message is derived, when its offsets are allowed. -/
theorem elements_messageText {inPlural : Bool} {m : Message} (h : MessageWellFormed inPlural m)
    (hfits : ∀ n ∈ offsetLengths m, fits n) (layout : Layout) {t : List Char}
    (ht : ∀ c ∈ t.head?, c = '}') :
    Elements fits inPlural (messageText layout inPlural m ++ t) m t :=
  match m with
  | [] => .stop ht
  | e :: m => by
    obtain ⟨he, hm, hapart⟩ := h
    rw [offsetLengths, List.forall_mem_append] at hfits
    have hrest := elements_messageText hm hfits.2 (layout.inner 1) ht
    rw [messageText, List.append_assoc]
    by_cases hliteral : ∃ s, e = .literal s
    · obtain ⟨s, rfl⟩ := hliteral
      have hnext := head_messageText hm (fun t ↦ hapart s t rfl) (layout.inner 1) ht
      rw [← addText_literal he fun t ↦ hapart s t rfl]
      exact .of_pieces (pieces_literalText s.toList hnext) hrest
    · by_cases hpound : e = .pound
      · subst hpound
        obtain rfl : inPlural = true := he
        exact .pound hrest
      · obtain ⟨s, hs, harg⟩ := argument_elementText he hfits.1 (layout.inner 0)
          (not_exists.1 hliteral) hpound (messageText (layout.inner 1) inPlural m ++ t)
        rw [hs]
        exact .argument harg hrest
termination_by structural m

theorem argument_elementText {inPlural : Bool} {e : Element} (h : ElementWellFormed inPlural e)
    (hfits : ∀ n ∈ elementOffsetLengths e, fits n) (layout : Layout)
    (hliteral : ∀ s, e ≠ .literal s) (hpound : e ≠ .pound) (t : List Char) :
    ∃ s, elementText layout inPlural e ++ t = '{' :: s ∧ Argument fits s e t :=
  match e with
  | .literal s => absurd rfl (hliteral s)
  | .pound => absurd rfl hpound
  | .foreign _ => absurd h id
  | .argument name => by
    have hname := name_nameText h layout ('}' :: t)
    exact ⟨_, by simp [elementText], .plain hname (layout.sign 1 '}' t)⟩
  | .number name style options => by
    obtain ⟨hname, hstyle, hoptions, hone⟩ := h
    exact argument_styleText hname layout rfl (fun _ ↦ .number) hstyle
      (fun o ho ↦ styled_optionsText (hoptions o ho)) hone t
  | .date name style skeleton => by
    obtain ⟨hname, hstyle, hskeleton, hone⟩ := h
    exact argument_styleText hname layout rfl (fun _ ↦ .date) hstyle
      (fun k hk ↦ styled_skeletonText .dateSkeleton (hskeleton k hk)) hone t
  | .time name style skeleton => by
    obtain ⟨hname, hstyle, hskeleton, hone⟩ := h
    exact argument_styleText hname layout rfl (fun _ ↦ .time) hstyle
      (fun k hk ↦ styled_skeletonText .timeSkeleton (hskeleton k hk)) hone t
  | .plural name kind offset os => by
    obtain ⟨hname, hne, hdiff, hos⟩ := h
    rw [elementOffsetLengths, List.forall_mem_cons] at hfits
    obtain ⟨u, hu, hend⟩ := options_optionsText hos hfits.2 hdiff (fun _ _ ↦ List.not_mem_nil)
      (layout.inner 0) t
    obtain ⟨v, hoffset, hv⟩ := offset_offsetPart hne hos hfits.1 layout ('}' :: t)
    exact ⟨_, by simp [elementText], .typed (typed_typedText hname layout _ _)
      (.plural (layout.sign 3 ',' _) hoffset (hu.of_blanks hv hne) hne hend)⟩
  | .select name os => by
    obtain ⟨hname, hne, hdiff, hos⟩ := h
    obtain ⟨u, hu, hend⟩ := options_optionsText hos hfits hdiff (fun _ _ ↦ List.not_mem_nil)
      (layout.inner 0) t
    exact ⟨_, by simp [elementText], .typed (typed_typedText hname layout _ _)
      (.select (layout.sign 3 ',' _) hu hne hend)⟩
termination_by structural e

theorem options_optionsText {inPlural : Bool} {os : List (String × Message)} {seen : List String}
    (h : OptionsWellFormed inPlural os) (hfits : ∀ n ∈ optionsOffsetLengths os, fits n)
    (hdiff : (os.map Prod.fst).Nodup) (hseen : ∀ o ∈ os, o.1 ∉ seen) (layout : Layout)
    (t : List Char) :
    ∃ u, Options fits inPlural seen (optionsText layout inPlural os ++ '}' :: t) os u ∧
      Sign '}' u t :=
  match os with
  | [] => ⟨_, .none, layout.sign 7 '}' t⟩
  | (selector, m) :: os => by
    obtain ⟨hsel, hm, hos⟩ := h
    rw [optionsOffsetLengths, List.forall_mem_append] at hfits
    rw [List.map_cons, List.nodup_cons] at hdiff
    obtain ⟨hnew, hlater⟩ := not_mem_seen hdiff.1 hseen
    obtain ⟨u, hu, hend⟩ := options_optionsText hos hfits.2 hdiff.2 hlater (layout.inner 1) t
    have hbranch := elements_messageText hm hfits.1 (layout.inner 0)
      (t := '}' :: (optionsText (layout.inner 1) inPlural os ++ '}' :: t)) (by simp)
    refine ⟨u, ?_, hend⟩
    have hopening := opening_spaces hsel layout (messageText (layout.inner 0) inPlural m ++
      '}' :: (optionsText (layout.inner 1) inPlural os ++ '}' :: t))
    have := Options.one hopening hnew hbranch hu
    simpa [optionsText] using this
termination_by structural os

end

end Derivations

/-! ### Offsets with too many digits -/

theorem readable_of_firstLong {ns : List Nat} (h : firstLong ns = none) :
    ∀ n ∈ ns, Readable n := by
  intro n hn
  have := List.find?_eq_none.1 h n hn
  simpa [Readable] using this

theorem not_readable_of_firstLong {ns : List Nat} {n : Nat} (h : firstLong ns = some n) :
    ¬ Readable n := by
  have := List.find?_some h
  simpa [Readable] using this

theorem firstLong_append (ns ns' : List Nat) :
    firstLong (ns ++ ns') = (firstLong ns).or (firstLong ns') :=
  List.find?_append

theorem firstLong_cons (k : Nat) (ns : List Nat) :
    firstLong (k :: ns) = (firstLong [k]).or (firstLong ns) :=
  firstLong_append [k] ns

theorem firstLong_singleton {k n : Nat} (h : firstLong [k] = some n) : k = n := by
  have := List.mem_of_find?_eq_some h
  exact (List.mem_singleton.1 this).symm

mutual

/-- The reader of a written message comes to the first offset with too many digits. -/
theorem longOffset_messageText {inPlural : Bool} {m : Message}
    (h : MessageWellFormed inPlural m) {n : Nat} (hn : firstLong (offsetLengths m) = some n)
    (layout : Layout) {t : List Char} (ht : ∀ c ∈ t.head?, c = '}') :
    LongOffset inPlural (messageText layout inPlural m ++ t) n :=
  match m with
  | [] => absurd hn (by simp [offsetLengths, firstLong])
  | e :: m => by
    obtain ⟨he, hm, hapart⟩ := h
    rw [offsetLengths, firstLong_append] at hn
    rw [messageText, List.append_assoc]
    cases hfirst : firstLong (elementOffsetLengths e) with
    | some k =>
      rw [hfirst, Option.some_or] at hn
      obtain rfl : k = n := Option.some.inj hn
      obtain ⟨s, hs, hlong⟩ := longOffset_elementText he hfirst (layout.inner 0)
        (messageText (layout.inner 1) inPlural m ++ t)
      rw [hs]
      exact .inArgument hlong
    | none =>
      rw [hfirst, Option.none_or] at hn
      have hrest := longOffset_messageText hm hn (layout.inner 1) ht
      by_cases hliteral : ∃ s, e = .literal s
      · obtain ⟨s, rfl⟩ := hliteral
        have hnext := head_messageText hm (fun t ↦ hapart s t rfl) (layout.inner 1) ht
        exact .of_pieces (pieces_literalText s.toList hnext) hrest
      · by_cases hpound : e = .pound
        · subst hpound
          obtain rfl : inPlural = true := he
          exact .pound hrest
        · obtain ⟨s, hs, harg⟩ := argument_elementText he (readable_of_firstLong hfirst)
            (layout.inner 0) (not_exists.1 hliteral) hpound
            (messageText (layout.inner 1) inPlural m ++ t)
          rw [hs]
          exact .argument harg hrest
termination_by structural m

theorem longOffset_elementText {inPlural : Bool} {e : Element} (h : ElementWellFormed inPlural e)
    {n : Nat} (hn : firstLong (elementOffsetLengths e) = some n) (layout : Layout)
    (t : List Char) :
    ∃ s, elementText layout inPlural e ++ t = '{' :: s ∧ LongOffsetInArgument s n :=
  match e with
  | .plural name kind offset os => by
    obtain ⟨hname, hne, hdiff, hos⟩ := h
    rw [elementOffsetLengths, firstLong_cons] at hn
    cases hfirst : firstLong [(digits offset.natAbs).length] with
    | some k =>
      rw [hfirst, Option.some_or] at hn
      obtain rfl : k = n := Option.some.inj hn
      have hlong := not_readable_of_firstLong hfirst
      obtain rfl := firstLong_singleton hfirst
      have hwritten : writesOffset layout offset os = true := by
        rw [writesOffset, Bool.or_eq_true, Bool.or_eq_true, bne_iff_ne]
        refine .inl (.inl ?_)
        rintro rfl
        exact hlong ((by decide +kernel : (digits 0).length ≤ LongNumeral.limit))
      obtain ⟨u, hu, -⟩ := offsetDigits_offsetPart hne hwritten ('}' :: t)
      exact ⟨_, by simp [elementText], .here (typed_typedText hname layout (.plural kind) _)
        (layout.sign 3 ',' _) hu hlong⟩
    | none =>
      rw [hfirst, Option.none_or] at hn
      have hread := readable_of_firstLong hfirst _ List.mem_cons_self
      obtain ⟨v, hoffset, hv⟩ := offset_offsetPart hne hos hread layout ('}' :: t)
      have hoptions := longOffset_optionsText hos hn hdiff (fun _ _ ↦ List.not_mem_nil)
        (layout.inner 0) ('}' :: t)
      exact ⟨_, by simp [elementText], .plural (typed_typedText hname layout (.plural kind) _)
        (layout.sign 3 ',' _) hoffset (hoptions.of_blanks hv)⟩
  | .select name os => by
    obtain ⟨hname, -, hdiff, hos⟩ := h
    have hoptions := longOffset_optionsText hos hn hdiff (fun _ _ ↦ List.not_mem_nil)
      (layout.inner 0) ('}' :: t)
    exact ⟨_, by simp [elementText], .select (typed_typedText hname layout _ _)
      (layout.sign 3 ',' _) hoptions⟩
  | .literal _ | .pound | .foreign _ | .argument _ | .number .. | .date .. | .time .. =>
    absurd hn (by simp [elementOffsetLengths, firstLong])
termination_by structural e

theorem longOffset_optionsText {inPlural : Bool} {os : List (String × Message)}
    {seen : List String} (h : OptionsWellFormed inPlural os) {n : Nat}
    (hn : firstLong (optionsOffsetLengths os) = some n) (hdiff : (os.map Prod.fst).Nodup)
    (hseen : ∀ o ∈ os, o.1 ∉ seen) (layout : Layout) (t : List Char) :
    LongOffsetInOptions inPlural seen (optionsText layout inPlural os ++ t) n :=
  match os with
  | [] => absurd hn (by simp [optionsOffsetLengths, firstLong])
  | (selector, m) :: os => by
    obtain ⟨hsel, hm, hos⟩ := h
    rw [optionsOffsetLengths, firstLong_append] at hn
    rw [List.map_cons, List.nodup_cons] at hdiff
    obtain ⟨hnew, hlater⟩ := not_mem_seen hdiff.1 hseen
    have hopening := opening_spaces hsel layout (messageText (layout.inner 0) inPlural m ++
      '}' :: (optionsText (layout.inner 1) inPlural os ++ t))
    cases hfirst : firstLong (offsetLengths m) with
    | some k =>
      rw [hfirst, Option.some_or] at hn
      obtain rfl : k = n := Option.some.inj hn
      have hbranch := longOffset_messageText hm hfirst (layout.inner 0)
        (t := '}' :: (optionsText (layout.inner 1) inPlural os ++ t)) (by simp)
      have := LongOffsetInOptions.here hopening hnew hbranch
      simpa [optionsText] using this
    | none =>
      rw [hfirst, Option.none_or] at hn
      have hbranch := elements_messageText hm (readable_of_firstLong hfirst) (layout.inner 0)
        (t := '}' :: (optionsText (layout.inner 1) inPlural os ++ t)) (by simp)
      have hrest := longOffset_optionsText hos hn hdiff.2 hlater (layout.inner 1) t
      have := LongOffsetInOptions.later hopening hnew hbranch hrest
      simpa [optionsText] using this
termination_by structural os

end

/-! ### The round trip -/

theorem parse_of_firstLong_eq_none {m : Message} (h : MessageWellFormed false m)
    (hfirst : firstLong (offsetLengths m) = none) (layout : Layout) :
    Message.parse (String.ofList (messageText layout false m)) = .ok m := by
  have := elements_messageText h (readable_of_firstLong hfirst) layout (t := []) (by simp)
  refine parse_of_elements ?_
  rwa [String.toList_ofList, ← List.append_nil (messageText layout false m)]

theorem parse_of_firstLong_eq_some {m : Message} (h : MessageWellFormed false m) {n : Nat}
    (hfirst : firstLong (offsetLengths m) = some n) (layout : Layout) :
    Message.parse (String.ofList (messageText layout false m)) = .error (.longOffset ⟨n⟩) := by
  have hlong := longOffset_messageText h hfirst layout (t := []) (by simp)
  refine parse_of_hasLongOffset ?_
  rwa [HasLongOffset, String.toList_ofList, ← List.append_nil (messageText layout false m)]

/-- A well-formed message is read back from its template in every layout, unless an offset in it has
too many digits; then the reader gives up at the first one. -/
theorem parse_print (layout : Layout) {m : Message} (h : MessageWellFormed false m) :
    Message.parse (print layout m) = match firstLong (offsetLengths m) with
      | none => .ok m
      | some n => .error (.longOffset ⟨n⟩) := by
  cases hfirst : firstLong (offsetLengths m) with
  | none => exact parse_of_firstLong_eq_none h hfirst layout
  | some n => exact parse_of_firstLong_eq_some h hfirst layout

/-- One space at every place. -/
def spaciousLayout : Layout :=
  ⟨fun _ _ ↦ [' '], fun _ _ ↦ by decide, fun _ ↦ true⟩

/-- A message whose texts have to be quoted, differently inside and outside of the option. -/
def quotedMessage : Message :=
  [.literal "it's {#}", .plural "n" .cardinal 1
    [("=0", [.literal "'#'"]), ("other", [.pound, .number "n" none (some { style := .percent })])]]

theorem selector_of_head {w : List Char} (hne : w ≠ []) (hw : ∀ c ∈ w, isSelectorChar c = true)
    (hhead : w.head? ≠ some '=') : Selector w := by
  refine .inr ⟨hne, hw, ?_⟩
  rintro u v ⟨negative, ds, places, -, -, rfl⟩ rfl
  exact hhead rfl

theorem parse_print_quotedMessage : MessageWellFormed false quotedMessage ∧
    Message.parse (print spaciousLayout quotedMessage) = .ok quotedMessage := by
  have hname : IsName "n" := ⟨by decide +kernel, by decide +kernel⟩
  have hexact : Selector ['=', '0'] :=
    .inl ⟨false, ['0'], [], ⟨by decide, by decide⟩, .inl rfl, rfl⟩
  have hother : Selector ['o', 't', 'h', 'e', 'r'] :=
    selector_of_head (by decide) (by decide) (by decide)
  have hpercent : IsRequested { style := .percent } :=
    ⟨"percent".toList, (by decide +kernel : ∀ c ∈ "percent".toList, c ≠ '{' ∧ c ≠ '}'), rfl⟩
  have hwell : MessageWellFormed false quotedMessage := by
    simp [quotedMessage, MessageWellFormed, ElementWellFormed, OptionsWellFormed, hname, hexact,
      hother, hpercent]
  have hshort : firstLong (offsetLengths quotedMessage) = none := by decide +kernel
  have hread := parse_print spaciousLayout hwell
  rw [hshort] at hread
  exact ⟨hwell, hread⟩

end Phrasebook.Grammar
