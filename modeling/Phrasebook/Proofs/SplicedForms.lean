import Phrasebook.Proofs.DirectTemplates
import Phrasebook.Proofs.Marks
import Phrasebook.Proofs.SparedTexts

/-!
Forms of plurals in short, spliced into the text of a plural argument.

The forms are put between the braces of options as they are. An apostrophe in a form stands for
itself where another character of the form follows it (`pieces_of_isSpliced`), but as the last
character of a form it stands before the closing brace and begins a literal run there
(`Elements.of_open_quote`), so the option goes on beyond its brace. Forms that do not end so are
read as they were meant (`elements_argument`).
-/

set_option autoImplicit false

namespace Phrasebook

open Arithmetic Text

namespace Grammar

open Message

/-! ### Texts with lone apostrophes -/

/-- A text without syntax but for apostrophes, of which no two stand next to each other. -/
structure IsSpliced (s : List Char) : Prop where
  plain : ∀ c ∈ s, ¬ Quotable true c
  lone : ¬ ['\'', '\''] <:+: s

section Spliced

variable {fits : Nat → Prop} {s t r : List Char} {m : Message}

theorem IsSpliced.of_isInfix (h : IsSpliced s) (ht : t <:+: s) : IsSpliced t :=
  ⟨fun c hc ↦ h.plain c (ht.mem hc), fun hdouble ↦ h.lone (hdouble.trans ht)⟩

/-- A character that is no apostrophe may stand in front. -/
theorem IsSpliced.cons {c : Char} (h : IsSpliced s) (hc : ¬ Quotable true c) (hne : c ≠ '\'') :
    IsSpliced (c :: s) := by
  refine ⟨List.forall_mem_cons.2 ⟨hc, h.plain⟩, fun hdouble ↦ ?_⟩
  rcases List.infix_cons_iff.1 hdouble with hprefix | hdouble
  · exact hne (List.cons_prefix_cons.1 hprefix).1.symm
  · exact h.lone hdouble

theorem IsSpliced.braceFree (h : IsSpliced s) : BraceFree s := fun c hc ↦
  ⟨fun he ↦ h.plain c hc (.inl he), fun he ↦ h.plain c hc (.inr (.inl he))⟩

theorem isSpliced_of_isWord (h : ∀ c ∈ s, isWord c = true) : IsSpliced s := by
  refine ⟨?_, fun hdouble ↦ absurd (h '\'' (hdouble.mem List.mem_cons_self)) (by decide)⟩
  rintro c hc (rfl | rfl | ⟨-, rfl⟩) <;> exact absurd (h _ hc) (by decide)

/-- A text that does not end with an apostrophe stands for itself. -/
theorem pieces_of_isSpliced (h : IsSpliced s) (hlast : s.getLast? ≠ some '\'') (t : List Char) :
    Pieces true (s ++ t) s t := by
  induction s with
  | nil => exact .none
  | cons c s ih =>
    have hs : IsSpliced s := h.of_isInfix (List.suffix_cons c s).isInfix
    have hlast' : s.getLast? ≠ some '\'' := by
      cases s with
      | nil => simp
      | cons d s => rwa [List.getLast?_cons_cons] at hlast
    refine Pieces.more (v := [c]) ?_ (ih hs hlast')
    by_cases hc : c = '\''
    · subst hc
      cases s with
      | nil => exact absurd rfl hlast
      | cons d s =>
        refine .lone fun e he ↦ ?_
        obtain rfl := Option.some.inj he
        refine ⟨?_, hs.plain _ List.mem_cons_self⟩
        rintro rfl
        exact h.lone (List.prefix_append ['\'', '\''] s).isInfix
    · exact .char hc (h.plain c List.mem_cons_self)

/-- Before an apostrophe at the end stands a text that does not end with one. -/
theorem IsSpliced.exists_of_last (h : IsSpliced s) (hlast : s.getLast? = some '\'') :
    ∃ u, s = u ++ ['\''] ∧ IsSpliced u ∧ u.getLast? ≠ some '\'' := by
  obtain ⟨u, rfl⟩ := List.getLast?_eq_some_iff.1 hlast
  refine ⟨u, rfl, h.of_isInfix (List.prefix_append u _).isInfix, fun hu ↦ ?_⟩
  obtain ⟨v, rfl⟩ := List.getLast?_eq_some_iff.1 hu
  refine h.lone ?_
  rw [List.append_assoc]
  exact (List.suffix_append v _).isInfix

/-! ### What elements begin with -/

theorem Elements.exists_of_piece {inPlural : Bool} {w : List Char} (hp : Piece inPlural s w t)
    (h : Elements fits inPlural s m r) :
    ∃ m', m = addText w m' ∧ Elements fits inPlural t m' r := by
  obtain ⟨c, u, rfl, hopen, hclose, hpound⟩ := hp.head
  cases h with
  | stop hs => exact absurd (hs c rfl) hclose
  | text hp' hm =>
    obtain ⟨rfl, rfl⟩ := hp.unique hp'
    exact ⟨_, rfl, hm⟩
  | pound => exact absurd ⟨rfl, rfl⟩ hpound
  | argument => exact absurd rfl hopen

theorem Elements.exists_of_pieces {inPlural : Bool} {w : List Char} (hp : Pieces inPlural s w t)
    (h : Elements fits inPlural s m r) :
    ∃ m', m = addText w m' ∧ Elements fits inPlural t m' r := by
  induction hp generalizing m with
  | none => exact ⟨m, (addText_nil m).symm, h⟩
  | more hp _ ih =>
    obtain ⟨m₁, rfl, hm₁⟩ := h.exists_of_piece hp
    obtain ⟨m₂, rfl, hm₂⟩ := ih hm₁
    exact ⟨m₂, (addText_append _ _ _).symm, hm₂⟩

theorem Elements.exists_of_pound (h : Elements fits true ('#' :: s) m r) :
    ∃ m', m = .pound :: m' ∧ Elements fits true s m' r := by
  cases h with
  | stop hs => exact absurd (hs '#' rfl) (by decide)
  | text hp =>
    obtain ⟨c, u, hc, -, -, hpound⟩ := hp.head
    exact absurd ⟨(List.cons.inj hc).1.symm, rfl⟩ hpound
  | pound hm => exact ⟨_, rfl, hm⟩

/-- A text that does not end with an apostrophe is all there is before the closing brace. -/
theorem Elements.of_closed (hs : IsSpliced s) (hlast : s.getLast? ≠ some '\'')
    (h : Elements fits true (s ++ '}' :: t) m ('}' :: r)) : m = addText s [] ∧ t = r := by
  have hstop : Elements fits true ('}' :: t) [] ('}' :: t) :=
    .stop fun c hc ↦ (Option.mem_some.1 hc).symm
  obtain ⟨hm, hr⟩ := h.unique (.of_pieces (pieces_of_isSpliced hs hlast _) hstop)
  exact ⟨hm, (List.cons.inj hr).2.symm⟩

/-- An apostrophe at the end of a text quotes the closing brace and what follows it. -/
theorem Elements.of_open_quote (hs : IsSpliced s) (hlast : s.getLast? = some '\'')
    (h : Elements fits true (s ++ '}' :: t) m r) :
    ∃ u w v m', s = u ++ ['\''] ∧ Run t w v ∧ m = addText (u ++ '}' :: w) m' ∧
      Elements fits true v m' r := by
  obtain ⟨u, rfl, hu, hulast⟩ := hs.exists_of_last hlast
  rw [List.append_assoc] at h
  obtain ⟨m₁, rfl, hm₁⟩ := h.exists_of_pieces (pieces_of_isSpliced hu hulast _)
  cases hm₁ with
  | stop hs => exact absurd (hs '\'' rfl) (by decide)
  | text hp hm₂ =>
    cases hp with
    | char hne => exact absurd rfl hne
    | quoted _ hrun =>
      obtain ⟨w, rfl, hw⟩ := hrun.of_cons (by decide)
      exact ⟨u, w, _, _, rfl, hw, (addText_append _ _ _).symm, hm₂⟩
    | lone hs => exact absurd (.inr (.inl rfl)) (hs '}' rfl).2

/-- Without an opening brace there are no arguments, and what is left is the end of the text. -/
theorem Elements.suffix {inPlural : Bool} {s r : List Char} {m : Message}
    (h : Elements fits inPlural s m r) (hs : '{' ∉ s) : r <:+ s :=
  match h with
  | .stop _ => List.suffix_refl _
  | .text hp hm => (hm.suffix fun hmem ↦ hs (hp.suffix.mem hmem)).trans hp.suffix
  | .pound hm => (hm.suffix fun hmem ↦ hs (List.mem_cons_of_mem _ hmem)).trans
      (List.suffix_cons _ _)
  | .argument _ _ => absurd List.mem_cons_self hs
termination_by structural h

/-! ### Options -/

section Options

variable {inPlural : Bool} {seen : List String} {selector : String} {u : List Char}
  {os : List (String × Message)}

/-- Where an option begins, it is the first one. -/
theorem Options.exists_of_opening (h : Options fits inPlural seen s os t) (hr : Sign '}' t r)
    (ho : Opening s selector u) : ∃ m v os', os = (selector, m) :: os' ∧
      Elements fits inPlural u m ('}' :: v) ∧
      Options fits inPlural (selector :: seen) v os' t := by
  cases h with
  | none => exact absurd hr ho.not_sign
  | one ho' hsel hm hrest =>
    obtain ⟨rfl, rfl⟩ := ho.unique ho'
    exact ⟨_, _, _, rfl, hm, hrest⟩

/-- Without an opening brace there are no options. -/
theorem Options.eq_nil (h : Options fits inPlural seen s os t) (hs : '{' ∉ s) : os = [] := by
  cases h with
  | none => rfl
  | one ho =>
    obtain ⟨w, u, -, -, hblanks, hsign⟩ := ho
    have hopen : '{' ∈ u := (Blanks.suffix hsign).mem List.mem_cons_self
    exact absurd (hblanks.suffix.mem (List.mem_append_right w hopen)) hs

/-- A plural argument without an offset has options. -/
theorem Elements.exists_of_plural {name : String} {kind : PluralKind} {v : List Char}
    (h : Elements fits inPlural ('{' :: s) m r) (htyped : Typed s name (typeWord (.plural kind)) u)
    (hcomma : Sign ',' u v) (hoffset : ∀ w, ¬ Blanks v ("offset".toList ++ w)) :
    ∃ os w x m', m = .plural name kind 0 os :: m' ∧ Options fits true [] v os w ∧ Sign '}' w x := by
  have hletter := hcomma.head_not_letter (by decide)
  cases h with
  | stop hs => exact absurd (hs '{' rfl) (by decide)
  | text hp =>
    obtain ⟨c, u, hc, hopen, -⟩ := hp.head
    exact absurd (List.cons.inj hc).1.symm hopen
  | argument he hm =>
    cases he with
    | plain hname hclose =>
      obtain ⟨u', v', hname', hcomma', -⟩ := htyped
      obtain ⟨-, rfl⟩ := hname.unique hname' (hclose.head_not_nameChar (by decide))
        (hcomma'.head_not_nameChar (by decide))
      exact absurd (hclose.unique hcomma' (by decide) (by decide)).1 (by decide)
    | typed htyped' he =>
      obtain ⟨rfl, rfl, rfl⟩ := htyped.unique htyped' hletter he.head_not_letter
      cases he with
      | plural hcomma' hoffset' hos _ hclose =>
        obtain ⟨-, rfl⟩ := hcomma.unique hcomma' (by decide) (by decide)
        obtain ⟨rfl, rfl⟩ := hoffset'.unique (.absent hoffset)
        exact ⟨_, _, _, _, rfl, hos, hclose⟩

end Options

end Spliced

end Grammar

/-! ### The argument that the forms stand for -/

namespace Template.PluralForms

open Grammar Message

open Phrase (IsWordName)

/-- The option for zero, if there is a form for it, without syntax in the form. -/
def zeroOption (f : PluralForms) : List (String × Message) :=
  (f.zero.map fun z ↦ ("=0", addText z.toList [])).toList

/-- The options of the argument, without syntax in the forms. -/
def options (f : PluralForms) : List (String × Message) :=
  f.zeroOption ++
    [("one", [.pound, .literal (" " ++ f.one)]), ("other", [.pound, .literal (" " ++ f.other)])]

/-- The text of the argument from the option for one to the end. -/
def countedText (f : PluralForms) : List Char :=
  (option "one" ("# " ++ f.one)).toList ++ ((option "other" ("# " ++ f.other)).toList ++ ['}'])

/-- The text of the argument from the first option to the end. -/
def optionsText (f : PluralForms) : List Char :=
  ((f.zero.map (option "=0")).getD "").toList ++ f.countedText

section Argument

variable {f : PluralForms} {fits : Nat → Prop} {seen : List String} {m : Message}
  {os : List (String × Message)} {s t r x : List Char}

theorem toList_argument (f : PluralForms) : f.argument.toList =
    '{' :: (f.name.toList ++ ", plural".toList ++ ',' :: f.optionsText) := by
  simp [argument, optionsText, countedText]

theorem typed_argument (hname : IsWordName f.name) (t : List Char) :
    Typed (f.name.toList ++ ", plural".toList ++ t) f.name
      (Grammar.typeWord (.plural .cardinal)) t := by
  refine ⟨", plural".toList ++ t, " plural".toList ++ t, ?_, .of_cons ',' _, [' '], by decide, rfl⟩
  rw [List.append_assoc]
  exact ⟨f.name.toList, hname.1, fun c hc ↦ isNameChar_of_isWord (hname.2 c hc),
    String.ofList_toList.symm, .refl _⟩

theorem opening_option {selector : String} (h : Selector selector.toList) (branch : String)
    (t : List Char) :
    Opening ((option selector branch).toList ++ t) selector (branch.toList ++ '}' :: t) := by
  refine ⟨selector.toList, " \x7b".toList ++ (branch.toList ++ '}' :: t), h,
    String.ofList_toList.symm, ⟨[' '], by decide, ?_⟩, [' '], by decide, rfl⟩
  simp [option]

theorem selector_zero : Selector "=0".toList :=
  .inl ⟨false, ['0'], [], ⟨by decide, by decide⟩, .inl rfl, rfl⟩

theorem selector_one : Selector "one".toList :=
  selector_of_head (by decide) (by decide) (by decide)

theorem selector_other : Selector "other".toList :=
  selector_of_head (by decide) (by decide) (by decide)

/-- Where the options begin, the word for an offset does not stand. -/
theorem not_offset_options (f : PluralForms) :
    ∀ w, ¬ Blanks f.optionsText ("offset".toList ++ w) := by
  intro w h
  have hskip := h.skipSpace_cons (by decide)
  cases hz : f.zero with
  | none =>
    obtain ⟨rest, hrest⟩ : ∃ rest, f.optionsText = ' ' :: 'o' :: 'n' :: rest :=
      ⟨_, by simp [optionsText, countedText, option, hz]; rfl⟩
    have hone : skipSpace f.optionsText = 'o' :: 'n' :: rest := by rw [hrest]; rfl
    rw [hone] at hskip
    exact absurd (List.cons.inj (List.cons.inj hskip).2).1 (by decide)
  | some z =>
    obtain ⟨rest, hrest⟩ : ∃ rest, f.optionsText = ' ' :: '=' :: rest :=
      ⟨_, by simp [optionsText, countedText, option, hz]; rfl⟩
    have hzero : skipSpace f.optionsText = '=' :: rest := by rw [hrest]; rfl
    rw [hzero] at hskip
    exact absurd (List.cons.inj hskip).1 (by decide)

theorem addText_space (w : String) : addText (' ' :: w.toList) [] = [.literal (" " ++ w)] := by
  have htext : String.ofList (' ' :: w.toList) = " " ++ w := by
    rw [← String.toList_inj]
    simp
  rw [addText, htext]
  · rfl
  · simp

theorem isSpliced_space {w : String} (h : IsSpliced w.toList) : IsSpliced (' ' :: w.toList) :=
  h.cons (by simp [Quotable]) (by decide)

theorem getLast?_space {s : List Char} :
    (' ' :: s).getLast? = some '\'' ↔ s.getLast? = some '\'' := by
  cases s with
  | nil => simp
  | cons c s => rw [List.getLast?_cons_cons]

theorem toList_counted (w : String) : ("# " ++ w).toList = '#' :: ' ' :: w.toList := by
  simp

/-- A form without syntax is read as it is behind the number sign. -/
theorem elements_counted {w : String} (h : IsSpliced w.toList)
    (hlast : w.toList.getLast? ≠ some '\'') (t : List Char) :
    Elements fits true (("# " ++ w).toList ++ '}' :: t) [.pound, .literal (" " ++ w)]
      ('}' :: t) := by
  rw [toList_counted, ← addText_space]
  exact .pound (.of_pieces (pieces_of_isSpliced (isSpliced_space h) (mt getLast?_space.1 hlast) _)
    (.stop fun c hc ↦ (Option.mem_some.1 hc).symm))

/-- Forms that do not end with an apostrophe are read as they were meant. -/
theorem options_optionsText (hforms : ∀ w ∈ f.forms, IsSpliced w.toList)
    (hlast : ∀ w ∈ f.forms, w.toList.getLast? ≠ some '\'') :
    Options fits true [] f.optionsText f.options ['}'] := by
  have hcounted (seen : List String) (h₁ : "one" ∉ seen) (h₂ : "other" ∉ "one" :: seen) :
      Options fits true seen f.countedText [("one", [.pound, .literal (" " ++ f.one)]),
        ("other", [.pound, .literal (" " ++ f.other)])] ['}'] :=
    .one (opening_option selector_one _ _) h₁
      (elements_counted (hforms _ f.one_mem_forms) (hlast _ f.one_mem_forms) _) <|
    .one (opening_option selector_other _ _) h₂
      (elements_counted (hforms _ f.other_mem_forms) (hlast _ f.other_mem_forms) _) .none
  unfold options zeroOption optionsText
  cases hz : f.zero with
  | none => exact hcounted [] (by decide) (by decide)
  | some z =>
    have hmem := f.mem_forms_of_zero hz
    exact .one (opening_option selector_zero _ _) (by decide)
      (.of_pieces (pieces_of_isSpliced (hforms z hmem) (hlast z hmem) _)
        (.stop fun c hc ↦ (Option.mem_some.1 hc).symm))
      (hcounted ["=0"] (by decide) (by decide))

theorem elements_argument (hname : IsWordName f.name) (hforms : ∀ w ∈ f.forms, IsSpliced w.toList)
    (hlast : ∀ w ∈ f.forms, w.toList.getLast? ≠ some '\'') :
    Elements fits false f.argument.toList [.plural f.name .cardinal 0 f.options] [] := by
  rw [toList_argument]
  exact .argument (.typed (typed_argument hname _) (.plural (.of_cons ',' _)
    (.absent f.not_offset_options) (options_optionsText hforms hlast) (by simp [options])
    (.of_cons '}' []))) (.stop (by simp))

/-! ### Forms that end with an apostrophe -/

/-- What is read begins with the options of the argument. -/
theorem exists_options (hname : IsWordName f.name)
    (h : Elements fits false f.argument.toList m []) :
    ∃ os w x m', m = .plural f.name .cardinal 0 os :: m' ∧
      Options fits true [] f.optionsText os w ∧ Sign '}' w x := by
  rw [toList_argument] at h
  exact h.exists_of_plural (typed_argument hname _) (.of_cons ',' _) f.not_offset_options

/-- A form for zero that ends with an apostrophe is read with the closing brace. -/
theorem exists_of_open_zero {z : String} (hz : f.zero = some z) (hspliced : IsSpliced z.toList)
    (hlast : z.toList.getLast? = some '\'') (h : Options fits true [] f.optionsText os t)
    (hclose : Sign '}' t x) : ∃ u w m os', os = ("=0", addText (u ++ '}' :: w) m) :: os' := by
  rw [optionsText, hz] at h
  obtain ⟨m, v, os', rfl, hm, -⟩ :=
    h.exists_of_opening hclose (opening_option selector_zero _ _)
  obtain ⟨u, w, -, m', -, -, rfl, -⟩ := hm.of_open_quote hspliced hlast
  exact ⟨u, w, m', os', rfl⟩

/-- A form for zero that does not end with an apostrophe is read as it was meant. -/
theorem exists_of_closed_zero (hspliced : ∀ z ∈ f.zero, IsSpliced z.toList)
    (hlast : ∀ z ∈ f.zero, z.toList.getLast? ≠ some '\'')
    (h : Options fits true [] f.optionsText os t) (hclose : Sign '}' t x) :
    ∃ seen os', os = f.zeroOption ++ os' ∧ Options fits true seen f.countedText os' t := by
  unfold zeroOption
  cases hz : f.zero with
  | none =>
    rw [optionsText, hz] at h
    exact ⟨[], os, rfl, h⟩
  | some z =>
    rw [optionsText, hz] at h
    obtain ⟨m, v, os', rfl, hm, hos'⟩ :=
      h.exists_of_opening hclose (opening_option selector_zero _ _)
    obtain ⟨rfl, rfl⟩ := hm.of_closed (hspliced z hz) (hlast z hz)
    exact ⟨["=0"], os', rfl, hos'⟩

/-- A form for one that ends with an apostrophe is read with the closing brace, and no option comes
after it. -/
theorem exists_of_open_one (hspliced : IsSpliced f.one.toList)
    (hlast : f.one.toList.getLast? = some '\'') (hother : IsSpliced f.other.toList)
    (h : Options fits true seen f.countedText os t) (hclose : Sign '}' t x) :
    ∃ u w m, os = [("one", .pound :: addText (u ++ '}' :: w) m)] := by
  obtain ⟨m, v, os', rfl, hm, hos'⟩ :=
    h.exists_of_opening hclose (opening_option selector_one _ _)
  rw [toList_counted] at hm
  obtain ⟨m₁, rfl, hm₁⟩ := hm.exists_of_pound
  obtain ⟨u, w, v', m', -, hrun, rfl, hm'⟩ :=
    hm₁.of_open_quote (isSpliced_space hspliced) (getLast?_space.2 hlast)
  -- the run takes the brace of the next option, and there is no other one
  have htext : (option "other" ("# " ++ f.other)).toList ++ ['}'] =
      " other \x7b# ".toList ++ (f.other.toList ++ ['}', '}']) := by
    simp [option]
  rw [htext] at hrun
  obtain ⟨w', rfl, hrun'⟩ := hrun.of_append (by decide)
  have hopen : '{' ∉ f.other.toList ++ ['}', '}'] := by
    simpa using fun hmem ↦ (hother.braceFree _ hmem).1 rfl
  have hv' : '{' ∉ v' := fun hmem ↦ hopen (hrun'.suffix.mem hmem)
  have hv : '{' ∉ v := fun hmem ↦ hv' ((hm'.suffix hv').mem (List.mem_cons_of_mem _ hmem))
  obtain rfl := hos'.eq_nil hv
  exact ⟨u, _, m', rfl⟩

/-- A form for other numbers that ends with an apostrophe leaves no brace to close the argument. -/
theorem not_of_open_other (hone : IsSpliced f.one.toList)
    (hlast : f.one.toList.getLast? ≠ some '\'') (hspliced : IsSpliced f.other.toList)
    (hopen : f.other.toList.getLast? = some '\'')
    (h : Options fits true seen f.countedText os t) : ¬ Sign '}' t x := by
  intro hclose
  obtain ⟨m, v, os', rfl, hm, hos'⟩ :=
    h.exists_of_opening hclose (opening_option selector_one _ _)
  obtain ⟨-, hv⟩ := hm.unique (elements_counted hone hlast _)
  obtain ⟨-, rfl⟩ := List.cons.inj hv
  obtain ⟨m', v', -, -, hm', -⟩ :=
    hos'.exists_of_opening hclose (opening_option selector_other _ _)
  rw [toList_counted] at hm'
  obtain ⟨m₁, -, hm₁⟩ := hm'.exists_of_pound
  obtain ⟨-, w, r, m₂, -, hrun, -, hm₂⟩ :=
    hm₁.of_open_quote (isSpliced_space hspliced) (getLast?_space.2 hopen)
  -- the run goes on to the end of the text
  obtain ⟨w, -, hend⟩ := Run.of_cons (by decide) hrun
  cases hend
  exact absurd (List.suffix_nil.1 (hm₂.suffix (by simp))) (by simp)

end Argument

end Template.PluralForms

end Phrasebook
