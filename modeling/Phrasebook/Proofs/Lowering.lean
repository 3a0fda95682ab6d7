import Phrasebook.Proofs.Filling
import Phrasebook.Proofs.Spelling

/-!
Trees prepared as messages.

After its calls have been put aside, a tree without plurals in short is the template of a message
(`exists_lowered`). The message is well formed, is filled as the tree is, and has the same offsets.
Its texts are the ones of the tree, joined where they stand next to each other.
-/

set_option autoImplicit false

namespace Phrasebook

open Arithmetic Grammar Message Template Text

/-! ### Placeholders -/

namespace Template

/-- The name of a placeholder has the form of one. -/
theorem PlaceholderKind.hasPlaceholderForm_token (kind : PlaceholderKind) (n : Nat) :
    hasPlaceholderForm (kind.token n) = true := by
  obtain ⟨hne, hdigits⟩ := digits_digits n
  have hword : kind.word.toList ≠ [] := by cases kind <;> decide
  have hupper : ∀ c ∈ kind.word.toList, c.isUpper = true := kind.isUpper_of_mem_word
  have hfirst (s : List Char) : after? ['_', '_'] (['_', '_'] ++ s) = some s := after?_append _ _
  have hrun (s : List Char) : afterRun? Char.isUpper ['_'] (kind.word.toList ++ '_' :: s) =
      some s := by
    have hstop : ∀ c ∈ ('_' :: s).head?, c.isUpper = false := by simp
    rw [afterRun?, takeWhile_append_stop hupper hstop, dropWhile_append_stop hupper hstop,
      if_neg (by simpa using hword)]
    exact after?_append ['_'] s
  have hnumber : afterRun? isDigit ['_', '_'] (digits n ++ ['_', '_']) = some [] := by
    have hstop : ∀ c ∈ ['_', '_'].head?, isDigit c = false := by decide
    rw [afterRun?, takeWhile_append_stop hdigits hstop, dropWhile_append_stop hdigits hstop,
      if_neg (by simpa using hne)]
    exact after?_append ['_', '_'] []
  have htoken : (kind.token n).toList =
      ['_', '_'] ++ (kind.word.toList ++ '_' :: (digits n ++ ['_', '_'])) := kind.toList_token n
  rw [hasPlaceholderForm, htoken, hfirst]
  simp only [Option.bind_eq_bind, Option.bind_some, hrun, hnumber]
  rfl

section Labelled

variable {ps : List Pass} {asides : Asides} {is js ks : List Item}

/-- Rows of parts are labelled one after the other. -/
theorem exists_of_labelled_append (h : List.Forall₂ (Labelled ps asides) (is ++ js) ks) :
    ∃ is' js', ks = is' ++ js' ∧ List.Forall₂ (Labelled ps asides) is is' ∧
      List.Forall₂ (Labelled ps asides) js js' := by
  induction is generalizing ks with
  | nil => exact ⟨[], ks, rfl, .nil, h⟩
  | cons i is ih =>
    cases h with
    | cons hi hrest =>
      obtain ⟨is', js', rfl, his, hjs⟩ := ih hrest
      exact ⟨_ :: is', js', rfl, .cons hi his, hjs⟩

/-- Characters are left. -/
theorem exists_of_labelled_chars {w : List Char}
    (h : List.Forall₂ (Labelled ps asides) (w.map .char ++ is) ks) :
    ∃ is', ks = w.map .char ++ is' ∧ List.Forall₂ (Labelled ps asides) is is' := by
  induction w generalizing ks with
  | nil => exact ⟨ks, rfl, h⟩
  | cons c w ih =>
    cases h with
    | cons hi hrest =>
      cases hi
      obtain ⟨is', rfl, his⟩ := ih hrest
      exact ⟨is', rfl, his⟩

theorem labelled_chars (w : List Char) :
    List.Forall₂ (Labelled ps asides) (w.map .char) (w.map .char) := by
  rw [List.forall₂_same]
  intro i hi
  obtain ⟨c, -, rfl⟩ := List.mem_map.1 hi
  exact .char c

end Labelled

end Template

/-! ### The layout -/

namespace Phrase

theorem inner_plainLayout (part : Nat) : plainLayout.inner part = plainLayout :=
  rfl

theorem typedText_plainLayout (name : String) (type : ArgumentType) :
    typedText plainLayout name type = name.toList ++ ',' :: ' ' :: (typeWord type).toList := by
  simp [typedText, nameText, Layout.spaces, plainLayout]

theorem formattedText_plainLayout (name : String) (type : FormattedType)
    (style : Option (List Char)) : formattedText plainLayout name type style =
      '{' :: (typedInside name (typeWord (.formatted type)) (styleDetail style) ++ ['}']) := by
  cases style with
  | none => simp [formattedText, typedText_plainLayout, typedInside, styleDetail]
  | some s =>
    have hbefore : plainLayout.spaces 4 = [' '] := rfl
    have hafter : plainLayout.spaces 5 = [] := rfl
    simp [formattedText, typedText_plainLayout, typedInside, styleDetail, hbefore, hafter]

theorem head_eq (name : String) (type : ArgumentType) (offset : List Char) :
    head name type offset = typedText plainLayout name type ++ ',' :: offset := by
  simp [head, typedInside, typedText_plainLayout]

/-- An offset depends on the selectors only. -/
theorem offsetPart_congr {os os' : List (String × Message)} (layout : Layout) (offset : Int)
    (h : os.map Prod.fst = os'.map Prod.fst) :
    offsetPart layout offset os = offsetPart layout offset os' := by
  have hlooks : looksLikeOffset os = looksLikeOffset os' := by
    cases os with
    | nil =>
      obtain rfl : os' = [] := List.map_eq_nil_iff.1 h.symm
      rfl
    | cons o os =>
      cases os' with
      | nil => cases h
      | cons o' os' =>
        have hfirst : o.1 = o'.1 := (List.cons.inj h).1
        rw [looksLikeOffset, looksLikeOffset, List.head?_cons, List.head?_cons, Option.map_some,
          Option.map_some, hfirst]
  rw [offsetPart, offsetPart, writesOffset, writesOffset, hlooks]

/-! ### Texts -/

section Texts

variable {inPlural : Bool} {s : List Char}

theorem literalText_append (h : IsPlainText inPlural s) (t : List Char) :
    literalText inPlural (s ++ t) = s ++ literalText inPlural t := by
  induction s with
  | nil => rfl
  | cons c s ih =>
    obtain ⟨⟨hquote, hc⟩, hs⟩ := List.forall_mem_cons.1 h
    let p : Char → Bool := fun c ↦ !decide (Quotable inPlural c)
    have hkept : p c = true := by simpa [p] using hc
    have hdoubled (w : List Char) : doubled (c :: w) = c :: doubled w := by
      rw [doubled, List.flatMap_cons, if_neg hquote]
      rfl
    rw [List.cons_append, List.cons_append, ← ih hs, literalText,
      List.takeWhile_cons_of_pos (p := p) hkept, List.dropWhile_cons_of_pos (p := p) hkept,
      hdoubled]
    rfl

theorem literalText_eq_self (h : IsPlainText inPlural s) : literalText inPlural s = s := by
  have hnil : literalText inPlural [] = [] := rfl
  have := literalText_append h []
  rwa [hnil, List.append_nil] at this

/-- A plain text in front of a message stands in front of its template. -/
theorem messageText_addText (h : IsPlainText inPlural s) (m : Message) :
    messageText plainLayout inPlural (addText s m) = s ++ messageText plainLayout inPlural m := by
  unfold addText
  split
  · rw [messageText, messageText, elementText, elementText, String.toList_append,
      String.toList_ofList, literalText_append h, List.append_assoc]
  · split
    · rename_i hnil
      rw [List.isEmpty_iff.1 hnil, List.nil_append]
    · rw [messageText, elementText, String.toList_ofList, literalText_eq_self h]
      rfl

theorem messageWellFormed_addText {m : Message} (h : MessageWellFormed inPlural m) :
    MessageWellFormed inPlural (addText s m) := by
  unfold addText
  split
  · obtain ⟨hne, hm, hapart⟩ := h
    refine ⟨fun he ↦ hne ?_, hm, fun _ t _ ↦ hapart _ t rfl⟩
    exact (String.append_eq_empty_iff.1 he).2
  · rename_i hhead
    split
    · exact h
    · rename_i hs
      refine ⟨fun he ↦ hs ?_, h, fun _ t _ ht ↦ ?_⟩
      · simpa using he
      · obtain ⟨m', rfl⟩ := List.head?_eq_some_iff.1 ht
        exact hhead t m' rfl

theorem offsetLengths_addText (m : Message) : offsetLengths (addText s m) = offsetLengths m := by
  unfold addText
  split
  · rfl
  · split <;> rfl

theorem same_addText (scene : Scene) (pound : Option Value) (m : Message) :
    Outline.Same (scene.message pound (addText s m))
      (.text .template (String.ofList s) :: scene.message pound m) := by
  unfold addText
  split
  · exact Outline.same_text_append _ _ _ _
  · split
    · rename_i hs
      rw [List.isEmpty_iff.1 hs]
      exact (Outline.same_text_empty _ _).symm
    · exact .refl _

end Texts

/-! ### Messages for trees -/

/-- Every argument put aside is found under its placeholder, and nothing else is found. -/
def IsIndex (asides : Asides) : Prop :=
  (asides.map Prod.fst).Nodup ∧ ∀ x ∈ asides, hasPlaceholderForm x.1 = true

theorem isIndex_prepare {names : List String} (hnames : ∀ name ∈ names, BraceFree name.toList)
    (template : List Char) : IsIndex (prepare names template).asides := by
  obtain ⟨items, hsettled, rfl⟩ := exists_settled template
  have hfollows := follows_prepare hnames hsettled
  refine ⟨hfollows.distinct, fun x hx ↦ ?_⟩
  obtain ⟨p, -, n, hn⟩ := hfollows.named x hx
  rw [hn]
  exact p.1.hasPlaceholderForm_token n

theorem lookup_eq_none {asides : Asides} (h : IsIndex asides) {name : String}
    (hname : hasPlaceholderForm name = false) : asides.lookup name = none := by
  rw [List.lookup_eq_none_iff]
  intro x hx
  rw [bne_iff_ne]
  intro he
  rw [he, h.2 x hx] at hname
  cases hname

/-- The text `s` is the template of the message `m`, which stands for the row of phrases. -/
structure Lowered (asides : Asides) (inPlural : Bool) (ps : List Phrase) (s : List Char)
    (m : Message) : Prop where
  text : s = messageText plainLayout inPlural m
  wellFormed : MessageWellFormed inPlural m
  lengths : offsetLengths m = rowOffsets ps
  same : ∀ (scene : Scene) (pound : Option Value),
    Outline.Same ((scene.withAsides asides).message pound m) (rowOutline scene pound ps)

/-- The text `s` is the one of the element `e`, which stands for the phrase and is no text. -/
structure LoweredPhrase (asides : Asides) (inPlural : Bool) (p : Phrase) (s : List Char)
    (e : Element) : Prop where
  text : s = elementText plainLayout inPlural e
  wellFormed : ElementWellFormed inPlural e
  apart : ∀ t, e ≠ .literal t
  lengths : elementOffsetLengths e = offsets p
  same : ∀ (scene : Scene) (pound : Option Value),
    Outline.Same ((scene.withAsides asides).element pound e) (outline scene pound p)

/-- The text `s` is the one of the options, which stand for the branches. -/
structure LoweredBranches (asides : Asides) (inPlural : Bool) (bs : List (String × List Phrase))
    (s : List Char) (os : List (String × Message)) : Prop where
  text : s = optionsText plainLayout inPlural os
  wellFormed : OptionsWellFormed inPlural os
  selectors : os.map Prod.fst = bs.map Prod.fst
  lengths : optionsOffsetLengths os = branchOffsets bs
  same : ∀ (scene : Scene) (pound : Option Value),
    Outline.SameBranches ((scene.withAsides asides).options pound os)
      (branchOutlines scene pound bs)

section Lowered

variable {names : List String} {asides : Asides} {inPlural : Bool} {ps : List Phrase}
  {bs : List (String × List Phrase)} {s t : List Char} {m : Message} {name : String}

theorem isName_of_isWordName (h : IsWordName name) : IsName name :=
  ⟨h.1, fun c hc ↦ isNameChar_of_isWord (h.2 c hc)⟩

/-! #### Rows -/

theorem lowered_nil : Lowered asides inPlural [] [] [] where
  text := rfl
  wellFormed := trivial
  lengths := rfl
  same _ _ := .refl _

theorem Lowered.addText {w : String} (h : Lowered asides inPlural ps s m)
    (hw : IsPlainText inPlural w.toList) :
    Lowered asides inPlural (.text w :: ps) (w.toList ++ s) (Message.addText w.toList m) where
  text := by rw [messageText_addText hw, ← h.text]
  wellFormed := messageWellFormed_addText h.wellFormed
  lengths := (offsetLengths_addText m).trans h.lengths
  same scene pound := by
    have hadd := same_addText (s := w.toList) (scene.withAsides asides) pound m
    rw [String.ofList_toList] at hadd
    exact hadd.trans (.cons _ (h.same scene pound))

theorem Lowered.cons {p : Phrase} {e : Element} (h : Lowered asides inPlural ps t m)
    (he : LoweredPhrase asides inPlural p s e) :
    Lowered asides inPlural (p :: ps) (s ++ t) (e :: m) where
  text := by
    rw [messageText, inner_plainLayout, inner_plainLayout, ← he.text, ← h.text]
  wellFormed := ⟨he.wellFormed, h.wellFormed, fun _ _ hs ↦ absurd hs (he.apart _)⟩
  lengths := by rw [offsetLengths, rowOffsets, he.lengths, h.lengths]
  same scene pound := by
    rw [Scene.message, rowOutline]
    exact .append (he.same scene pound) (h.same scene pound)

/-! #### Phrases -/

theorem loweredPhrase_pound : LoweredPhrase asides true .pound ['#'] .pound where
  text := rfl
  wellFormed := rfl
  apart := by simp
  lengths := rfl
  same _ _ := .refl _

theorem loweredPhrase_argument (hindex : IsIndex asides)
    (h : WellFormed names inPlural (.argument name)) :
    LoweredPhrase asides inPlural (.argument name) ('{' :: (name.toList ++ ['}']))
      (.argument name) where
  text := by simp [elementText, nameText, Layout.spaces, plainLayout]
  wellFormed := isName_of_isWordName h.1
  apart := by simp
  lengths := rfl
  same scene pound := by
    rw [Scene.element, outline, Scene.argument, Scene.withAsides]
    dsimp only
    rw [lookup_eq_none hindex h.2]
    simp only [h.2, Bool.and_false]
    exact .refl _

/-- A call stands aside, and its placeholder leads to it. -/
theorem loweredPhrase_call {c : Call} {kind : PlaceholderKind} {n : Nat} (hindex : IsIndex asides)
    (hmem : (kind.token n, ⟨name, c.extension⟩) ∈ asides) :
    LoweredPhrase asides inPlural (.call name c) ('{' :: ((kind.token n).toList ++ ['}']))
      (.argument (kind.token n)) where
  text := by simp [elementText, nameText, Layout.spaces, plainLayout]
  wellFormed := isName_of_isWordName (isWordName_token kind n)
  apart := by simp
  lengths := rfl
  same scene pound := by
    have hlookup := lookup_of_mem hindex.1 hmem
    rw [Scene.element, outline, Scene.argument, Scene.withAsides]
    dsimp only at hlookup ⊢
    rw [hlookup]
    exact .refl _

theorem loweredPhrase_number {style : Option String} {options : Option NumberOptions}
    (h : WellFormed names inPlural (.number name style options)) :
    LoweredPhrase asides inPlural (.number name style options)
      (chars (.number name style options)) (.number name style options) where
  text := (formattedText_plainLayout name .number _).symm
  wellFormed := h.2
  apart := by simp
  lengths := rfl
  same _ _ := .refl _

theorem loweredPhrase_date {style skeleton : Option String}
    (h : WellFormed names inPlural (.date name style skeleton)) :
    LoweredPhrase asides inPlural (.date name style skeleton)
      (chars (.date name style skeleton)) (.date name style skeleton) where
  text := (formattedText_plainLayout name .date _).symm
  wellFormed := h.2
  apart := by simp
  lengths := rfl
  same _ _ := .refl _

theorem loweredPhrase_time {style skeleton : Option String}
    (h : WellFormed names inPlural (.time name style skeleton)) :
    LoweredPhrase asides inPlural (.time name style skeleton)
      (chars (.time name style skeleton)) (.time name style skeleton) where
  text := (formattedText_plainLayout name .time _).symm
  wellFormed := h.2
  apart := by simp
  lengths := rfl
  same _ _ := .refl _

/-! #### Branches -/

theorem loweredBranches_nil : LoweredBranches asides inPlural [] [] [] where
  text := rfl
  wellFormed := trivial
  selectors := rfl
  lengths := rfl
  same _ _ := .nil

theorem LoweredBranches.cons {selector : String} {os : List (String × Message)}
    (h : LoweredBranches asides inPlural bs t os) (hselector : Selector selector.toList)
    (hm : Lowered asides inPlural ps s m) :
    LoweredBranches asides inPlural ((selector, ps) :: bs)
      (' ' :: (selector.toList ++ ' ' :: '{' :: (s ++ '}' :: t))) ((selector, m) :: os) where
  text := by
    have hspace : plainLayout.spaces 8 = [' '] := rfl
    have hspace' : plainLayout.spaces 9 = [' '] := rfl
    rw [optionsText, inner_plainLayout, inner_plainLayout, ← hm.text, ← h.text, hspace, hspace']
    simp
  wellFormed := ⟨hselector, hm.wellFormed, h.wellFormed⟩
  selectors := by rw [List.map_cons, List.map_cons, h.selectors]
  lengths := by rw [optionsOffsetLengths, branchOffsets, hm.lengths, h.lengths]
  same scene pound := by
    rw [Scene.options, branchOutlines]
    exact .cons ⟨rfl, hm.same scene pound⟩ (h.same scene pound)

theorem ne_nil_of_selectors {α β : Type} {os : List (String × α)} {bs : List (String × β)}
    (h : os.map Prod.fst = bs.map Prod.fst) (hbs : bs ≠ []) : os ≠ [] := by
  rintro rfl
  exact hbs (List.map_eq_nil_iff.1 h.symm)

theorem loweredPhrase_plural {kind : PluralKind} {offset : Int} {os : List (String × Message)}
    (h : WellFormed names inPlural (.plural name kind offset bs))
    (hos : LoweredBranches asides true bs s os) :
    LoweredPhrase asides inPlural (.plural name kind offset bs)
      ('{' :: (head name (.plural kind) (offsetPart plainLayout offset
        (bs.map fun b ↦ (b.1, []))) ++ (s ++ ['}']))) (.plural name kind offset os) where
  text := by
    have hoffset : offsetPart plainLayout offset os =
        offsetPart plainLayout offset (bs.map fun b ↦ (b.1, [])) := by
      refine offsetPart_congr _ _ ?_
      rw [hos.selectors, List.map_map]
      rfl
    rw [elementText, inner_plainLayout, ← hos.text, hoffset, head_eq]
    simp
  wellFormed := by
    obtain ⟨hname, hne, hdiff, -⟩ := h
    rw [← hos.selectors] at hdiff
    exact ⟨isName_of_isWordName hname, ne_nil_of_selectors hos.selectors hne, hdiff, hos.wellFormed⟩
  apart := by simp
  lengths := by rw [elementOffsetLengths, offsets, hos.lengths]
  same scene pound := Outline.same_pluralOutline
    (fun number ↦ hos.same scene (some (.number number))) scene name kind offset

theorem loweredPhrase_select {os : List (String × Message)}
    (h : WellFormed names inPlural (.select name bs)) (hos : LoweredBranches asides false bs s os) :
    LoweredPhrase asides inPlural (.select name bs)
      ('{' :: (head name .select [] ++ (s ++ ['}']))) (.select name os) where
  text := by
    rw [elementText, inner_plainLayout, ← hos.text, head_eq]
    simp
  wellFormed := by
    obtain ⟨hname, hne, hdiff, -⟩ := h
    rw [← hos.selectors] at hdiff
    exact ⟨isName_of_isWordName hname, ne_nil_of_selectors hos.selectors hne, hdiff, hos.wellFormed⟩
  apart := by simp
  lengths := by rw [elementOffsetLengths, offsets, hos.lengths]
  same scene pound :=
    Outline.same_withValue (Outline.same_selected (hos.same scene none) name) scene name

end Lowered

/-! #### Whole trees -/

section Trees

variable {names : List String} {asides : Asides}

/-- No pass takes an argument of the message format. -/
theorem firstFound_inside {inPlural : Bool} {p : Phrase} {v : List Char}
    (hnames : AreFormatters names) (h : WellFormed names inPlural p) (hv : inside? p = some v)
    (hp : ∀ name c, p ≠ .call name c) (hp' : Spelled p) : firstFound (passes names) v = none := by
  have htyped {name word : String} {r : List Char} (hname : IsWordName name)
      (hword : IsWordName word) (hreserved : word ∈ Roster.reservedNames)
      (hother : word ∉ ["currency", "compactLong", "compact", "relativeTime", "list"])
      (hr : EndsWord r) : firstFound (passes names) (typedInside name word r) = none :=
    firstFound_of_notMem hnames hname hword (fun hmem ↦ (hnames _ hmem).2 hreserved) hother hr
  cases p with
  | text | pound | plural | select => cases hv
  | shorthand f => exact hp'.elim
  | call name c => exact absurd rfl (hp name c)
  | argument name =>
    obtain rfl := Option.some.inj hv
    rw [firstFound, List.findSome?_eq_none_iff]
    exact fun p hp ↦ (named_passes names p hp).found?_eq_none
      fun hmem ↦ absurd (h.1.2 _ hmem) (by decide)
  | number name style options =>
    obtain rfl := Option.some.inj hv
    exact htyped h.1 (by decide) (by decide) (by decide) (isDetail_styleDetail _).endsWord
  | date name style skeleton =>
    obtain rfl := Option.some.inj hv
    exact htyped h.1 (by decide) (by decide) (by decide) (isDetail_styleDetail _).endsWord
  | time name style skeleton =>
    obtain rfl := Option.some.inj hv
    exact htyped h.1 (by decide) (by decide) (by decide) (isDetail_styleDetail _).endsWord

/-- A group that no pass takes is left. -/
theorem eq_of_labelled_group {ps : List Pass} {v : List Char} {is : List Item}
    (hv : firstFound ps v = none) (h : List.Forall₂ (Labelled ps asides) [.group v] is) :
    is = [.group v] := by
  cases h with
  | cons hi hrest =>
    cases hrest
    cases hi with
    | kept _ => rfl
    | aside ha _ =>
      rw [hv] at ha
      cases ha

theorem exists_of_labelled_group {ps : List Pass} {v : List Char} {a : ExtensionArgument}
    {is : List Item} (hv : firstFound ps v = some a)
    (h : List.Forall₂ (Labelled ps asides) [.group v] is) :
    ∃ (kind : PlaceholderKind) (n : Nat), is = [.group (kind.token n).toList] ∧
      (kind.token n, a) ∈ asides := by
  cases h with
  | cons hi hrest =>
    cases hrest
    cases hi with
    | kept hnone =>
      rw [hv] at hnone
      cases hnone
    | @aside _ b kind n hb hmem =>
      rw [hv] at hb
      obtain rfl := Option.some.inj hb
      exact ⟨kind, n, rfl, hmem⟩

/-- The characters of a row without braces are left. -/
theorem rowItems_eq_map_char {ps : List Phrase} (h : ps.all isFlat = true) :
    rowItems ps = (rowChars ps).map .char := by
  induction ps with
  | nil => rfl
  | cons p ps ih =>
    rw [List.all_cons, Bool.and_eq_true] at h
    rw [rowItems, rowChars, List.map_append, ih h.2]
    cases p with
    | text | pound => rfl
    | _ => exact absurd h.1 Bool.false_ne_true

mutual

theorem exists_loweredPhrase {inPlural : Bool} {p : Phrase} {is : List Item}
    (hnames : AreFormatters names) (hindex : IsIndex asides) (h : WellFormed names inPlural p)
    (hspelled : Spelled p) (htext : ∀ s, p ≠ .text s)
    (his : List.Forall₂ (Labelled (passes names) asides) (items p) is) :
    ∃ e, LoweredPhrase asides inPlural p (textOf is) e :=
  match p with
  | .text s => absurd rfl (htext s)
  | .shorthand f => hspelled.elim
  | .pound => by
    obtain rfl : inPlural = true := h
    obtain ⟨is', rfl, his'⟩ := exists_of_labelled_chars (w := ['#']) his
    cases his'
    exact ⟨_, loweredPhrase_pound⟩
  | .argument name => by
    obtain rfl := eq_of_labelled_group (firstFound_inside hnames h rfl nofun trivial) his
    rw [textOf_group]
    exact ⟨_, loweredPhrase_argument hindex h⟩
  | .call name c => by
    obtain ⟨kind, n, rfl, hmem⟩ := exists_of_labelled_group (firstFound_call hnames h.1 h.2) his
    rw [textOf_group]
    exact ⟨_, loweredPhrase_call hindex hmem⟩
  | .number name style options => by
    obtain rfl := eq_of_labelled_group (firstFound_inside hnames h rfl nofun trivial) his
    rw [textOf_group]
    exact ⟨_, loweredPhrase_number h⟩
  | .date name style skeleton => by
    obtain rfl := eq_of_labelled_group (firstFound_inside hnames h rfl nofun trivial) his
    rw [textOf_group]
    exact ⟨_, loweredPhrase_date h⟩
  | .time name style skeleton => by
    obtain rfl := eq_of_labelled_group (firstFound_inside hnames h rfl nofun trivial) his
    rw [textOf_group]
    exact ⟨_, loweredPhrase_time h⟩
  | .plural name kind offset branches => by
    have hbranches := h.2.2.2
    rw [items, ← List.cons_append, ← List.map_cons] at his
    obtain ⟨js, rfl, hjs⟩ := exists_of_labelled_chars his
    obtain ⟨bs', close, rfl, hbs', hclose⟩ := exists_of_labelled_append hjs
    obtain ⟨rest, rfl, hrest⟩ := exists_of_labelled_chars (w := ['}']) hclose
    cases hrest
    obtain ⟨os, hos⟩ := exists_loweredBranches hnames hindex hbranches hspelled hbs'
    rw [textOf_chars, textOf_append, textOf_chars]
    exact ⟨_, loweredPhrase_plural h hos⟩
  | .select name branches => by
    have hbranches := h.2.2.2
    rw [items, ← List.cons_append, ← List.map_cons] at his
    obtain ⟨js, rfl, hjs⟩ := exists_of_labelled_chars his
    obtain ⟨bs', close, rfl, hbs', hclose⟩ := exists_of_labelled_append hjs
    obtain ⟨rest, rfl, hrest⟩ := exists_of_labelled_chars (w := ['}']) hclose
    cases hrest
    obtain ⟨os, hos⟩ := exists_loweredBranches hnames hindex hbranches hspelled hbs'
    rw [textOf_chars, textOf_append, textOf_chars]
    exact ⟨_, loweredPhrase_select h hos⟩
termination_by structural p

/-- A tree with its calls put aside is the template of a message. -/
theorem exists_lowered {inPlural : Bool} {ps : List Phrase} {is : List Item}
    (hnames : AreFormatters names) (hindex : IsIndex asides) (h : RowWellFormed names inPlural ps)
    (hspelled : RowSpelled ps)
    (his : List.Forall₂ (Labelled (passes names) asides) (rowItems ps) is) :
    ∃ m, Lowered asides inPlural ps (textOf is) m :=
  match ps with
  | [] => by
    cases his
    exact ⟨_, lowered_nil⟩
  | p :: ps => by
    obtain ⟨is', js, rfl, his', hjs⟩ := exists_of_labelled_append his
    obtain ⟨m, hm⟩ := exists_lowered hnames hindex h.2 hspelled.2 hjs
    rw [textOf_append]
    by_cases htext : ∃ s, p = .text s
    · obtain ⟨s, rfl⟩ := htext
      have hchars := List.append_nil (s.toList.map Item.char)
      rw [items, ← hchars] at his'
      obtain ⟨rest, rfl, hrest⟩ := exists_of_labelled_chars his'
      cases hrest
      rw [textOf_chars, textOf_nil, List.append_nil]
      exact ⟨_, hm.addText h.1⟩
    · obtain ⟨e, he⟩ := exists_loweredPhrase hnames hindex h.1 hspelled.1 (not_exists.1 htext) his'
      exact ⟨_, hm.cons he⟩
termination_by structural ps

theorem exists_loweredBranches {inPlural : Bool} {bs : List (String × List Phrase)}
    {is : List Item} (hnames : AreFormatters names) (hindex : IsIndex asides)
    (h : BranchesWellFormed names inPlural bs) (hspelled : BranchesSpelled bs)
    (his : List.Forall₂ (Labelled (passes names) asides) (branchItems bs) is) :
    ∃ os, LoweredBranches asides inPlural bs (textOf is) os :=
  match bs with
  | [] => by
    cases his
    exact ⟨_, loweredBranches_nil⟩
  | (selector, ps) :: bs => by
    obtain ⟨hselector, hps, huntouched, hbs⟩ := h
    have hstart : branchItems ((selector, ps) :: bs) =
        (' ' :: (selector.toList ++ [' '])).map .char ++
          ((if ps.all isFlat then [.group (rowChars ps)]
            else .char '{' :: (rowItems ps ++ [.char '}'])) ++ branchItems bs) := by
      simp only [branchItems, List.map_cons, List.map_append, List.map_nil, List.cons_append,
        List.append_assoc, List.nil_append]
    rw [hstart] at his
    obtain ⟨is', rfl, his'⟩ := exists_of_labelled_chars his
    obtain ⟨body, js, rfl, hbody, hjs⟩ := exists_of_labelled_append his'
    obtain ⟨os, hos⟩ := exists_loweredBranches hnames hindex hbs hspelled.2 hjs
    have hm : ∃ m s, textOf body = '{' :: (s ++ ['}']) ∧ Lowered asides inPlural ps s m := by
      split at hbody
      · rename_i hflat
        obtain rfl := eq_of_labelled_group (huntouched hflat).2 hbody
        have hrow : List.Forall₂ (Labelled (passes names) asides) (rowItems ps) (rowItems ps) := by
          rw [rowItems_eq_map_char hflat]
          exact labelled_chars _
        obtain ⟨m, hm⟩ := exists_lowered hnames hindex hps hspelled.1 hrow
        rw [textOf_rowItems] at hm
        exact ⟨m, rowChars ps, textOf_group _ [], hm⟩
      · obtain ⟨ks, rfl, hks⟩ := exists_of_labelled_chars (w := ['{']) hbody
        obtain ⟨row, close, rfl, hrow, hclose⟩ := exists_of_labelled_append hks
        obtain ⟨rest, rfl, hrest⟩ := exists_of_labelled_chars (w := ['}']) hclose
        cases hrest
        obtain ⟨m, hm⟩ := exists_lowered hnames hindex hps hspelled.1 hrow
        exact ⟨m, textOf row, by rw [textOf_chars, textOf_append, textOf_chars]; rfl, hm⟩
    obtain ⟨m, s, hs, hm⟩ := hm
    have hbranches := hos.cons hselector hm
    have htext : textOf ((' ' :: (selector.toList ++ [' '])).map .char ++ (body ++ js)) =
        ' ' :: (selector.toList ++ ' ' :: '{' :: (s ++ '}' :: textOf js)) := by
      rw [textOf_chars, textOf_append, hs]
      simp
    rw [htext]
    exact ⟨_, hbranches⟩
termination_by structural bs

end

end Trees

end Phrase

end Phrasebook
