import Phrasebook.Proofs.Acceptance
import Phrasebook.Proofs.Passes
import Phrasebook.Proofs.RoundTrip

/-!
Where the names of placeholders come to stand in a message.

In a template that has been prepared an underscore stands in placeholders only (`Marked`). So it
does in the parts of a message that is read from it (`Elements.tidy`): a placeholder is the name of
a plain argument, or it stands with its braces in a literal, where only an apostrophe can have put
it, or it is the whole text of an option, whose braces the passes took for those of an argument.
-/

set_option autoImplicit false

namespace Phrasebook.Grammar

open Message Template Text

/-- The name of a placeholder. -/
def IsToken (t : String) : Prop :=
  ∃ kind n, t = PlaceholderKind.token kind n

theorem IsToken.isWord {t : String} (h : IsToken t) : ∀ c ∈ t.toList, isWord c = true := by
  obtain ⟨kind, n, rfl⟩ := h
  exact kind.isWord_of_mem_token n

theorem IsToken.underscore_mem {t : String} (h : IsToken t) : '_' ∈ t.toList := by
  obtain ⟨kind, n, rfl⟩ := h
  rw [PlaceholderKind.toList_token]
  simp

/-! ### Marked texts -/

/-- A text in which underscores stand in placeholders only. -/
inductive Marked (tokens : List String) : List Char → Prop
  | nil : Marked tokens []
  | char {c : Char} {s : List Char} : c ≠ '_' → Marked tokens s → Marked tokens (c :: s)
  | token {t : String} {s : List Char} : t ∈ tokens → Marked tokens s →
      Marked tokens ('{' :: (t.toList ++ '}' :: s))

section Marked

variable {tokens : List String} {s t w : List Char}

theorem marked_of_notMem (h : '_' ∉ s) : Marked tokens s := by
  induction s with
  | nil => exact .nil
  | cons c s ih =>
    rw [List.mem_cons, not_or] at h
    exact .char (Ne.symm h.1) (ih h.2)

theorem Marked.append (hs : Marked tokens s) (ht : Marked tokens t) : Marked tokens (s ++ t) := by
  induction hs with
  | nil => exact ht
  | char hc _ ih => exact .char hc ih
  | token hmem _ ih =>
    rw [List.cons_append, List.append_assoc, List.cons_append]
    exact .token hmem ih

theorem Marked.cons {c : Char} (h : Marked tokens (c :: s)) (hc : c ≠ '{') :
    c ≠ '_' ∧ Marked tokens s := by
  cases h with
  | char hne hs => exact ⟨hne, hs⟩
  | token => exact absurd rfl hc

/-- Before its first opening brace a marked text has no underscore. -/
theorem Marked.of_append (h : Marked tokens (w ++ t)) (hw : ∀ c ∈ w, c ≠ '{') :
    '_' ∉ w ∧ Marked tokens t := by
  induction w with
  | nil => exact ⟨List.not_mem_nil, h⟩
  | cons c w ih =>
    obtain ⟨hc, hw⟩ := List.forall_mem_cons.1 hw
    obtain ⟨hne, h⟩ := h.cons hc
    obtain ⟨hnot, ht⟩ := ih h hw
    exact ⟨List.not_mem_cons_of_ne_of_not_mem hne.symm hnot, ht⟩

/-- After an opening brace stands marked text, or a placeholder and the brace that closes it. -/
theorem Marked.brace (h : Marked tokens ('{' :: s)) :
    Marked tokens s ∨ ∃ t ∈ tokens, ∃ u, s = t.toList ++ '}' :: u ∧ Marked tokens u := by
  generalize hx : '{' :: s = x at h
  cases h with
  | nil => cases hx
  | char _ hs =>
    obtain ⟨-, rfl⟩ := List.cons.inj hx
    exact .inl hs
  | @token t u hmem hu =>
    obtain ⟨-, rfl⟩ := List.cons.inj hx
    exact .inr ⟨t, hmem, u, rfl, hu⟩

/-- An underscore in a marked text is one of a placeholder in braces. -/
theorem Marked.exists_token (h : Marked tokens s) (hs : '_' ∈ s) :
    ∃ t ∈ tokens, '{' :: (t.toList ++ ['}']) <:+: s := by
  induction h with
  | nil => cases hs
  | @char c s hc _ ih =>
    rcases List.mem_cons.1 hs with he | hs
    · exact absurd he.symm hc
    · obtain ⟨t, hmem, ht⟩ := ih hs
      exact ⟨t, hmem, ht.trans (List.suffix_cons c s).isInfix⟩
  | @token t s hmem _ ih => exact ⟨t, hmem, [], s, by simp⟩

end Marked

/-! ### Parts of a marked text -/

section Parts

variable {tokens : List String} {s t u w : List Char} {name selector : String} {c : Char}

theorem Blanks.marked (h : Blanks s t) (hs : Marked tokens s) : Marked tokens t := by
  obtain ⟨b, hb, rfl⟩ := h
  exact (hs.of_append fun c hc ↦ (ne_brace_of_isSpace (hb c hc)).1).2

theorem Sign.marked (h : Sign c s t) (hs : Marked tokens s) (hc : c ≠ '{' := by decide) :
    Marked tokens t :=
  ((Blanks.marked h hs).cons hc).2

theorem Name.marked (h : Name s name t) (hs : Marked tokens s) :
    '_' ∉ name.toList ∧ Marked tokens t := by
  obtain ⟨w, -, hw, rfl, hb⟩ := h
  rw [String.toList_ofList]
  refine (hb.marked hs).of_append fun c hc ↦ ?_
  rintro rfl
  exact absurd (hw _ hc) (by decide)

theorem letters_ne_brace {word : List Char} (h : ∀ c ∈ word, isLetter c = true) :
    ∀ c ∈ word, c ≠ '{' := by
  rintro c hc rfl
  exact absurd (h _ hc) (by decide)

theorem Typed.marked {type : ArgumentType} (h : Typed s name (typeWord type) t)
    (hs : Marked tokens s) : '_' ∉ name.toList ∧ Marked tokens t := by
  obtain ⟨u, v, hname, hcomma, hword⟩ := h
  obtain ⟨hnot, hu⟩ := hname.marked hs
  have hv := hword.marked (hcomma.marked hu)
  exact ⟨hnot, (hv.of_append (letters_ne_brace (letters_typeWord type).2)).2⟩

theorem StyleEnd.marked {type : FormattedType} {e : Element} (h : StyleEnd name type s e t)
    (hs : Marked tokens s) : Marked tokens t := by
  cases h with
  | unstyled hclose => exact hclose.marked hs
  | styled hstyle _ =>
    obtain ⟨v, hv, hfree, -, -⟩ := hstyle
    exact (((hv.marked hs).of_append fun c hc ↦ (hfree c hc).1).2.cons (by decide)).2

theorem Offset.marked {fits : Nat → Prop} {n : Int} (h : Offset fits s n t)
    (hs : Marked tokens s) : Marked tokens t := by
  cases h with
  | absent => exact hs
  | @given negative ds t hd _ =>
    obtain ⟨b, hb, hblanks, ⟨-, hdigits⟩, -⟩ := hd
    have hword := (hblanks.marked hs).of_append (by decide +kernel)
    have hblank := (hword.2.cons (by decide)).2.of_append fun c hc ↦ by
      rintro rfl
      exact absurd (hb _ hc) (by decide)
    have hminus := hblank.2.of_append (w := minus negative) (by cases negative <;> decide)
    refine (hminus.2.of_append fun c hc ↦ ?_).2
    rintro rfl
    exact absurd (hdigits _ hc) (by decide)

theorem Opening.marked (h : Opening s selector t) (hs : Marked tokens s) :
    Marked tokens ('{' :: t) := by
  obtain ⟨w, u, hw, -, hblanks, hopen⟩ := h
  exact Blanks.marked hopen ((hblanks.marked hs).of_append fun c hc ↦
    (hw.braceFree c hc).1).2

theorem Run.of_cons {c : Char} (hc : c ≠ '\'') (h : Run (c :: s) w t) :
    ∃ u, w = c :: u ∧ Run s u t := by
  cases h with
  | closed => exact absurd rfl hc
  | doubled => exact absurd rfl hc
  | char _ h => exact ⟨_, rfl, h⟩

/-- A literal run takes what has no apostrophe as it is. -/
theorem Run.of_append {v : List Char} (hv : '\'' ∉ v) (h : Run (v ++ s) w t) :
    ∃ u, w = v ++ u ∧ Run s u t := by
  induction v generalizing w with
  | nil => exact ⟨w, rfl, h⟩
  | cons c v ih =>
    rw [List.mem_cons, not_or] at hv
    obtain ⟨x, rfl, hx⟩ := h.of_cons (Ne.symm hv.1)
    obtain ⟨u, rfl, hu⟩ := ih hv.2 hx
    exact ⟨u, rfl, hu⟩

variable (htokens : ∀ t ∈ tokens, IsToken t)

include htokens

/-- A literal run ends in no placeholder, for a placeholder has no apostrophe. -/
theorem Run.marked (h : Run s w t) (hs : Marked tokens s) : Marked tokens w ∧ Marked tokens t := by
  induction hn : s.length using Nat.strong_induction_on generalizing s w t with
  | _ n ih =>
    subst hn
    cases h with
    | unclosed => exact ⟨.nil, hs⟩
    | closed _ => exact ⟨.nil, (hs.cons (by decide)).2⟩
    | @doubled s w t hrun =>
      have hs := ((hs.cons (by decide)).2.cons (by decide)).2
      obtain ⟨hw, ht⟩ := ih s.length (by simp only [List.length_cons]; omega) hrun hs rfl
      exact ⟨.char (by decide) hw, ht⟩
    | @char c s w t hc hrun =>
      by_cases hopen : c = '{'
      · subst hopen
        rcases hs.brace with hs | ⟨token, hmem, u, rfl, hu⟩
        · obtain ⟨hw, ht⟩ := ih s.length (by simp) hrun hs rfl
          exact ⟨.char (by decide) hw, ht⟩
        · have hplain : '\'' ∉ token.toList := fun hmem' ↦
            absurd (htokens token hmem |>.isWord _ hmem') (by decide)
          obtain ⟨x, rfl, hclose⟩ := hrun.of_append hplain
          obtain ⟨v, rfl, hrest⟩ := hclose.of_cons (by decide)
          have hlt : u.length < ('{' :: (token.toList ++ '}' :: u)).length := by
            simp only [List.length_cons, List.length_append]
            omega
          obtain ⟨hw, ht⟩ := ih u.length hlt hrest hu rfl
          exact ⟨.token hmem hw, ht⟩
      · obtain ⟨hne, hs⟩ := hs.cons hopen
        obtain ⟨hw, ht⟩ := ih s.length (by simp) hrun hs rfl
        exact ⟨.char hne hw, ht⟩

theorem Piece.marked {inPlural : Bool} (h : Piece inPlural s w t) (hs : Marked tokens s) :
    Marked tokens w ∧ Marked tokens t := by
  cases h with
  | @char c s hquote hplain =>
    obtain ⟨hne, hs⟩ := hs.cons fun he ↦ hplain (.inl he)
    exact ⟨.char hne .nil, hs⟩
  | doubled =>
    exact ⟨.char (by decide) .nil, ((hs.cons (by decide)).2.cons (by decide)).2⟩
  | quoted _ hrun => exact hrun.marked htokens (hs.cons (by decide)).2
  | lone => exact ⟨.char (by decide) .nil, (hs.cons (by decide)).2⟩

end Parts

/-! ### Tidy messages -/

mutual

/-- In an element, placeholders are names of plain arguments, stand with their braces in literals,
or are whole options, and no other underscore occurs. -/
def ElementTidy (tokens : List String) : Element → Prop
  | .literal s => Marked tokens s.toList
  | .argument name => '_' ∉ name.toList ∨ name ∈ tokens
  | .plural name _ _ os => '_' ∉ name.toList ∧ OptionsTidy tokens os
  | .select name os => '_' ∉ name.toList ∧ OptionsTidy tokens os
  | .number name _ _ | .date name _ _ | .time name _ _ => '_' ∉ name.toList
  | .pound | .foreign _ => True

def MessageTidy (tokens : List String) : Message → Prop
  | [] => True
  | e :: es => ElementTidy tokens e ∧ MessageTidy tokens es

def OptionsTidy (tokens : List String) : List (String × Message) → Prop
  | [] => True
  | (_, branch) :: os =>
    ((∃ t ∈ tokens, branch = [.literal t]) ∨ MessageTidy tokens branch) ∧ OptionsTidy tokens os

end

section Tidy

variable {tokens : List String}

theorem MessageTidy.addText {w : List Char} {m : Message} (hw : Marked tokens w)
    (hm : MessageTidy tokens m) : MessageTidy tokens (addText w m) := by
  unfold Message.addText
  split
  · refine ⟨?_, hm.2⟩
    rw [ElementTidy, String.toList_append, String.toList_ofList]
    exact hw.append hm.1
  · split
    · exact hm
    · refine ⟨?_, hm⟩
      rwa [ElementTidy, String.toList_ofList]

theorem StyleEnd.tidy {name : String} {type : FormattedType} {s t : List Char} {e : Element}
    (h : StyleEnd name type s e t) (hname : '_' ∉ name.toList) : ElementTidy tokens e :=
  h.forall_shown (fun _ _ ↦ hname) (fun _ _ ↦ hname) fun _ _ ↦ hname

variable {fits : Nat → Prop}

/-- An argument that begins with a placeholder and its brace is that placeholder. -/
theorem Argument.of_token {t : String} {s r : List Char} {e : Element} (ht : IsToken t)
    (h : Argument fits (t.toList ++ '}' :: s) e r) : e = .argument t ∧ r = s := by
  have hname : Name (t.toList ++ '}' :: s) t ('}' :: s) :=
    ⟨t.toList, List.ne_nil_of_mem ht.underscore_mem,
      fun c hc ↦ isNameChar_of_isWord (ht.isWord c hc), String.ofList_toList.symm, Blanks.refl _⟩
  exact h.unique (.plain hname (.of_cons '}' s))

/-- A text that begins with a placeholder and a closing brace has the placeholder as its only
text. -/
theorem Elements.of_token {t : String} {inPlural : Bool} {s r : List Char} {m : Message}
    (ht : IsToken t) (h : Elements fits inPlural (t.toList ++ '}' :: s) m ('}' :: r)) :
    m = [.literal t] ∧ r = s := by
  have hplain : ∀ c ∈ t.toList, ¬ Quotable inPlural c := by
    rintro c hc (rfl | rfl | ⟨-, rfl⟩) <;> exact absurd (ht.isWord _ hc) (by decide)
  have hquote : '\'' ∉ t.toList := fun hc ↦ absurd (ht.isWord _ hc) (by decide)
  have hpieces : Pieces inPlural (t.toList ++ '}' :: s) t.toList ('}' :: s) := by
    have := pieces_doubled (t := '}' :: s) hplain
    rwa [doubled_eq_self hquote] at this
  have hstop : Elements fits inPlural ('}' :: s) [] ('}' :: s) :=
    .stop fun c hc ↦ (Option.mem_some.1 hc).symm
  have htext : addText t.toList [] = [.literal t] := by
    have hne : t.toList.isEmpty = false := by
      rw [List.isEmpty_eq_false_iff]
      exact List.ne_nil_of_mem ht.underscore_mem
    rw [addText, hne, String.ofList_toList]
    · rfl
    · simp
  obtain ⟨hm, hr⟩ := h.unique (.of_pieces hpieces hstop)
  rw [htext] at hm
  exact ⟨hm, (List.cons.inj hr).2⟩

mutual

/-- What a derivation makes of a marked text is tidy. -/
theorem Elements.tidy {inPlural : Bool} {s r : List Char} {m : Message}
    (h : Elements fits inPlural s m r) (htokens : ∀ t ∈ tokens, IsToken t) (hs : Marked tokens s) :
    MessageTidy tokens m ∧ Marked tokens r :=
  match h with
  | .stop _ => ⟨trivial, hs⟩
  | .text hp hm => by
    obtain ⟨hw, ht⟩ := hp.marked htokens hs
    obtain ⟨hm, hr⟩ := hm.tidy htokens ht
    exact ⟨hm.addText hw, hr⟩
  | .pound hm => by
    obtain ⟨hm, hr⟩ := hm.tidy htokens (hs.cons (by decide)).2
    exact ⟨⟨trivial, hm⟩, hr⟩
  | .argument he hm => by
    rcases hs.brace with hs | ⟨t, hmem, u, rfl, hu⟩
    · obtain ⟨he, ht⟩ := he.tidy htokens hs
      obtain ⟨hm, hr⟩ := hm.tidy htokens ht
      exact ⟨⟨he, hm⟩, hr⟩
    · obtain ⟨rfl, rfl⟩ := he.of_token (htokens t hmem)
      obtain ⟨hm, hr⟩ := hm.tidy htokens hu
      exact ⟨⟨.inr hmem, hm⟩, hr⟩

theorem Argument.tidy {s r : List Char} {e : Element} (h : Argument fits s e r)
    (htokens : ∀ t ∈ tokens, IsToken t) (hs : Marked tokens s) :
    ElementTidy tokens e ∧ Marked tokens r :=
  match h with
  | .plain hname hclose => by
    obtain ⟨hnot, ht⟩ := hname.marked hs
    exact ⟨.inl hnot, hclose.marked ht⟩
  | .typed ht he => by
    obtain ⟨hnot, ht⟩ := ht.marked hs
    exact he.tidy hnot htokens ht

theorem ArgumentEnd.tidy {name : String} {type : ArgumentType} {s r : List Char} {e : Element}
    (h : ArgumentEnd fits name type s e r) (hname : '_' ∉ name.toList)
    (htokens : ∀ t ∈ tokens, IsToken t) (hs : Marked tokens s) :
    ElementTidy tokens e ∧ Marked tokens r :=
  match h with
  | .formatted he => ⟨he.tidy hname, he.marked hs⟩
  | .plural hcomma ho hos _ hclose => by
    obtain ⟨hos, hr⟩ := hos.tidy htokens (ho.marked (hcomma.marked hs))
    exact ⟨⟨hname, hos⟩, hclose.marked hr⟩
  | .select hcomma hos _ hclose => by
    obtain ⟨hos, hr⟩ := hos.tidy htokens (hcomma.marked hs)
    exact ⟨⟨hname, hos⟩, hclose.marked hr⟩

theorem Options.tidy {inPlural : Bool} {seen : List String} {s r : List Char}
    {os : List (String × Message)} (h : Options fits inPlural seen s os r)
    (htokens : ∀ t ∈ tokens, IsToken t) (hs : Marked tokens s) :
    OptionsTidy tokens os ∧ Marked tokens r :=
  match h with
  | .none => ⟨trivial, hs⟩
  | .one ho _ hm hos => by
    rcases (ho.marked hs).brace with ht | ⟨t, hmem, u, rfl, hu⟩
    · obtain ⟨hm, hu⟩ := hm.tidy htokens ht
      obtain ⟨hos, hr⟩ := hos.tidy htokens (hu.cons (by decide)).2
      exact ⟨⟨.inr hm, hos⟩, hr⟩
    · obtain ⟨rfl, rfl⟩ := hm.of_token (htokens t hmem)
      obtain ⟨hos, hr⟩ := hos.tidy htokens hu
      exact ⟨⟨.inl ⟨t, hmem, rfl⟩, hos⟩, hr⟩

end

end Tidy

end Phrasebook.Grammar
