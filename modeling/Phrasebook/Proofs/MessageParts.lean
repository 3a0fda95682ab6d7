import Phrasebook.Proofs.DirectTemplates
import Phrasebook.Proofs.Printing

/-!
The texts and names of a message, where they stand in its template.

A message is read off its template from left to right, so what stands in it stands in the template:
a name follows an opening brace, and a comma or the closing brace follows the name
(`Grammar.Elements.parts`). A brace comes into a literal only by an apostrophe. No argument is read
where the form for zero of a plural in short has come to stand, since the form for one behind it
begins with a brace and a number sign, and no argument begins so.
-/

set_option autoImplicit false

namespace Phrasebook

open Message Template Text

/-! ### Parts of a message -/

mutual

/-- The literals of the element, the names of its plain arguments, and the names of its arguments
with a type have the properties. There is nothing in it that is no element. -/
def Element.Parts (literal plain typed : String → Prop) : Element → Prop
  | .literal s => literal s
  | .argument name => plain name
  | .plural name _ _ os | .select name os => typed name ∧ OptionsParts literal plain typed os
  | .number name _ _ | .date name _ _ | .time name _ _ => typed name
  | .pound => True
  | .foreign _ => False

/-- The parts of all elements of the message have the properties. -/
def MessageParts (literal plain typed : String → Prop) : Message → Prop
  | [] => True
  | e :: es => e.Parts literal plain typed ∧ MessageParts literal plain typed es

/-- The parts of all options have the properties. -/
def OptionsParts (literal plain typed : String → Prop) : List (String × Message) → Prop
  | [] => True
  | (_, m) :: os => MessageParts literal plain typed m ∧ OptionsParts literal plain typed os

end

section Parts

variable {literal plain typed : String → Prop}

theorem messageParts_iff {m : Message} :
    MessageParts literal plain typed m ↔ ∀ e ∈ m, e.Parts literal plain typed := by
  induction m with
  | nil => simp [MessageParts]
  | cons e es ih => rw [MessageParts, ih, List.forall_mem_cons]

theorem optionsParts_iff {os : List (String × Message)} :
    OptionsParts literal plain typed os ↔ ∀ o ∈ os, MessageParts literal plain typed o.2 := by
  induction os with
  | nil => simp [OptionsParts]
  | cons o os ih => rw [OptionsParts, ih, List.forall_mem_cons]

/-- Text joins the literal behind it. -/
theorem MessageParts.addText {w : List Char} {m : Message}
    (happend : ∀ s t, literal s → literal t → literal (s ++ t)) (hw : literal (String.ofList w))
    (hm : MessageParts literal plain typed m) :
    MessageParts literal plain typed (addText w m) := by
  unfold Message.addText
  split
  · exact ⟨happend _ _ hw hm.1, hm.2⟩
  · split
    · exact hm
    · exact ⟨hw, hm⟩

end Parts

/-! ### Where names stand -/

/-- What stands after some opening brace of the text has the property. -/
def AtBrace (P : List Char → Prop) (s : List Char) : Prop :=
  ∃ t, '{' :: t <:+ s ∧ P t

/-- A name, with the sign `d` behind it and white space around it. -/
def BeginsName (name : String) (d : Char) (s : List Char) : Prop :=
  Grammar.IsName name ∧ ∃ t u, White s (name.toList ++ t) ∧ White t (d :: u)

/-- The start of the form for one in a plural that is written out. -/
def oneForm : List Char :=
  " one \x7b#".toList

/-- What stands behind the opening brace is closed right before the start of a form for one, as the
form for zero is in a plural that is written out. -/
def BeginsZeroForm (s : List Char) : Prop :=
  ∃ v r, BraceFree v ∧ s = v ++ '}' :: (oneForm ++ r)

/-- An argument of the name that is no form for zero. -/
def BeginsArgument (name : String) (d : Char) (s : List Char) : Prop :=
  BeginsName name d s ∧ ¬ BeginsZeroForm s

section Names

variable {name : String} {c d e : Char} {s t v w : List Char}

theorem classes_of_isNameChar {c : Char} (h : Message.isNameChar c = true) :
    isBlank c = false ∧ c ≠ '{' ∧ c ≠ '}' := by
  simp only [Message.isNameChar, Bool.and_eq_true, Bool.not_eq_true', List.contains_eq_mem,
    decide_eq_false_iff_not, List.mem_cons, List.not_mem_nil, not_or] at h
  exact ⟨h.1, h.2.1, h.2.2.1⟩

theorem not_beginsName (hblank : isBlank c = false) (hname : Message.isNameChar c = false) :
    ¬ BeginsName name d (c :: s) := by
  rintro ⟨⟨hne, hchars⟩, t, u, ⟨b, hb, hs⟩, -⟩
  obtain ⟨e, w, hw⟩ := List.exists_cons_of_ne_nil hne
  cases b with
  | nil =>
    rw [hw] at hs hchars
    obtain ⟨rfl, -⟩ := List.cons.inj hs
    rw [hchars c List.mem_cons_self] at hname
    cases hname
  | cons e b =>
    obtain ⟨rfl, -⟩ := List.cons.inj hs
    rw [hb c List.mem_cons_self] at hblank
    cases hblank

/-- The first brace of a text stands in one place. -/
theorem Text.BraceFree.append_inj (hv : BraceFree v) (hw : BraceFree w) (hc : c = '{' ∨ c = '}')
    (hd : d = '{' ∨ d = '}') (h : v ++ c :: s = w ++ d :: t) : v = w ∧ c = d ∧ s = t := by
  let p : Char → Bool := fun c ↦ c != '{' && c != '}'
  have hfree {v : List Char} (hv : BraceFree v) : ∀ c ∈ v, p c = true := by
    intro c hc
    simpa [p] using hv c hc
  have hstop {c : Char} (hc : c = '{' ∨ c = '}') (s : List Char) :
      ∀ e ∈ (c :: s).head?, p e = false := by
    intro e he
    rw [← Option.mem_some.1 he]
    rcases hc with rfl | rfl <;> rfl
  have heq : v = w := by
    rw [← takeWhile_append_stop (hfree hv) (hstop hc s), h,
      takeWhile_append_stop (hfree hw) (hstop hd t)]
  subst heq
  exact ⟨rfl, List.cons.inj (List.append_cancel_left h)⟩

theorem beginsZeroForm_iff (hv : BraceFree v) :
    BeginsZeroForm (v ++ '}' :: s) ↔ oneForm <+: s := by
  constructor
  · rintro ⟨w, r, hw, h⟩
    obtain ⟨-, -, rfl⟩ := hv.append_inj hw (.inr rfl) (.inr rfl) h
    exact List.prefix_append oneForm r
  · rintro ⟨r, rfl⟩
    exact ⟨v, r, hv, rfl⟩

/-- Where the next brace opens, no form for zero begins. -/
theorem not_beginsZeroForm (hv : BraceFree v) (hs : ∀ c ∈ s.head?, c = '{') :
    ¬ BeginsZeroForm (v ++ s) := by
  rintro ⟨w, r, hw, h⟩
  cases s with
  | nil =>
    rw [List.append_nil] at h
    exact (hv '}' (by rw [h]; simp)).2 rfl
  | cons c s =>
    obtain rfl := hs c rfl
    obtain ⟨-, hc, -⟩ := hv.append_inj hw (.inl rfl) (.inr rfl) h
    exact absurd hc (by decide)

end Names

section AtBrace

variable {P Q : List Char → Prop} {c : Char} {s t w : List Char}

theorem atBrace_nil : ¬ AtBrace P [] := by
  rintro ⟨t, ht, -⟩
  exact absurd (List.suffix_nil.1 ht) (List.cons_ne_nil _ _)

theorem atBrace_cons : AtBrace P (c :: s) ↔ c = '{' ∧ P s ∨ AtBrace P s := by
  constructor
  · rintro ⟨t, ht, hP⟩
    rcases List.suffix_cons_iff.1 ht with h | h
    · obtain ⟨rfl, rfl⟩ := List.cons.inj h
      exact .inl ⟨rfl, hP⟩
    · exact .inr ⟨t, h, hP⟩
  · rintro (⟨rfl, hP⟩ | ⟨t, ht, hP⟩)
    · exact ⟨s, List.suffix_rfl, hP⟩
    · exact ⟨t, ht.trans (List.suffix_cons c s), hP⟩

/-- Nothing stands after an opening brace where there is none. -/
theorem atBrace_append (hw : ∀ c ∈ w, c ≠ '{') : AtBrace P (w ++ s) ↔ AtBrace P s := by
  induction w with
  | nil => exact .rfl
  | cons c w ih =>
    obtain ⟨hc, hw⟩ := List.forall_mem_cons.1 hw
    rw [List.cons_append, atBrace_cons, ih hw]
    exact or_iff_right fun h ↦ hc h.1

/-- After the brace of a group stands the text of the group; there is no other brace in it. -/
theorem atBrace_group (hw : ∀ c ∈ w, c ≠ '{') :
    AtBrace P ('{' :: (w ++ '}' :: s)) ↔ P (w ++ '}' :: s) ∨ AtBrace P s := by
  rw [atBrace_cons, atBrace_append hw, atBrace_cons, and_iff_right rfl]
  exact or_congr_right (or_iff_right fun h ↦ absurd h.1 (by decide))

theorem AtBrace.mono (h : AtBrace P s) (hPQ : ∀ t, P t → Q t) : AtBrace Q s := by
  obtain ⟨t, ht, hP⟩ := h
  exact ⟨t, ht, hPQ t hP⟩

theorem atBrace_or (h : AtBrace (fun t ↦ P t ∨ Q t) s) : AtBrace P s ∨ AtBrace Q s := by
  obtain ⟨t, ht, hP | hQ⟩ := h
  · exact .inl ⟨t, ht, hP⟩
  · exact .inr ⟨t, ht, hQ⟩

theorem AtBrace.of_suffix (h : AtBrace P t) (ht : t <:+ s) : AtBrace P s := by
  obtain ⟨u, hu, hP⟩ := h
  exact ⟨u, hu.trans ht, hP⟩

end AtBrace

/-! ### Reading a message -/

namespace Grammar

variable {fits : Nat → Prop} {template : List Char}

/-- A literal that is read off a template has a brace only if the template has an apostrophe. -/
def LiteralIn (template : List Char) (s : String) : Prop :=
  '\'' ∉ template → BraceFree s.toList

/-- A name that is read off a template stands there after an opening brace, before the sign. -/
def NameIn (template : List Char) (d : Char) (name : String) : Prop :=
  AtBrace (BeginsArgument name d) template

theorem LiteralIn.append {s t : String} (hs : LiteralIn template s) (ht : LiteralIn template t) :
    LiteralIn template (s ++ t) := by
  intro h
  rw [String.toList_append]
  exact (hs h).append (ht h)

/-- What a piece of text stands for. -/
theorem Piece.literalIn {inPlural : Bool} {s w t : List Char} (h : Piece inPlural s w t)
    (hs : s <:+ template) : LiteralIn template (String.ofList w) := by
  intro hnone
  have hmem : '\'' ∉ s := fun hc ↦ hnone (hs.subset hc)
  rw [String.toList_ofList]
  cases h with
  | @char c s hc hquotable =>
    have hbraces : c ≠ '{' ∧ c ≠ '}' :=
      ⟨fun he ↦ hquotable (.inl he), fun he ↦ hquotable (.inr (.inl he))⟩
    exact BraceFree.nil.cons hbraces
  | doubled => exact absurd List.mem_cons_self hmem
  | quoted => exact absurd List.mem_cons_self hmem
  | lone => exact absurd List.mem_cons_self hmem

theorem Name.beginsName {s t u : List Char} {name : String} {d : Char} (h : Name s name t)
    (hd : Sign d t u) : BeginsName name d s := by
  obtain ⟨w, hne, hw, rfl, hs⟩ := h
  have hname : IsName (String.ofList w) := by
    rw [IsName, String.toList_ofList]
    exact ⟨hne, hw⟩
  refine ⟨hname, t, u, ?_, Blanks.white hd⟩
  rw [String.toList_ofList]
  exact hs.white

theorem Typed.beginsName {s t : List Char} {name word : String} (h : Typed s name word t) :
    BeginsName name ',' s := by
  obtain ⟨u, v, hname, hcomma, -⟩ := h
  exact hname.beginsName hcomma

theorem Argument.beginsName {s t : List Char} {e : Element} (h : Argument fits s e t) :
    ∃ name d, BeginsName name d s := by
  rcases h with ⟨hname, hsign⟩ | ⟨ht, -⟩
  · exact ⟨_, _, hname.beginsName hsign⟩
  · exact ⟨_, _, ht.beginsName⟩

theorem Typed.suffix {s t : List Char} {name word : String} (h : Typed s name word t) :
    t <:+ s := by
  obtain ⟨u, v, hname, hcomma, hword⟩ := h
  have hv : t <:+ v := (List.suffix_append _ t).trans hword.suffix
  exact (hv.trans hcomma.suffix).trans hname.suffix

theorem StyleEnd.suffix {name : String} {type : FormattedType} {s t : List Char} {e : Element}
    (h : StyleEnd name type s e t) : t <:+ s := by
  cases h with
  | unstyled hsign => exact hsign.suffix
  | styled hstyle _ =>
    obtain ⟨v, hsign, -⟩ := hstyle
    exact ((List.suffix_cons _ t).trans (List.suffix_append v _)).trans hsign.suffix

theorem StyleEnd.parts {name : String} {type : FormattedType} {s t : List Char} {e : Element}
    {literal plain typed : String → Prop} (h : StyleEnd name type s e t) (hname : typed name) :
    e.Parts literal plain typed :=
  h.forall_shown (fun _ _ ↦ hname) (fun _ _ ↦ hname) fun _ _ ↦ hname

theorem Offset.suffix {s t : List Char} {offset : Int} (h : Offset fits s offset t) :
    t <:+ s := by
  cases h with
  | absent => exact List.suffix_rfl
  | @given negative ds t hdigits _ =>
    obtain ⟨b, -, hword, -⟩ := hdigits
    refine List.IsSuffix.trans ?_ hword.suffix
    exact ⟨"offset".toList ++ ':' :: (b ++ (minus negative ++ ds)), by simp⟩

theorem Opening.suffix {s t : List Char} {selector : String} (h : Opening s selector t) :
    t <:+ s := by
  obtain ⟨w, u, -, -, hw, hsign⟩ := h
  exact hsign.suffix.trans ((List.suffix_append w u).trans hw.suffix)

/-! ### Forms for zero -/

/-- There is no brace in what stands before `t`. -/
def Spans (s t : List Char) : Prop :=
  ∃ p, BraceFree p ∧ s = p ++ t

section Spans

variable {s t u : List Char} {name : String}

theorem Spans.trans (h : Spans s t) (h' : Spans t u) : Spans s u := by
  obtain ⟨p, hp, rfl⟩ := h
  obtain ⟨p', hp', rfl⟩ := h'
  exact ⟨p ++ p', hp.append hp', (List.append_assoc p p' u).symm⟩

theorem Spans.drop {p : List Char} (h : Spans s (p ++ t)) (hp : BraceFree p) : Spans s t :=
  h.trans ⟨p, hp, rfl⟩

theorem Blanks.spans (h : Blanks s t) : Spans s t := by
  obtain ⟨b, hb, rfl⟩ := h
  refine ⟨b, fun c hc ↦ ?_, rfl⟩
  rcases isSpace_cases (hb c hc) with rfl | rfl | rfl | rfl <;> decide

theorem Name.spans (h : Name s name t) : Spans s t := by
  obtain ⟨w, -, hw, -, hs⟩ := h
  exact hs.spans.drop fun c hc ↦ (classes_of_isNameChar (hw c hc)).2

theorem Typed.spans {type : ArgumentType} (h : Typed s name (typeWord type) t) : Spans s t := by
  obtain ⟨u, v, hname, hcomma, hword⟩ := h
  have hbehind : Spans s v := (hname.spans.trans hcomma.spans).drop (p := [',']) (by decide)
  refine (hbehind.trans hword.spans).drop ?_
  rcases type with (_ | _ | _) | (_ | _) | _ <;> decide

theorem StyleEnd.spans {type : FormattedType} {e : Element} (h : StyleEnd name type s e t) :
    Spans s ('}' :: t) := by
  rcases h with hsign | ⟨⟨v, hsign, hv, -⟩, -⟩
  · exact hsign.spans
  · exact (hsign.spans.drop (p := [',']) (by decide)).drop hv

theorem Offset.spans {offset : Int} (h : Offset fits s offset t) : Spans s t := by
  rcases h with _ | @⟨negative, ds, t, ⟨b, hb, hword, ⟨-, hds⟩, -⟩, -⟩
  · exact ⟨[], .nil, rfl⟩
  have hb : BraceFree b := fun c hc ↦ by
    constructor <;> (rintro rfl; exact absurd (hb _ hc) (by decide))
  have hds : BraceFree ds := fun c hc ↦ by
    constructor <;> (rintro rfl; exact absurd (hds _ hc) (by decide))
  have hminus : BraceFree (minus negative) := by
    cases negative <;> decide
  exact ((((hword.spans.drop (by decide)).drop (p := [':']) (by decide)).drop hb).drop hminus).drop
    hds

theorem Opening.spans {selector : String} (h : Opening s selector t) : Spans s ('{' :: t) := by
  obtain ⟨w, u, hw, -, hs, hsign⟩ := h
  exact (hs.spans.drop hw.braceFree).trans hsign.spans

theorem Options.spans {inPlural : Bool} {seen : List String} {os : List (String × Message)}
    (h : Options fits inPlural seen s os t) (hos : os ≠ []) : ∃ u, Spans s ('{' :: u) := by
  cases h with
  | none => exact absurd rfl hos
  | one hopening => exact ⟨_, hopening.spans⟩

/-- The first brace in an argument is the one that closes it, or the one of an option. -/
theorem Argument.spans {e : Element} (h : Argument fits s e t) :
    Spans s ('}' :: t) ∨ ∃ u, Spans s ('{' :: u) := by
  rcases h with ⟨hname, hsign⟩ | ⟨htyped, he⟩
  · exact .inl (hname.spans.trans hsign.spans)
  have behind {t u : List Char} (ht : Spans s t) (hcomma : Sign ',' t u) : Spans s u :=
    (ht.trans hcomma.spans).drop (p := [',']) (by decide)
  rcases he with he | ⟨hcomma, hoffset, hos, hne, -⟩ | ⟨hcomma, hos, hne, -⟩
  · exact .inl (htyped.spans.trans he.spans)
  · obtain ⟨u, hu⟩ := hos.spans hne
    exact .inr ⟨u, ((behind htyped.spans hcomma).trans hoffset.spans).trans hu⟩
  · obtain ⟨u, hu⟩ := hos.spans hne
    exact .inr ⟨u, (behind htyped.spans hcomma).trans hu⟩

/-- An argument whose first brace closes it ends there. -/
theorem Argument.rest_of_group {v : List Char} {e : Element}
    (h : Argument fits (v ++ '}' :: u) e t) (hv : BraceFree v) : t = u := by
  rcases h.spans with ⟨p, hp, hs⟩ | ⟨w, p, hp, hs⟩
  · exact (hv.append_inj hp (.inr rfl) (.inr rfl) hs).2.2.symm
  · exact absurd (hv.append_inj hp (.inr rfl) (.inl rfl) hs).2.1 (by decide)

/-- A character without a meaning of its own is a piece of text. -/
theorem Elements.of_char {inPlural : Bool} {c : Char} {m : Message} (hapostrophe : c ≠ '\'')
    (hpound : c ≠ '#') (hc : c ≠ '{' ∧ c ≠ '}') (h : Elements fits inPlural (c :: s) m t) :
    ∃ m', Elements fits inPlural s m' t := by
  cases h with
  | stop hs => exact absurd (hs c rfl) hc.2
  | pound _ => exact absurd rfl hpound
  | argument _ _ => exact absurd rfl hc.1
  | text hp hm =>
    cases hp with
    | char _ _ => exact ⟨_, hm⟩
    | doubled | quoted | lone => exact absurd rfl hapostrophe

/-- No message goes on with the form for one of a plural. -/
theorem not_elements_oneForm {inPlural : Bool} {m : Message} :
    ¬ Elements fits inPlural (oneForm ++ s) m t := by
  have hform : oneForm = [' ', 'o', 'n', 'e', ' ', '{', '#'] := by decide
  intro h
  rw [hform] at h
  obtain ⟨_, h⟩ := h.of_char (by decide) (by decide) (by decide)
  obtain ⟨_, h⟩ := h.of_char (by decide) (by decide) (by decide)
  obtain ⟨_, h⟩ := h.of_char (by decide) (by decide) (by decide)
  obtain ⟨_, h⟩ := h.of_char (by decide) (by decide) (by decide)
  obtain ⟨_, h⟩ := h.of_char (by decide) (by decide) (by decide)
  cases h with
  | stop hs => exact absurd (hs '{' rfl) (by decide)
  | text hp _ =>
    cases hp with
    | char _ hquotable => exact hquotable (.inl rfl)
  | argument he _ =>
    obtain ⟨name, d, hbegins⟩ := he.beginsName
    exact not_beginsName (by decide) (by decide) hbegins

/-- No argument that is read is a form for zero. -/
theorem Argument.not_beginsZeroForm {inPlural : Bool} {e : Element} {m : Message}
    (h : Argument fits s e t) (hm : Elements fits inPlural t m u) : ¬ BeginsZeroForm s := by
  rintro ⟨v, r, hv, rfl⟩
  rw [h.rest_of_group hv] at hm
  exact not_elements_oneForm hm

end Spans

/-! ### What is read off a template -/

mutual

/-- What a message consists of stands in the template that it is read off. -/
theorem Elements.parts {inPlural : Bool} {s r : List Char} {m : Message}
    (h : Elements fits inPlural s m r) (hs : s <:+ template) :
    r <:+ template ∧
      MessageParts (LiteralIn template) (NameIn template '}') (NameIn template ',') m :=
  match h with
  | .stop _ => ⟨hs, trivial⟩
  | .text hp hm =>
    have ⟨hr, hparts⟩ := hm.parts (hp.suffix.trans hs)
    ⟨hr, hparts.addText (fun _ _ ↦ LiteralIn.append) (hp.literalIn hs)⟩
  | .pound hm =>
    have ⟨hr, hparts⟩ := hm.parts ((List.suffix_cons _ _).trans hs)
    ⟨hr, trivial, hparts⟩
  | .argument he hm =>
    have ⟨ht, hparts⟩ := he.parts hs (he.not_beginsZeroForm hm)
    have ⟨hr, hrest⟩ := hm.parts ht
    ⟨hr, hparts, hrest⟩
termination_by structural h

theorem Argument.parts {s r : List Char} {e : Element} (h : Argument fits s e r)
    (hs : '{' :: s <:+ template) (hzero : ¬ BeginsZeroForm s) :
    r <:+ template ∧ e.Parts (LiteralIn template) (NameIn template '}') (NameIn template ',') :=
  have hopened : s <:+ template := (List.suffix_cons '{' s).trans hs
  match h with
  | .plain hname hsign =>
    ⟨(hsign.suffix.trans hname.suffix).trans hopened, s, hs, hname.beginsName hsign, hzero⟩
  | .typed ht he => he.parts ⟨s, hs, ht.beginsName, hzero⟩ (ht.suffix.trans hopened)
termination_by structural h

theorem ArgumentEnd.parts {name : String} {type : ArgumentType} {s r : List Char} {e : Element}
    (h : ArgumentEnd fits name type s e r) (hname : NameIn template ',' name)
    (hs : s <:+ template) :
    r <:+ template ∧ e.Parts (LiteralIn template) (NameIn template '}') (NameIn template ',') :=
  match h with
  | .formatted he => ⟨he.suffix.trans hs, he.parts hname⟩
  | .plural hcomma hoffset hos _ hclose =>
    have ⟨hv, hparts⟩ := hos.parts ((hoffset.suffix.trans hcomma.suffix).trans hs)
    ⟨hclose.suffix.trans hv, hname, hparts⟩
  | .select hcomma hos _ hclose =>
    have ⟨hv, hparts⟩ := hos.parts (hcomma.suffix.trans hs)
    ⟨hclose.suffix.trans hv, hname, hparts⟩
termination_by structural h

theorem Options.parts {inPlural : Bool} {seen : List String} {s r : List Char}
    {os : List (String × Message)} (h : Options fits inPlural seen s os r)
    (hs : s <:+ template) :
    r <:+ template ∧
      OptionsParts (LiteralIn template) (NameIn template '}') (NameIn template ',') os :=
  match h with
  | .none => ⟨hs, trivial⟩
  | .one hopening _ hm hos =>
    have ⟨hu, hm⟩ := hm.parts (hopening.suffix.trans hs)
    have ⟨hr, hos⟩ := hos.parts ((List.suffix_cons '}' _).trans hu)
    ⟨hr, hm, hos⟩
termination_by structural h

end

/-- So it does where a whole template is a message. -/
theorem parts_of_parse {m : Message} (h : Message.parse (String.ofList template) = .ok m) :
    MessageParts (LiteralIn template) (NameIn template '}') (NameIn template ',') m := by
  have hparts := ((elements_of_parse h).parts List.suffix_rfl).2
  rwa [String.toList_ofList] at hparts

end Grammar

end Phrasebook
