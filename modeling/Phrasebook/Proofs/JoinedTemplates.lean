import Phrasebook.Proofs.MessageParts
import Phrasebook.Proofs.Progress
import Phrasebook.Proofs.Quoting
import Phrasebook.Proofs.ReadMessages

/-!
One template behind another.

A derivation goes the same way whatever text follows it, as long as it ends at a character that is
there to be read (`Grammar.Argument.followed`). The ends of a template that is a message are the
ends of its arguments and its single characters, if it has no apostrophe, since only a literal run
looks for the end of the template. So such a template is read in the same way in front of any other
one: its message comes first, and the other template is accepted or refused as it would be alone
(`Message.parse_append`).
-/

set_option autoImplicit false

namespace Phrasebook

open Text Message

namespace Grammar

/-! ### Lexical parts -/

section Followed

variable {fits : Nat → Prop} {s t : List Char} {name : String}

theorem Blanks.followed (h : Blanks s t) (b : List Char) : Blanks (s ++ b) (t ++ b) := by
  obtain ⟨w, hw, rfl⟩ := h
  exact ⟨w, hw, List.append_assoc w t b⟩

theorem Sign.followed {c : Char} (h : Sign c s t) (b : List Char) : Sign c (s ++ b) (t ++ b) :=
  Blanks.followed h b

theorem Blanks.followed_append {w : List Char} (h : Blanks s (w ++ t)) (b : List Char) :
    Blanks (s ++ b) (w ++ (t ++ b)) :=
  List.append_assoc w t b ▸ h.followed b

theorem Name.followed (h : Name s name t) (b : List Char) : Name (s ++ b) name (t ++ b) := by
  obtain ⟨w, hne, hw, hname, hs⟩ := h
  exact ⟨w, hne, hw, hname, hs.followed_append b⟩

theorem Typed.followed {word : String} (h : Typed s name word t) (b : List Char) :
    Typed (s ++ b) name word (t ++ b) := by
  obtain ⟨u, v, hname, hcomma, hword⟩ := h
  exact ⟨u ++ b, v ++ b, hname.followed b, hcomma.followed b, hword.followed_append b⟩

theorem StyleEnd.followed {type : FormattedType} {e : Element} (h : StyleEnd name type s e t)
    (b : List Char) : StyleEnd name type (s ++ b) e (t ++ b) := by
  cases h with
  | unstyled hsign => exact .unstyled (hsign.followed b)
  | styled hstyle he =>
    obtain ⟨v, hsign, hv⟩ := hstyle
    refine .styled ⟨v, ?_, hv⟩ he
    have hsign := hsign.followed b
    rwa [List.append_assoc, List.cons_append] at hsign

theorem Opening.followed {selector : String} (h : Opening s selector t) (b : List Char) :
    Opening (s ++ b) selector (t ++ b) := by
  obtain ⟨w, u, hw, hselector, hs, hsign⟩ := h
  exact ⟨w, u ++ b, hw, hselector, hs.followed_append b, hsign.followed b⟩

/-- A word without opening braces that is found after blanks was there before more text followed, if
the text has an opening brace. -/
theorem Blanks.exists_of_followed {b w u : List Char} (h : Blanks (s ++ b) (w ++ u))
    (hs : '{' ∈ s) (hw : '{' ∉ w) : ∃ v, Blanks s (w ++ v) := by
  obtain ⟨x, y, rfl⟩ := List.append_of_mem hs
  obtain ⟨l, hl, he⟩ := h
  have hclear : '{' ∉ l ++ w := by
    rw [List.mem_append, not_or]
    exact ⟨fun hmem ↦ absurd (hl _ hmem) (by decide), hw⟩
  rw [List.append_assoc, ← List.append_assoc l] at he
  rcases List.append_eq_append_iff.1 he with ⟨z, hz, hz'⟩ | ⟨z, rfl, -⟩
  · cases z with
    | nil =>
      rw [List.append_nil] at hz
      exact ⟨'{' :: y, l, hl, by rw [← hz, List.append_assoc]⟩
    | cons c z =>
      obtain ⟨rfl, -⟩ := List.cons.inj hz'
      exact absurd (hz ▸ List.mem_append_right x List.mem_cons_self) hclear
  · exact ⟨z ++ '{' :: y, l, hl, by simp only [List.append_assoc]⟩

theorem Offset.followed {offset : Int} (h : Offset fits s offset t) (hbrace : '{' ∈ t)
    (b : List Char) : Offset fits (s ++ b) offset (t ++ b) := by
  cases h with
  | absent hno =>
    refine .absent fun u hu ↦ ?_
    obtain ⟨v, hv⟩ := hu.exists_of_followed hbrace (by decide)
    exact hno v hv
  | given hdigits hlen =>
    obtain ⟨p, hp, hs, hds, ht⟩ := hdigits
    refine .given ⟨p, hp, ?_, hds, ?_⟩ hlen
    · have hs := hs.followed b
      simpa only [List.append_assoc, List.cons_append] using hs
    · rwa [List.head?_append_of_ne_nil _ (List.ne_nil_of_mem hbrace)]

/-- Without apostrophes a piece of text is one character. -/
theorem Piece.followed {inPlural : Bool} {w : List Char} (h : Piece inPlural s w t)
    (hquote : '\'' ∉ s) (b : List Char) : Piece inPlural (s ++ b) w (t ++ b) := by
  cases h with
  | char hc hquotable => exact .char hc hquotable
  | doubled | quoted | lone => exact absurd List.mem_cons_self hquote

theorem Options.mem_brace {inPlural : Bool} {seen : List String} {os : List (String × Message)}
    (h : Options fits inPlural seen s os t) (hos : os ≠ []) : '{' ∈ s := by
  cases h with
  | none => exact absurd rfl hos
  | one hopening =>
    obtain ⟨w, u, -, -, hblanks, hsign⟩ := hopening
    have hu : '{' ∈ u := (Blanks.suffix hsign).mem List.mem_cons_self
    exact hblanks.suffix.mem (List.mem_append_right w hu)

end Followed

/-! ### Messages -/

section Derivations

variable {fits : Nat → Prop}

mutual

/-- What is read up to a closing brace does not depend on what follows. -/
theorem Elements.followed {inPlural : Bool} {s r : List Char} {m : Message}
    (h : Elements fits inPlural s m r) (hr : r ≠ []) (hquote : '\'' ∉ s) (b : List Char) :
    Elements fits inPlural (s ++ b) m (r ++ b) :=
  match h with
  | .stop hs => .stop (by rwa [List.head?_append_of_ne_nil _ hr])
  | .text hp hm =>
    .text (hp.followed hquote b) (hm.followed hr (fun hmem ↦ hquote (hp.suffix.mem hmem)) b)
  | .pound hm => .pound (hm.followed hr (List.not_mem_of_not_mem_cons hquote) b)
  | .argument he hm => by
    have hsuffix := (he.parts List.suffix_rfl (he.not_beginsZeroForm hm)).1
    refine .argument (he.followed (List.not_mem_of_not_mem_cons hquote) b) ?_
    exact hm.followed hr (fun hmem ↦ hquote (hsuffix.mem hmem)) b
termination_by structural h

theorem Argument.followed {s t : List Char} {e : Element} (h : Argument fits s e t)
    (hquote : '\'' ∉ s) (b : List Char) : Argument fits (s ++ b) e (t ++ b) :=
  match h with
  | .plain hname hsign => .plain (hname.followed b) (hsign.followed b)
  | .typed ht he => .typed (ht.followed b) (he.followed (fun hmem ↦ hquote (ht.suffix.mem hmem)) b)
termination_by structural h

theorem ArgumentEnd.followed {name : String} {type : ArgumentType} {s t : List Char} {e : Element}
    (h : ArgumentEnd fits name type s e t) (hquote : '\'' ∉ s) (b : List Char) :
    ArgumentEnd fits name type (s ++ b) e (t ++ b) :=
  match h with
  | .formatted he => .formatted (he.followed b)
  | .plural hcomma hoffset hos hne hclose =>
    have hsuffix := hoffset.suffix.trans hcomma.suffix
    .plural (hcomma.followed b) (hoffset.followed (hos.mem_brace hne) b)
      (hos.followed (fun hmem ↦ hquote (hsuffix.mem hmem)) b) hne (hclose.followed b)
  | .select hcomma hos hne hclose =>
    .select (hcomma.followed b) (hos.followed (fun hmem ↦ hquote (hcomma.suffix.mem hmem)) b) hne
      (hclose.followed b)
termination_by structural h

theorem Options.followed {inPlural : Bool} {seen : List String} {s t : List Char}
    {os : List (String × Message)} (h : Options fits inPlural seen s os t) (hquote : '\'' ∉ s)
    (b : List Char) : Options fits inPlural seen (s ++ b) os (t ++ b) :=
  match h with
  | .none => .none
  | .one hopening hsel hm hos => by
    have hm' : '\'' ∉ _ := fun hmem ↦ hquote (hopening.suffix.mem hmem)
    have hrest := (hm.parts List.suffix_rfl).1
    refine .one (hopening.followed b) hsel (hm.followed (List.cons_ne_nil _ _) hm' b) ?_
    exact hos.followed (fun hmem ↦ hm' (hrest.mem (List.mem_cons_of_mem _ hmem))) b
termination_by structural h

end

end Derivations

end Grammar

namespace Message

/-- The first message and then the second one. A text at the end of the first and one at the start
of the second become one text. -/
def joined : Message → Message → Message
  | [], n => n
  | [.literal s], .literal t :: n => .literal (s ++ t) :: n
  | e :: m, n => e :: joined m n

theorem joined_cons {e : Element} (he : ∀ s, e ≠ .literal s) (m n : Message) :
    joined (e :: m) n = e :: joined m n := by
  rw [joined]
  rintro s t n' rfl rfl
  exact absurd rfl (he s)

/-- Text in front of the first message is text in front of both. -/
theorem joined_addText (w : List Char) (m n : Message) :
    joined (addText w m) n = addText w (joined m n) := by
  rcases m with _ | ⟨⟨s⟩ | _, m⟩
  · rcases n with _ | ⟨⟨t⟩ | _, n⟩
    case cons.literal =>
      cases w with
      | nil => exact congrArg (Element.literal · :: n) String.empty_append.symm
      | cons c w => rfl
    all_goals cases w <;> rfl
  · rcases m with _ | ⟨e, m⟩
    · rcases n with _ | ⟨⟨t⟩ | _, n⟩
      case cons.literal => exact congrArg (Element.literal · :: n) String.append_assoc
      all_goals rfl
    · rfl
  all_goals cases w <;> rfl

end Message

namespace Grammar

/-- A message that is read up to the end of a template without apostrophes is read first when
another text follows. -/
theorem Elements.view_followed {inPlural : Bool} {s r : List Char} {m : Message}
    (h : Elements Readable inPlural s m r) (hr : r = []) (hquote : '\'' ∉ s) (b : List Char) :
    view (parseMessage inPlural false (s ++ b)) =
      (view (parseMessage inPlural false b)).map fun x ↦ (joined m x.1, x.2) :=
  match h with
  | .stop _ => by
    rw [hr, List.nil_append]
    cases view (parseMessage inPlural false b) <;> rfl
  | .text hp hm => by
    have ih := hm.view_followed hr (fun hmem ↦ hquote (hp.suffix.mem hmem)) b
    rw [view_parseMessage_text (hp.followed hquote b), ih]
    cases view (parseMessage inPlural false b) with
    | ok x => simp only [Except.map, joined_addText]
    | error f => rfl
  | .pound hm => by
    have ih := hm.view_followed hr (List.not_mem_of_not_mem_cons hquote) b
    rw [List.cons_append, view_parseMessage_pound, ih]
    cases view (parseMessage true false b) with
    | ok x => rfl
    | error f => rfl
  | .argument he hm => by
    -- an argument ends at its own brace, so what follows it stays what it is
    have hsuffix := (he.parts List.suffix_rfl (he.not_beginsZeroForm hm)).1
    have ih := hm.view_followed hr (fun hmem ↦ hquote (hsuffix.mem hmem)) b
    have he' := he.followed (List.not_mem_of_not_mem_cons hquote) b
    rw [List.cons_append, view_parseMessage_argument, he'.view_eq]
    dsimp only [Except.bind]
    rw [ih]
    cases view (parseMessage inPlural false b) with
    | ok x => simp only [Except.map, joined_cons he.ne_literal]
    | error f => rfl
termination_by structural h

end Grammar

namespace Message

open Grammar

/-- A template that is a message and has no apostrophe stands in front of another one, `b`. The
whole is a message just if `b` is one, and then its elements are those of the first template and
those of `b`. It is refused for the reason for which `b` is refused, and at the place where `b` is,
counted from the start of the whole. -/
theorem parse_append {a b : String} {m : Message} (ha : parse a = .ok m)
    (hquote : '\'' ∉ a.toList) :
    parse (a ++ b) = match parse b with
      | .ok n => .ok (joined m n)
      | .error (.notMessage e) =>
        .error (.notMessage ⟨e.reason, a.length + e.position, a ++ b⟩)
      | .error (.longOffset l) => .error (.longOffset l) := by
  have hview := (elements_of_parse ha).view_followed rfl hquote b.toList
  rw [← String.toList_append] at hview
  cases hb : parseMessage false false b.toList with
  | ok x =>
    rw [hb] at hview
    rw [parse_of_ok hb, parse_of_view_ok hview]
  | error f =>
    rw [hb] at hview
    rw [parse_of_error hb, parse_of_view_error hview]
    have hplace : f.remaining ≤ b.length := remaining_le_of_parseMessage hb
    obtain ⟨cause, remaining, passedOver⟩ := f
    cases cause with
    | notMessage reason =>
      have hposition : (a ++ b).length - remaining = a.length + (b.length - remaining) := by
        rw [String.length_append, Nat.add_sub_assoc hplace]
      simp only [Failure.inTemplate, hposition]
    | longOffset l => rfl

/-- A closing brace behind a template with one branch for every value. -/
theorem parse_oneBranch_append : '\'' ∉ Renderer.oneBranch.toList ∧
    Message.parse (Renderer.oneBranch ++ "b\x7d") =
      .error (.notMessage ⟨.unmatchedBrace, 23, Renderer.oneBranch ++ "b\x7d"⟩) := by
  have hquote : '\'' ∉ Renderer.oneBranch.toList := by decide
  obtain ⟨m, hm, -⟩ := Renderer.exists_parse_oneBranch
  have hfails : (Message.parse "b\x7d").map (fun _ ↦ ()) =
      .error (.notMessage ⟨.unmatchedBrace, 1, "b\x7d"⟩) := by
    decide +kernel
  refine ⟨hquote, ?_⟩
  rw [parse_append hm hquote]
  cases hb : Message.parse "b\x7d" with
  | ok n =>
    rw [hb] at hfails
    cases hfails
  | error f =>
    rw [hb] at hfails
    obtain rfl := Except.error.inj hfails
    rfl

end Message

end Phrasebook
