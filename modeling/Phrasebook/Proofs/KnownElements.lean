import Phrasebook.Proofs.FullCalls

/-!
Elements that can be rendered.

A message that is read off a template has elements of known kinds only (`Grammar.Elements.known`),
and so are the kinds of the arguments that are put aside (`Template.known_prepare`).
-/

set_option autoImplicit false

namespace Phrasebook

open Message Template

/-! ### Messages of known elements -/

namespace Grammar

mutual

/-- The element and the elements of its options are of kinds that can be rendered. -/
def ElementKnown : Element → Prop
  | .plural _ _ _ os | .select _ os => OptionsKnown os
  | .foreign _ => False
  | _ => True

def MessageKnown : Message → Prop
  | [] => True
  | e :: es => ElementKnown e ∧ MessageKnown es

def OptionsKnown : List (String × Message) → Prop
  | [] => True
  | (_, m) :: os => MessageKnown m ∧ OptionsKnown os

end

theorem MessageKnown.addText {m : Message} (h : MessageKnown m) (w : List Char) :
    MessageKnown (addText w m) := by
  unfold Message.addText
  split
  · exact ⟨trivial, h.2⟩
  · split
    · exact h
    · exact ⟨trivial, h⟩

theorem StyleEnd.known {name : String} {type : FormattedType} {s t : List Char} {e : Element}
    (h : StyleEnd name type s e t) : ElementKnown e :=
  h.forall_shown (fun _ _ ↦ trivial) (fun _ _ ↦ trivial) fun _ _ ↦ trivial

section Known

variable {fits : Nat → Prop}

mutual

/-- A message that is derived can be rendered. -/
theorem Elements.known {inPlural : Bool} {s r : List Char} {m : Message}
    (h : Elements fits inPlural s m r) : MessageKnown m :=
  match h with
  | .stop _ => trivial
  | .text _ hm => hm.known.addText _
  | .pound hm => ⟨trivial, hm.known⟩
  | .argument he hm => ⟨he.known, hm.known⟩
termination_by structural h

theorem Argument.known {s r : List Char} {e : Element} (h : Argument fits s e r) :
    ElementKnown e :=
  match h with
  | .plain _ _ => trivial
  | .typed _ he => he.known
termination_by structural h

theorem ArgumentEnd.known {name : String} {type : ArgumentType} {s r : List Char} {e : Element}
    (h : ArgumentEnd fits name type s e r) : ElementKnown e :=
  match h with
  | .formatted he => he.known
  | .plural _ _ hos _ _ => hos.known
  | .select _ hos _ _ => hos.known
termination_by structural h

theorem Options.known {inPlural : Bool} {seen : List String} {s r : List Char}
    {os : List (String × Message)} (h : Options fits inPlural seen s os r) : OptionsKnown os :=
  match h with
  | .none => trivial
  | .one _ _ hm hos => ⟨hm.known, hos.known⟩
termination_by structural h

end

end Known

end Grammar

/-! ### Arguments that are put aside -/

/-- The kind of the argument is known. -/
def ExtensionArgument.Known (a : ExtensionArgument) : Prop :=
  ∀ kind, a.extension ≠ .unknown kind

namespace Template

theorem Faithful.known {names : List String} {kind : PlaceholderKind} {a : ExtensionArgument}
    (h : Faithful names kind a) : a.Known := by
  intro unknown he
  have hkind := h.kind
  rw [he] at hkind
  cases hkind

/-- The arguments that are put aside are of known kinds. -/
theorem known_prepare {names : List String}
    (hnames : ∀ name ∈ names, Text.BraceFree name.toList) (s : List Char) :
    ∀ x ∈ (prepare names s).asides, x.2.Known := by
  intro x hx
  obtain ⟨items, hsettled, rfl⟩ := exists_settled s
  obtain ⟨v, -, hfound⟩ := (follows_prepare hnames hsettled).found x hx
  obtain ⟨kind, hx⟩ := exists_of_firstFound hfound
  exact hx.known

end Template

end Phrasebook
