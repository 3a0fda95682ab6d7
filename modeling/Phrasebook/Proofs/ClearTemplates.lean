import Phrasebook.Formatter.Roster
import Phrasebook.Proofs.Marks
import Phrasebook.Template.Shorthand

/-!
Templates without underscores.

What is read off a template is made of its characters, so writing plurals in short out and putting
arguments aside bring no underscore but those of placeholders (`marked_prepare`).
-/

set_option autoImplicit false

namespace Phrasebook

open Grammar Template Text

/-! ### What is taken from a template -/

namespace Template

variable {α : Type} {p : Char → Prop}

/-- A character with the property `p`, or an argument with the property `P`. -/
def Piece.Satisfies (p : Char → Prop) (P : α → Prop) : Piece α → Prop
  | .char c => p c
  | .found a => P a

/-- The pieces of a text are made of its characters. -/
theorem Shape.satisfies_of_mem_pieces {shape : Shape α} {P : α → Prop} {s : List Char}
    (h : shape.read.Finds p P) (hs : ∀ c ∈ s, p c) :
    ∀ piece ∈ shape.pieces s, piece.Satisfies p P := by
  fun_induction pieces shape s with
  | case1 => simp
  | case2 s a t hr _ ih =>
    obtain ⟨-, hs⟩ := List.forall_mem_cons.1 hs
    exact List.forall_mem_cons.2
      ⟨h s a t hs hr, ih fun c hc ↦ hs c ((shape.cuts s a t hr).subset hc)⟩
  | case3 s _ ih =>
    obtain ⟨hc, hs⟩ := List.forall_mem_cons.1 hs
    exact List.forall_mem_cons.2 ⟨hc, ih hs⟩
  | case4 c s _ ih =>
    obtain ⟨hc, hs⟩ := List.forall_mem_cons.1 hs
    exact List.forall_mem_cons.2 ⟨hc, ih hs⟩

namespace Reader

theorem finds_form : Finds p (fun s ↦ ∀ c ∈ s.toList, p c) form :=
  finds_bind (finds_span _) (cuts_span _) fun w hw ↦ finds_pure fun c hc ↦ by
    rw [String.toList_ofList] at hc
    exact hw c (mem_of_mem_trim hc)

theorem finds_optionally {α : Type} {P : α → Prop} {r : Reader α} (h : Finds p P r) :
    Finds p (fun o ↦ ∀ a ∈ o, P a) (optionally r) := by
  intro s o t hs ho
  unfold optionally at ho
  split at ho
  · rename_i a u hr
    cases ho
    intro b hb
    rw [← Option.mem_some.1 hb]
    exact h s a _ hs hr
  · cases ho
    simp

theorem finds_plainVariable :
    Finds p (fun name ↦ ∀ c ∈ name.toList, p c) plainVariable.read :=
  finds_bind (finds_run _) (cuts_run _) fun w hw ↦ finds_bind (finds_any _) (cuts_exactly _)
    fun _ _ ↦ finds_pure (by rwa [String.toList_ofList])

/-- The forms of a plural in short are made of the characters of the text. -/
theorem finds_shorthand : Finds p (fun f ↦ (∀ c ∈ f.name.toList, p c) ∧
    (∀ w ∈ f.zero, ∀ c ∈ w.toList, p c) ∧ (∀ c ∈ f.one.toList, p c) ∧ ∀ c ∈ f.other.toList, p c)
    shorthand.read := by
  have hf : Cuts form := cuts_bind (cuts_span _) fun _ ↦ cuts_pure _
  refine finds_bind finds_variableName cuts_variableName fun name hname ↦
    finds_bind (finds_any _) (cuts_keyword _) fun _ _ ↦
    finds_bind (finds_any _) cuts_blanks fun _ _ ↦
    finds_bind (finds_any _) (cuts_exactly _) fun _ _ ↦
    finds_bind finds_form hf fun first hfirst ↦
    finds_bind (finds_any _) (cuts_exactly _) fun _ _ ↦
    finds_bind finds_form hf fun second hsecond ↦
    finds_bind (finds_optionally (finds_bind (finds_any _) (cuts_exactly _) fun _ _ ↦ finds_form))
      (cuts_optionally (cuts_bind (cuts_exactly _) fun _ ↦ hf)) fun third hthird ↦
    finds_bind (finds_any _) (cuts_exactly _) fun _ _ ↦ finds_pure ?_
  cases third with
  | none => exact ⟨hname, by simp, hfirst, hsecond⟩
  | some third => exact ⟨hname, by simpa using hfirst, hsecond, hthird third rfl⟩

end Reader

/-- The characters that a plural in short gets when it is written out. -/
def PluralForms.frame : List Char :=
  "\x7b\x7d, plural=0 one other#".toList

theorem PluralForms.mem_option {selector branch : String} {c : Char}
    (hselector : ∀ d ∈ selector.toList, d ∈ frame) (h : c ∈ (option selector branch).toList) :
    c ∈ branch.toList ∨ c ∈ frame := by
  simp only [option, String.toList_append, List.mem_append] at h
  rcases h with (((h | h) | h) | h) | h
  · exact .inr ((by decide : ∀ d ∈ " ".toList, d ∈ frame) c h)
  · exact .inr (hselector c h)
  · exact .inr ((by decide : ∀ d ∈ " \x7b".toList, d ∈ frame) c h)
  · exact .inl h
  · exact .inr ((by decide : ∀ d ∈ "\x7d".toList, d ∈ frame) c h)

/-- A plural that is written out is made of its forms and the frame around them. -/
theorem PluralForms.mem_argument {f : PluralForms} {c : Char} (h : c ∈ f.argument.toList) :
    c ∈ f.name.toList ∨ (∃ w ∈ f.zero, c ∈ w.toList) ∨ c ∈ f.one.toList ∨ c ∈ f.other.toList ∨
      c ∈ frame := by
  have counted {selector form : String} (hselector : ∀ d ∈ selector.toList, d ∈ frame)
      (h : c ∈ (option selector ("# " ++ form)).toList) : c ∈ form.toList ∨ c ∈ frame := by
    rcases mem_option hselector h with h | h
    · rw [String.toList_append, List.mem_append] at h
      exact h.symm.imp_right ((by decide : ∀ d ∈ "# ".toList, d ∈ frame) c)
    · exact .inr h
  simp only [argument, String.toList_append, List.mem_append] at h
  rcases h with (((((h | h) | h) | h) | h) | h) | h
  · exact .inr (.inr (.inr (.inr ((by decide : ∀ d ∈ "\x7b".toList, d ∈ frame) c h))))
  · exact .inl h
  · exact .inr (.inr (.inr (.inr ((by decide : ∀ d ∈ ", plural,".toList, d ∈ frame) c h))))
  · cases hz : f.zero with
    | none =>
      rw [hz] at h
      cases h
    | some w =>
      rw [hz] at h
      rcases mem_option (by decide) h with h | h
      · exact .inr (.inl ⟨w, rfl, h⟩)
      · exact .inr (.inr (.inr (.inr h)))
  · exact .inr (.inr ((counted (by decide) h).imp_right .inr))
  · exact .inr (.inr (.inr (counted (by decide) h)))
  · exact .inr (.inr (.inr (.inr ((by decide : ∀ d ∈ "\x7d".toList, d ∈ frame) c h))))

/-- Writing plurals in short out brings no characters but those of the frame. -/
theorem notMem_spellOut {s : List Char} {c : Char} (hc : c ∉ PluralForms.frame) (h : c ∉ s) :
    c ∉ spellOut s := by
  have hs : ∀ d ∈ s, d ≠ c := fun d hd he ↦ h (he ▸ hd)
  intro hmem
  obtain ⟨piece, hpiece, hmem⟩ := List.mem_flatMap.1 hmem
  have hpiece := Shape.satisfies_of_mem_pieces Reader.finds_shorthand hs piece hpiece
  cases piece with
  | char d => exact hpiece (List.mem_singleton.1 hmem).symm
  | found f =>
    obtain ⟨hname, hzero, hone, hother⟩ := hpiece
    rcases PluralForms.mem_argument hmem with h | ⟨w, hw, h⟩ | h | h | h
    · exact hname c h rfl
    · exact hzero w hw c h rfl
    · exact hone c h rfl
    · exact hother c h rfl
    · exact hc h

end Template

/-- The name of a formatter has no brace. -/
theorem Roster.braceFree_names (roster : Roster) :
    ∀ name ∈ roster.names, BraceFree name.toList := by
  intro name hname c hc
  obtain ⟨-, hvalid⟩ := roster.named name hname
  rw [isName, Bool.and_eq_true, Bool.or_eq_true, List.isEmpty_iff, beq_iff_eq] at hvalid
  rw [← List.takeWhile_append_dropWhile (p := isWord) (l := name.toList), List.mem_append] at hc
  rcases hc with hc | hc
  · have hword : isWord c = true := List.mem_takeWhile_imp hc
    exact ⟨ne_of_isWord hword, ne_of_isWord hword⟩
  · rcases hvalid.2 with hrest | hrest
    · rw [hrest] at hc
      cases hc
    · rw [hrest, List.mem_singleton] at hc
      rw [hc]
      decide

/-! ### Prepared templates -/

namespace Template

variable {names : List String} {s : List Char}

theorem marked_of_labelled {ps : List Pass} {asides : Asides} {items items' : List Item}
    (h : List.Forall₂ (Labelled ps asides) items items') (hs : '_' ∉ textOf items) :
    Marked (asides.map Prod.fst) (textOf items') := by
  induction h with
  | nil => exact .nil
  | @cons i j items items' hi _ ih =>
    cases hi with
    | char c =>
      rw [textOf_char, List.mem_cons, not_or] at hs
      exact .char (Ne.symm hs.1) (ih hs.2)
    | kept _ =>
      rw [← List.singleton_append, textOf_append] at hs ⊢
      rw [List.mem_append, not_or] at hs
      exact (marked_of_notMem hs.1).append (ih hs.2)
    | aside _ hmem =>
      rw [textOf_group] at hs ⊢
      simp only [List.mem_cons, List.mem_append, not_or] at hs
      exact .token (List.mem_map_of_mem hmem) (ih hs.2.2.2)

/-- In a prepared template without underscores of its own an underscore stands in placeholders only,
and the variables of the arguments put aside have names without one. -/
theorem marked_prepare (hnames : ∀ name ∈ names, BraceFree name.toList) (hs : '_' ∉ s) :
    Marked ((prepare names s).asides.map Prod.fst) (prepare names s).text ∧
      (∀ t ∈ (prepare names s).asides.map Prod.fst, IsToken t) ∧
      ∀ x ∈ (prepare names s).asides, '_' ∉ x.2.name.toList := by
  obtain ⟨items, hsettled, rfl⟩ := exists_settled s
  have h := follows_prepare hnames hsettled
  refine ⟨?_, ?_, ?_⟩
  · obtain ⟨items', htext, hlabelled⟩ := h.labelled
    rw [← htext]
    exact marked_of_labelled hlabelled hs
  · intro t ht
    obtain ⟨x, hx, rfl⟩ := List.mem_map.1 ht
    obtain ⟨p, -, n, hn⟩ := h.named x hx
    exact ⟨p.1, n, hn⟩
  · intro x hx hmem
    obtain ⟨v, hv, hfound⟩ := h.found x hx
    obtain ⟨p, hp, hfound⟩ := List.exists_of_findSome?_eq_some hfound
    have hin := (named_passes names p hp).mem_of_found? hfound _ hmem
    exact hs (List.mem_flatMap_of_mem hv (List.mem_cons_of_mem _ hin))

end Template

end Phrasebook
