import Phrasebook.Proofs.PhraseGroups
import Phrasebook.Proofs.SparedTexts

/-!
Plurals in short are written out once and for all.

The forms of a plural in short are cut at its bars, so they have none, and neither do the groups of
the plural that is written out: its form for zero, and its other forms behind the number sign.
Without a bar no group is a plural in short (`bar_mem_of_found?`), so none is left and none is made
(`occursIn_spellOut`). The text between the plurals is not touched (`exists_occurrences`).
-/

set_option autoImplicit false

namespace Phrasebook.Template

open Text Reader

/-! ### Plurals that are written out -/

namespace PluralForms

/-- The parts of an option. -/
def optionItems (selector branch : String) : List Item :=
  (" " ++ selector ++ " ").toList.map .char ++ [.group branch.toList]

/-- The parts of the plural argument that the forms stand for. -/
def items (f : PluralForms) : List Item :=
  .char '{' :: ((f.name ++ ", plural,").toList.map .char ++
    ((f.zero.map (optionItems "=0")).getD [] ++ (optionItems "one" ("# " ++ f.one) ++
      (optionItems "other" ("# " ++ f.other) ++ [.char '}']))))

theorem textOf_optionItems (selector branch : String) :
    textOf (optionItems selector branch) = (option selector branch).toList := by
  rw [optionItems, textOf_chars, textOf_group, option]
  simp

theorem textOf_items (f : PluralForms) : textOf f.items = f.argument.toList := by
  rw [items, argument, textOf_char, textOf_chars]
  cases f.zero <;> simp [textOf_optionItems]

/-- The groups of the argument are the form for zero and the other forms behind a number sign. -/
theorem leaves_items {α : Type} {shape : Shape α} {f : PluralForms}
    (hzero : ∀ w ∈ f.zero, shape.found? w.toList = none)
    (hone : shape.found? ("# " ++ f.one).toList = none)
    (hother : shape.found? ("# " ++ f.other).toList = none) : shape.Leaves f.items := by
  have hoption {selector branch : String} (h : shape.found? branch.toList = none) :
      shape.Leaves (optionItems selector branch) :=
    Shape.leaves_append.2 ⟨Shape.leaves_chars _, Shape.leaves_cons_group.2 ⟨h, Shape.leaves_nil⟩⟩
  have hoptions : shape.Leaves ((f.zero.map (optionItems "=0")).getD []) := by
    cases hz : f.zero with
    | none => exact Shape.leaves_nil
    | some w => exact hoption (hzero w hz)
  exact Shape.leaves_cons_char.2 <| Shape.leaves_append.2 ⟨Shape.leaves_chars _,
    Shape.leaves_append.2 ⟨hoptions, Shape.leaves_append.2 ⟨hoption hone,
      Shape.leaves_append.2 ⟨hoption hother, Shape.leaves_chars ['}']⟩⟩⟩⟩

theorem braceFree_spaced {selector : String} (h : BraceFree selector.toList) :
    BraceFree (" " ++ selector ++ " ").toList := by
  rw [String.toList_append, String.toList_append]
  exact (BraceFree.append (by decide) h).append (by decide)

theorem opens_optionItems {selector branch : String} (hselector : BraceFree selector.toList)
    (more : List Item) : Opens (optionItems selector branch ++ more) := by
  rw [optionItems, List.append_assoc]
  exact opens_chars (braceFree_spaced hselector) trivial

theorem settled_optionItems {selector branch : String} {more : List Item}
    (hselector : BraceFree selector.toList) (hbranch : BraceFree branch.toList)
    (h : Settled more) : Settled (optionItems selector branch ++ more) := by
  rw [optionItems, List.append_assoc]
  exact settled_chars (braceFree_spaced hselector) (.group hbranch h)

/-- The groups of the argument are all there are, since the name and the forms have no braces. -/
theorem settled_items {f : PluralForms} {more : List Item} (hname : BraceFree f.name.toList)
    (hforms : ∀ w ∈ f.forms, BraceFree w.toList) (h : Settled more) :
    Settled (f.items ++ more) := by
  have hcounted {form : String} (hform : BraceFree form.toList) :
      BraceFree ("# " ++ form).toList := by
    rw [String.toList_append]
    exact BraceFree.append (by decide) hform
  have hhead : BraceFree (f.name ++ ", plural,").toList := by
    rw [String.toList_append]
    exact hname.append (by decide)
  have hlater : Settled (optionItems "one" ("# " ++ f.one) ++
      (optionItems "other" ("# " ++ f.other) ++ .char '}' :: more)) :=
    settled_optionItems (by decide) (hcounted (hforms _ f.one_mem_forms)) <|
      settled_optionItems (by decide) (hcounted (hforms _ f.other_mem_forms)) <|
        settled_char (by decide) h
  have hopens (more : List Item) : Opens ((f.zero.map (optionItems "=0")).getD [] ++
      (optionItems "one" ("# " ++ f.one) ++ more)) := by
    cases f.zero <;> exact opens_optionItems (by decide) _
  have hoptions : Settled ((f.zero.map (optionItems "=0")).getD [] ++
      (optionItems "one" ("# " ++ f.one) ++
        (optionItems "other" ("# " ++ f.other) ++ .char '}' :: more))) := by
    cases hz : f.zero with
    | none => exact hlater
    | some w => exact settled_optionItems (by decide) (hforms w (f.mem_forms_of_zero hz)) hlater
  have hsplit : f.items ++ more = .char '{' :: ((f.name ++ ", plural,").toList.map .char ++
      ((f.zero.map (optionItems "=0")).getD [] ++ (optionItems "one" ("# " ++ f.one) ++
        (optionItems "other" ("# " ++ f.other) ++ .char '}' :: more)))) := by
    simp [items]
  rw [hsplit]
  exact .char (fun _ ↦ opens_chars hhead (hopens _)) (settled_chars hhead hoptions)

end PluralForms

/-! ### What is read as a plural in short -/

section Found

variable {s t v : List Char} {f : PluralForms}

theorem refuses_shorthand : Finds (· ≠ '|') (fun _ ↦ False) shorthand.read :=
  finds_bind (finds_any _) cuts_variableName fun _ _ ↦
    finds_bind (finds_any _) (cuts_keyword _) fun _ _ ↦
    finds_bind (finds_any _) cuts_blanks fun _ _ ↦
    finds_bind (finds_any _) (cuts_exactly _) fun _ _ ↦
    finds_bind (finds_any _) (cuts_bind (cuts_span _) fun _ ↦ cuts_pure _) fun _ _ ↦
    finds_bind (refuses_exactly '|') (cuts_exactly _) fun _ h ↦ h.elim

/-- A plural in short has a bar. -/
theorem bar_mem_of_found? (h : shorthand.found? v = some f) : '|' ∈ v := by
  by_contra hbar
  obtain ⟨⟨f, t⟩, hr, rfl⟩ := Option.map_eq_some_iff.1 h
  refine refuses_shorthand _ f t (fun c hc ↦ ?_) hr
  rintro rfl
  rcases List.mem_append.1 hc with hc | hc
  · exact hbar hc
  · exact absurd hc (by decide)

theorem found?_shorthand_of_notMem (h : '|' ∉ v) : shorthand.found? v = none :=
  Option.eq_none_iff_forall_ne_some.2 fun _ hf ↦ h (bar_mem_of_found? hf)

/-- No part of a plural that is written out is a plural in short. -/
theorem leaves_shorthand_items (h : shorthand.read s = some (f, t)) : shorthand.Leaves f.items := by
  have hbar {w : String} (hw : w ∈ f.forms) : '|' ∉ w.toList := fun hmem ↦
    absurd (isFormChar_of_shorthand h w hw _ hmem) (by decide)
  have hcounted {w : String} (hw : w ∈ f.forms) : '|' ∉ ("# " ++ w).toList := by
    simpa using hbar hw
  exact PluralForms.leaves_items
    (fun w hw ↦ found?_shorthand_of_notMem (hbar (f.mem_forms_of_zero hw)))
    (found?_shorthand_of_notMem (hcounted f.one_mem_forms))
    (found?_shorthand_of_notMem (hcounted f.other_mem_forms))

end Found

/-! ### The template without plurals in short -/

/-- A part of a template with a plural in short written out. -/
def spelledItems : Item → List Item
  | .char c => [.char c]
  | .group v =>
    match shorthand.found? v with
    | some f => f.items
    | none => [.group v]

section SpelledItems

variable {items : List Item}

theorem textOf_flatMap_spelledItems (items : List Item) : textOf (items.flatMap spelledItems) =
    items.flatMap (shorthand.replaceItem fun f ↦ f.argument.toList) := by
  rw [textOf, List.flatMap_assoc]
  refine List.flatMap_congr fun i _ ↦ ?_
  cases i with
  | char c => rfl
  | group v =>
    rw [spelledItems, Shape.replaceItem]
    cases shorthand.found? v with
    | none => exact List.flatMap_singleton _ _
    | some f => exact PluralForms.textOf_items f

theorem opens_spelledItems (h : Opens items) : Opens (items.flatMap spelledItems) := by
  induction items with
  | nil => trivial
  | cons i items ih =>
    cases i with
    | char c => exact h.imp_right fun ⟨hc, h⟩ ↦ ⟨hc, ih h⟩
    | group v =>
      rw [List.flatMap_cons, spelledItems]
      cases shorthand.found? v with
      | none => trivial
      | some f => exact .inl rfl

theorem settled_spelledItems (h : Settled items) : Settled (items.flatMap spelledItems) := by
  induction h with
  | nil => exact .nil
  | char hopens _ ih => exact .char (fun hc ↦ opens_spelledItems (hopens hc)) ih
  | @group v items hv _ ih =>
    rw [List.flatMap_cons, spelledItems]
    cases hf : shorthand.found? v with
    | none => exact .group hv ih
    | some f =>
      obtain ⟨⟨f, t⟩, hr, rfl⟩ := Option.map_eq_some_iff.1 hf
      exact PluralForms.settled_items (braceFree_of_isWord (exists_of_shorthand hr).1.2)
        (fun w hw ↦ braceFree_of_isFormChar (isFormChar_of_shorthand hr w hw)) ih

theorem leaves_spelledItems (items : List Item) :
    shorthand.Leaves (items.flatMap spelledItems) := by
  intro u hu
  obtain ⟨i, -, hu⟩ := List.mem_flatMap.1 hu
  cases i with
  | char c => cases List.mem_singleton.1 hu
  | group v =>
    rw [spelledItems] at hu
    cases hf : shorthand.found? v with
    | none =>
      rw [hf] at hu
      cases List.mem_singleton.1 hu
      exact hf
    | some f =>
      rw [hf] at hu
      obtain ⟨⟨f, t⟩, hr, rfl⟩ := Option.map_eq_some_iff.1 hf
      exact leaves_shorthand_items hr u hu

/-- No plural in short is left, and none is made. -/
theorem occursIn_spellOut (s : List Char) : shorthand.occursIn (spellOut s) = false := by
  obtain ⟨items, hs, rfl⟩ := exists_settled s
  rw [spellOut, replace_textOf closes_shorthand hs, ← textOf_flatMap_spelledItems,
    Shape.occursIn_textOf closes_shorthand (settled_spelledItems hs)]
  exact leaves_spelledItems items

end SpelledItems

/-! ### The text in between -/

/-- A plural in short in a template: the text before it, back to the plural before that, the text
between its braces, and the forms. -/
structure Occurrence where
  before : List Char
  inside : List Char
  forms : PluralForms

/-- The plural in short with the text before it. -/
def Occurrence.text (o : Occurrence) : List Char :=
  o.before ++ '{' :: (o.inside ++ ['}'])

/-- The same text with the plural written out. -/
def Occurrence.writtenOut (o : Occurrence) : List Char :=
  o.before ++ o.forms.argument.toList

/-- The text between the braces is a plural in short with these forms, and there is none in the
text before it. -/
structure Occurrence.Proper (o : Occurrence) : Prop where
  braceFree : BraceFree o.inside
  found : shorthand.found? o.inside = some o.forms
  before : shorthand.occursIn o.before = false

/-- A template is cut at its plurals in short, and only these are written anew. -/
theorem exists_occurrences (gap : List Item) {items : List Item} (hs : Settled (gap ++ items))
    (hgap : shorthand.Leaves gap) : ∃ (os : List Occurrence) (rest : List Char),
      textOf (gap ++ items) = os.flatMap Occurrence.text ++ rest ∧
      (gap ++ items).flatMap (shorthand.replaceItem fun f ↦ f.argument.toList) =
        os.flatMap Occurrence.writtenOut ++ rest ∧
      (∀ o ∈ os, o.Proper) ∧ shorthand.occursIn rest = false := by
  induction items generalizing gap with
  | nil =>
    rw [List.append_nil] at hs ⊢
    exact ⟨[], textOf gap, rfl, hgap.flatMap_replaceItem _, by simp,
      (Shape.occursIn_textOf closes_shorthand hs).2 hgap⟩
  | cons i items ih =>
    -- a part that is no plural in short belongs to the text before the next one
    have hlater (hi : shorthand.Leaves [i]) := by
      rw [List.append_cons] at hs
      exact ih _ hs (Shape.leaves_append.2 ⟨hgap, hi⟩)
    rw [List.append_cons]
    cases i with
    | char c => exact hlater (Shape.leaves_chars [c])
    | group v =>
      cases hf : shorthand.found? v with
      | none => exact hlater (Shape.leaves_cons_group.2 ⟨hf, Shape.leaves_nil⟩)
      | some f =>
        obtain ⟨hbefore, hgroup⟩ := settled_of_append hs
        cases hgroup with
        | group hv hitems =>
          obtain ⟨os, rest, htext, hwritten, hos, hrest⟩ := ih [] hitems Shape.leaves_nil
          rw [List.nil_append] at htext hwritten
          refine ⟨⟨textOf gap, v, f⟩ :: os, rest, ?_, ?_, ?_, hrest⟩
          · rw [textOf_append, textOf_append, htext]
            simp [Occurrence.text]
          · rw [List.flatMap_append, List.flatMap_append, hwritten, hgap.flatMap_replaceItem]
            simp [Occurrence.writtenOut, Shape.replaceItem, hf]
          · exact List.forall_mem_cons.2
              ⟨⟨hv, hf, (Shape.occursIn_textOf closes_shorthand hbefore).2 hgap⟩, hos⟩

/-- Writing plurals in short out leaves none, so doing it twice is doing it once, and it changes
every template that has one. Each of them becomes the argument that it stands for, and the text
before, between and after them stays as it is. -/
theorem spellOut_projects (s : List Char) :
    shorthand.occursIn (spellOut s) = false ∧
    spellOut (spellOut s) = spellOut s ∧
    (spellOut s ≠ s ↔ shorthand.occursIn s = true) ∧
    ∃ (os : List Occurrence) (rest : List Char),
      s = os.flatMap Occurrence.text ++ rest ∧
      spellOut s = os.flatMap Occurrence.writtenOut ++ rest ∧
      (∀ o ∈ os, o.Proper) ∧ shorthand.occursIn rest = false := by
  refine ⟨occursIn_spellOut s, Shape.replace_eq_self (occursIn_spellOut s), ⟨fun hne ↦ ?_, ?_⟩, ?_⟩
  · by_contra hnone
    exact hne (Shape.replace_eq_self (Bool.of_not_eq_true hnone))
  · intro hoccurs he
    have hnone := occursIn_spellOut s
    rw [he, hoccurs] at hnone
    cases hnone
  · obtain ⟨items, hs, rfl⟩ := exists_settled s
    have hspelled : spellOut (textOf items) =
        items.flatMap (shorthand.replaceItem fun f ↦ f.argument.toList) :=
      replace_textOf closes_shorthand hs
    rw [hspelled]
    exact exists_occurrences [] hs Shape.leaves_nil

end Phrasebook.Template
