import Phrasebook.Proofs.Lowering
import Phrasebook.Proofs.TypedArguments

/-!
Templates that are filled in directly.

A template is read as a message only if an argument with a type, a call or a plural in short is
found in it. Every phrase other than a text or a plain argument is found
(`isDirect_of_needsMessage`), so what is filled in directly consists of texts and plain arguments,
and is filled as its tree is (`same_simple`).
-/

set_option autoImplicit false

namespace Phrasebook

open Arithmetic Grammar Message Template Text

namespace Template

/-! ### What is found in a template -/

/-- Where no argument of the shape occurs, none begins at any brace. -/
theorem Shape.refused_of_occursIn {α : Type} {shape : Shape α} {s u t : List Char}
    (h : shape.occursIn s = false) (hs : s = u ++ '{' :: t) : shape.read t = none := by
  rw [occursIn] at h
  fun_induction pieces shape s generalizing u with
  | case1 => simp at hs
  | case2 s a t' hr _ ih => simp at h
  | case3 s hr ih =>
    cases u with
    | nil =>
      obtain rfl := (List.cons.inj hs).2
      exact hr
    | cons c u => exact ih (by simpa using h) (List.cons.inj hs).2
  | case4 c s hc ih =>
    cases u with
    | nil => exact absurd (List.cons.inj hs).1 hc
    | cons d u => exact ih (by simpa using h) (List.cons.inj hs).2

open Reader Phrase

/-- An argument with a type is found by its start. -/
theorem read_typedArgument {name word : String} {c : Char} (hname : IsWordName name)
    (hword : word ∈ typeWords) (hc : c = ',' ∨ c = '}') (s : List Char) :
    ∃ x, typedArgument.read (name.toList ++ ',' :: ' ' :: (word.toList ++ c :: s)) = some x := by
  have hspace : White (' ' :: (word.toList ++ c :: s)) (word.toList ++ c :: s) :=
    ⟨[' '], by decide, rfl⟩
  exact exists_read_of_beginsTyped ⟨name.toList, _, _, word, _, c, s,
    ⟨hname.1, fun d hd ↦ isLooseNameChar_of_isWord (hname.2 d hd)⟩, hword, hc, White.refl _,
    White.refl _, hspace, White.refl _⟩

/-- An argument with a type is found, whatever its details. -/
theorem not_refused_typedInside {name word : String} {details : List Char} (hname : IsWordName name)
    (hword : word ∈ typeWords) (hdetails : IsDetail details) (t : List Char) :
    typedArgument.read (typedInside name word details ++ '}' :: t) ≠ none := by
  rw [typedInside, List.append_assoc, List.cons_append, List.cons_append, List.append_assoc]
  have hread : ∃ x, typedArgument.read
      (name.toList ++ ',' :: ' ' :: (word.toList ++ (details ++ '}' :: t))) = some x := by
    cases details with
    | nil => exact read_typedArgument hname hword (.inr rfl) t
    | cons c s => exact read_typedArgument hname hword (.inl (hdetails c rfl)) (s ++ '}' :: t)
  obtain ⟨x, hx⟩ := hread
  rw [hx]
  exact Option.some_ne_none x

end Template

namespace Phrase

open Reader

/-! ### Texts and plain arguments -/

/-- A phrase that is filled in directly. -/
def isDirect : Phrase → Bool
  | .text _ | .argument _ => true
  | _ => false

section Direct

variable {names : List String} {inPlural : Bool} {p : Phrase} {ps : List Phrase}

theorem exists_of_mem_row (h : p ∈ ps) : ∃ u t, rowChars ps = u ++ (chars p ++ t) := by
  induction ps with
  | nil => cases h
  | cons q ps ih =>
    rcases List.mem_cons.1 h with rfl | h
    · exact ⟨[], rowChars ps, rfl⟩
    · obtain ⟨u, t, hrow⟩ := ih h
      exact ⟨chars q ++ u, t, by rw [rowChars, hrow, List.append_assoc]⟩

theorem wellFormed_of_mem (hps : RowWellFormed names inPlural ps) (h : p ∈ ps) :
    WellFormed names inPlural p := by
  induction ps with
  | nil => cases h
  | cons q ps ih =>
    rcases List.mem_cons.1 h with rfl | h
    · exact hps.1
    · exact ih hps.2 h

/-- Only texts and plain arguments are not found in a template. -/
theorem isDirect_of_needsMessage (hnames : AreFormatters names) (hps : RowWellFormed names false ps)
    (hneeds : Renderer.needsMessage names (rowChars ps) = false) (hp : p ∈ ps) :
    isDirect p = true := by
  rw [Renderer.needsMessage, Bool.or_eq_false_iff, Bool.or_eq_false_iff] at hneeds
  obtain ⟨⟨htyped, hcustom⟩, hshorthand⟩ := hneeds
  obtain ⟨u, t, hrow⟩ := exists_of_mem_row hp
  have hwell := wellFormed_of_mem hps hp
  have typed {name : String} (word : String) {details : List Char} (hname : IsWordName name)
      (hword : word ∈ typeWords) (hdetails : IsDetail details)
      (hchars : chars p = '{' :: (typedInside name word details ++ ['}'])) : False := by
    rw [hchars, List.cons_append, List.append_assoc, List.singleton_append] at hrow
    exact not_refused_typedInside hname hword hdetails t (Shape.refused_of_occursIn htyped hrow)
  have found {α : Type} {shape : Shape α} {v : List Char} {a : α} (hcloses : shape.read.Closes)
      (hv : inside? p = some v) (hfound : shape.found? v = some a)
      (hoccurs : shape.occursIn (rowChars ps) = false)
      (hchars : chars p = '{' :: (v ++ ['}'])) : False := by
    have hread := Shape.read_group hcloses (braceFree_inside hnames hwell hv) t
    rw [hchars, List.cons_append, List.append_assoc, List.singleton_append] at hrow
    rw [Shape.refused_of_occursIn hoccurs hrow, hfound] at hread
    cases hread
  cases p with
  | text | argument => rfl
  | pound => cases hwell
  | number name style options =>
    exact (typed "number" hwell.1 (by decide) (isDetail_styleDetail _) rfl).elim
  | date name style skeleton =>
    exact (typed "date" hwell.1 (by decide) (isDetail_styleDetail _) rfl).elim
  | time name style skeleton =>
    exact (typed "time" hwell.1 (by decide) (isDetail_styleDetail _) rfl).elim
  | plural name kind offset branches =>
    have hword : Grammar.typeWord (.plural kind) ∈ typeWords := by cases kind <;> decide
    have hchars : chars (.plural name kind offset branches) = '{' :: (typedInside name
        (Grammar.typeWord (.plural kind)) (',' :: (offsetPart plainLayout offset
          (branches.map fun b ↦ (b.1, [])) ++ branchesChars branches)) ++ ['}']) := by
      simp [chars, head, typedInside]
    exact (typed _ hwell.1 hword (isDetail_comma _) hchars).elim
  | select name branches =>
    have hchars : chars (.select name branches) =
        '{' :: (typedInside name "select" (',' :: branchesChars branches) ++ ['}']) := by
      simp [chars, head, typedInside, Grammar.typeWord]
    exact (typed "select" hwell.1 (by decide) (isDetail_comma _) hchars).elim
  | shorthand f =>
    obtain ⟨hname, hzero, hone, hother⟩ := hwell
    have hfound := found?_shorthand hname (fun s hs ↦ isFormChar_of_isForm (hzero s hs).1)
      (isFormChar_of_isForm hone) (isFormChar_of_isForm hother)
    exact (found closes_shorthand rfl hfound hshorthand rfl).elim
  | call name c =>
    obtain ⟨hname, hc⟩ := hwell
    cases c with
    | currency code => exact (typed "currency" hname (by decide) (isDetail_details _) rfl).elim
    | compact display =>
      have hword : (Call.compact display).word ∈ typeWords := by cases display <;> decide
      exact (typed _ hname hword (isDetail_details (.compact display)) rfl).elim
    | relativeTime style =>
      exact (typed "relativeTime" hname (by decide) (isDetail_details _) rfl).elim
    | list kind length => exact (typed "list" hname (by decide) (isDetail_details _) rfl).elim
    | custom formatter style =>
      obtain ⟨hmem, hstyle⟩ := hc
      have hend := (isDetail_details (.custom formatter style)).endsWord.append_close
      have hfound := found?_customArgument (fun n hn ↦ (hnames n hn).1) hname (hnames _ hmem).1 hend
      rw [if_pos hmem, Call.details, customRest_detail hstyle] at hfound
      have hnonempty : names.isEmpty = false := by
        rw [List.isEmpty_eq_false_iff]
        exact List.ne_nil_of_mem hmem
      rw [callsFormatter, hnonempty, Bool.not_false, Bool.true_and] at hcustom
      exact (found (closes_customArgument hnames.braceFree) rfl hfound hcustom rfl).elim

/-! ### Filling in directly -/

theorem closes_plainVariable : plainVariable.read.Closes :=
  closes_bind (within_run (by decide) (by decide)) fun _ ↦ closes_close _

theorem found?_plainVariable {name : String} (h : IsWordName name) :
    plainVariable.found? name.toList = some name := by
  have hrun : run isWord (name.toList ++ ['}']) = some (name.toList, ['}']) := by
    have hstop : ∀ c ∈ ['}'].head?, isWord c = false := by decide
    rw [run, takeWhile_append_stop h.2 hstop, dropWhile_append_stop h.2 hstop, if_neg]
    simpa using h.1
  rw [Shape.found?, plainVariable]
  dsimp only
  rw [bind_of_some hrun, bind_of_some close_close, String.ofList_toList]
  rfl

/-- What is shown for a piece of a template that is filled in directly. -/
def pieceOutline (scene : Scene) : Template.Piece String → Outline
  | .char c => [.text .template (String.singleton c)]
  | .found name => scene.withValue name (Scene.plain name)

theorem simple_eq (scene : Scene) (s : List Char) :
    scene.simple s = (plainVariable.pieces s).flatMap (pieceOutline scene) := by
  rw [Scene.simple]
  refine List.flatMap_congr fun piece _ ↦ ?_
  cases piece <;> rfl

/-- A text may be shown character by character. -/
theorem same_characters (scene : Scene) (s : String) (o : Outline) :
    Outline.Same ((s.toList.map Template.Piece.char).flatMap (pieceOutline scene) ++ o)
      (.text .template s :: o) := by
  rw [← String.ofList_toList (s := s), String.toList_ofList]
  induction s.toList with
  | nil => exact (Outline.same_text_empty _ _).symm
  | cons c w ih =>
    have hcons : String.ofList (c :: w) = String.singleton c ++ String.ofList w := by
      rw [String.ofList_cons]
    rw [hcons, List.map_cons, List.flatMap_cons, List.append_assoc]
    exact (Outline.Same.cons _ ih).trans (Outline.same_text_append _ _ _ _).symm

/-- Texts and plain arguments are filled in as they stand in the tree. -/
theorem same_simple (scene : Scene) (hnames : AreFormatters names)
    (hps : RowWellFormed names false ps) (hdirect : ∀ p ∈ ps, isDirect p = true) :
    Outline.Same (scene.simple (rowChars ps)) (rowOutline scene none ps) := by
  have hsettled := settled_rowItems hnames hps .nil
  rw [List.append_nil] at hsettled
  rw [simple_eq, ← textOf_rowItems, pieces_textOf closes_plainVariable hsettled]
  clear hsettled
  induction ps with
  | nil => exact .refl _
  | cons p ps ih =>
    obtain ⟨hp, hps⟩ := hps
    obtain ⟨hpDirect, hlater⟩ := List.forall_mem_cons.1 hdirect
    rw [rowItems, rowOutline, List.flatMap_append, List.flatMap_append]
    cases p with
    | text s =>
      have hpieces : (items (.text s)).flatMap plainVariable.piecesOf = s.toList.map .char := by
        rw [items, List.flatMap_map]
        exact List.map_eq_flatMap.symm
      rw [hpieces]
      exact (same_characters scene s _).trans (.cons _ (ih hps hlater))
    | argument name =>
      have hpieces : (items (.argument name)).flatMap plainVariable.piecesOf = [.found name] := by
        change plainVariable.piecesOf (.group name.toList) ++ [] = [.found name]
        rw [Shape.piecesOf, found?_plainVariable hp.1]
        rfl
      rw [hpieces, List.flatMap_singleton]
      exact .append (.refl _) (ih hps hlater)
    | _ => cases hpDirect

end Direct

end Phrase

end Phrasebook
