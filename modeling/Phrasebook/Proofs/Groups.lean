import Phrasebook.Proofs.Shapes

/-!
A template as the shapes see it: characters, and innermost groups of braces.

A shape takes whole groups or nothing (`pieces_textOf`). Which groups there are does not change when
the text of one is replaced by another text without braces, so what one pass over a template leaves
is cut into groups at the same places.
-/

set_option autoImplicit false

namespace Phrasebook.Template

open Text

/-- A part of a template: one character, or a group of braces with no brace between them. -/
inductive Item
  | char (c : Char)
  | group (v : List Char)

/-- The text of a part. -/
def Item.text : Item → List Char
  | .char c => [c]
  | .group v => '{' :: v ++ ['}']

/-- The text of several parts. -/
def textOf (items : List Item) : List Char :=
  items.flatMap Item.text

@[simp]
theorem textOf_nil : textOf [] = [] :=
  rfl

@[simp]
theorem textOf_char (c : Char) (items : List Item) :
    textOf (.char c :: items) = c :: textOf items :=
  rfl

@[simp]
theorem textOf_group (v : List Char) (items : List Item) :
    textOf (.group v :: items) = '{' :: (v ++ '}' :: textOf items) := by
  simp [textOf, Item.text]

@[simp]
theorem textOf_append (items more : List Item) :
    textOf (items ++ more) = textOf items ++ textOf more :=
  List.flatMap_append

/-- The next brace opens, or there is none. -/
def Opens : List Item → Prop
  | [] => True
  | .char c :: items => c = '{' ∨ c ≠ '}' ∧ Opens items
  | .group _ :: _ => True

/-- The groups are all there are: no other opening brace is met by a closing one. -/
inductive Settled : List Item → Prop
  | nil : Settled []
  | char {c : Char} {items : List Item} : (c = '{' → Opens items) → Settled items →
      Settled (.char c :: items)
  | group {v : List Char} {items : List Item} : BraceFree v → Settled items →
      Settled (.group v :: items)

theorem Settled.braceFree {items : List Item} {v : List Char} (hs : Settled items)
    (h : Item.group v ∈ items) : BraceFree v := by
  induction hs with
  | nil => cases h
  | char _ _ ih => exact ih ((List.mem_cons.1 h).resolve_left nofun)
  | group hu _ ih =>
    rcases List.mem_cons.1 h with he | h
    · cases he
      exact hu
    · exact ih h

variable {α : Type} {shape : Shape α} {items : List Item}

/-- Up to the next brace, which opens, a text has none. -/
theorem Opens.split (h : Opens items) : ∃ v s, BraceFree v ∧ (∀ c ∈ s.head?, c = '{') ∧
    textOf items = v ++ s := by
  induction items with
  | nil => exact ⟨[], [], .nil, by simp, rfl⟩
  | cons i items ih =>
    cases i with
    | group v => exact ⟨[], textOf (.group v :: items), .nil, by simp, rfl⟩
    | char c =>
      by_cases hc : c = '{'
      · exact ⟨[], textOf (.char c :: items), .nil, by simp [hc], rfl⟩
      · obtain ⟨hclose, h⟩ := h.resolve_left hc
        obtain ⟨v, s, hv, hs, he⟩ := ih h
        exact ⟨c :: v, s, hv.cons ⟨hc, hclose⟩, hs, by rw [textOf_char, he]; rfl⟩

/-- The pieces that a shape makes of one part. -/
def Shape.piecesOf (shape : Shape α) : Item → List (Piece α)
  | .char c => [.char c]
  | .group v =>
    match shape.found? v with
    | some a => [.found a]
    | none => (Item.group v).text.map .char

theorem Shape.pieces_cons (shape : Shape α) {c : Char} (hc : c ≠ '{') (s : List Char) :
    shape.pieces (c :: s) = .char c :: shape.pieces s := by
  rw [pieces, if_neg hc]

theorem Shape.pieces_append (shape : Shape α) {w : List Char} (hw : ∀ c ∈ w, c ≠ '{')
    (s : List Char) : shape.pieces (w ++ s) = w.map .char ++ shape.pieces s := by
  induction w with
  | nil => rfl
  | cons c w ih =>
    obtain ⟨hc, hw⟩ := List.forall_mem_cons.1 hw
    rw [List.cons_append, shape.pieces_cons hc, ih hw]
    rfl

theorem Shape.pieces_of_read (shape : Shape α) {s t : List Char} {a : α}
    (h : shape.read s = some (a, t)) : shape.pieces ('{' :: s) = .found a :: shape.pieces t := by
  rw [pieces, if_pos rfl]
  split
  · rename_i hu
    rw [hu] at h
    obtain ⟨rfl, rfl⟩ := Prod.mk.inj (Option.some.inj h)
    rfl
  · rename_i hu
    rw [hu] at h
    cases h

theorem Shape.pieces_of_refused (shape : Shape α) {s : List Char} (h : shape.read s = none) :
    shape.pieces ('{' :: s) = .char '{' :: shape.pieces s := by
  rw [pieces, if_pos rfl]
  split
  · rename_i hu
    rw [hu] at h
    cases h
  · rfl

/-- A shape finds whole groups. -/
theorem pieces_textOf (h : shape.read.Closes) (hs : Settled items) :
    shape.pieces (textOf items) = items.flatMap shape.piecesOf := by
  induction hs with
  | nil => rw [textOf_nil, Shape.pieces]; rfl
  | @char c items hopen hs ih =>
    rw [textOf_char, List.flatMap_cons, ← ih]
    by_cases hc : c = '{'
    · obtain ⟨v, s, hv, hstop, he⟩ := (hopen hc).split
      have hnone : shape.read (textOf items) = none := by
        rw [he]
        exact Shape.read_open h hv hstop
      rw [hc, shape.pieces_of_refused hnone]
      rfl
    · rw [shape.pieces_cons hc]
      rfl
  | @group v items hv hs ih =>
    rw [textOf_group, List.flatMap_cons, ← ih]
    have hread := Shape.read_group h hv (textOf items)
    cases hfound : shape.found? v with
    | some a =>
      rw [hfound] at hread
      rw [shape.pieces_of_read hread, Shape.piecesOf, hfound]
      rfl
    | none =>
      rw [hfound] at hread
      have hclosed : ∀ c ∈ v ++ ['}'], c ≠ '{' := by
        intro c hc
        rcases List.mem_append.1 hc with hc | hc
        · exact (hv c hc).1
        · rw [List.mem_singleton.1 hc]
          decide
      rw [shape.pieces_of_refused hread, List.append_cons, shape.pieces_append hclosed,
        Shape.piecesOf, hfound]
      rfl

/-- One part with the argument of the shape in it replaced. -/
def Shape.replaceItem (shape : Shape α) (f : α → List Char) : Item → List Char
  | .char c => [c]
  | .group v =>
    match shape.found? v with
    | some a => f a
    | none => (Item.group v).text

/-- Arguments of a shape are replaced part by part. -/
theorem replace_textOf {f : α → List Char} (h : shape.read.Closes) (hs : Settled items) :
    shape.replace f (textOf items) = items.flatMap (shape.replaceItem f) := by
  rw [Shape.replace, pieces_textOf h hs, List.flatMap_assoc]
  refine List.flatMap_congr fun i _ ↦ ?_
  cases i with
  | char c => rfl
  | group v =>
    rw [Shape.piecesOf, Shape.replaceItem]
    cases shape.found? v with
    | some a => exact List.flatMap_singleton _ _
    | none => simp [List.flatMap_map]

/-- Where the next brace closes, the characters before it are in reach. -/
theorem exists_close_of_not_opens (h : ¬ Opens items) :
    ∃ v rest, BraceFree v ∧ items = v.map .char ++ .char '}' :: rest := by
  induction items with
  | nil => exact absurd trivial h
  | cons i items ih =>
    cases i with
    | group v => exact absurd trivial h
    | char c =>
      obtain ⟨hopen, hrest⟩ := not_or.1 h
      by_cases hc : c = '}'
      · exact ⟨[], items, .nil, by rw [hc]; rfl⟩
      · obtain ⟨v, rest, hv, rfl⟩ := ih fun ho ↦ hrest ⟨hc, ho⟩
        exact ⟨c :: v, rest, List.forall_mem_cons.2 ⟨⟨hopen, hc⟩, hv⟩, rfl⟩

theorem Settled.of_append_chars {v : List Char} {rest : List Item}
    (h : Settled (v.map .char ++ rest)) : Settled rest := by
  induction v with
  | nil => exact h
  | cons c v ih =>
    cases h with
    | char _ h => exact ih h

theorem textOf_chars (v : List Char) (items : List Item) :
    textOf (v.map .char ++ items) = v ++ textOf items := by
  induction v with
  | nil => rfl
  | cons c v ih => rw [List.map_cons, List.cons_append, textOf_char, ih]; rfl

/-- Every text consists of characters and groups. -/
theorem exists_settled (s : List Char) : ∃ items, Settled items ∧ textOf items = s := by
  induction s with
  | nil => exact ⟨[], .nil, rfl⟩
  | cons c s ih =>
    obtain ⟨items, hs, rfl⟩ := ih
    by_cases hchar : c = '{' → Opens items
    · exact ⟨.char c :: items, .char hchar hs, rfl⟩
    · obtain ⟨rfl, hopens⟩ := Classical.not_imp.1 hchar
      obtain ⟨v, rest, hv, rfl⟩ := exists_close_of_not_opens hopens
      have hclosed : Settled (.char '}' :: rest) := hs.of_append_chars
      cases hclosed with
      | char _ hrest =>
        exact ⟨.group v :: rest, .group hv hrest, by rw [textOf_group, textOf_chars, textOf_char]⟩

/-! ### Parts that a shape leaves -/

section Leaves

variable {α : Type} {shape : Shape α} {items more : List Item}

/-- The shape finds nothing in any of the groups. -/
def Shape.Leaves (shape : Shape α) (items : List Item) : Prop :=
  ∀ v, Item.group v ∈ items → shape.found? v = none

theorem Shape.leaves_append :
    shape.Leaves (items ++ more) ↔ shape.Leaves items ∧ shape.Leaves more := by
  simp only [Leaves, List.mem_append, or_imp, forall_and]

theorem Shape.leaves_cons_char {c : Char} :
    shape.Leaves (.char c :: items) ↔ shape.Leaves items := by
  simp [Leaves]

theorem Shape.leaves_cons_group {v : List Char} :
    shape.Leaves (.group v :: items) ↔ shape.found? v = none ∧ shape.Leaves items := by
  simp [Leaves]

theorem Shape.leaves_nil : shape.Leaves [] :=
  fun _ hv ↦ absurd hv List.not_mem_nil

theorem Shape.leaves_chars (w : List Char) : shape.Leaves (w.map .char) := by
  intro v hv
  obtain ⟨c, -, hc⟩ := List.mem_map.1 hv
  cases hc

/-- A shape occurs in a text if it finds something in one of its groups. -/
theorem Shape.occursIn_textOf (h : shape.read.Closes) (hs : Settled items) :
    shape.occursIn (textOf items) = false ↔ shape.Leaves items := by
  rw [occursIn, pieces_textOf h hs, List.any_flatMap, List.any_eq_false]
  refine ⟨fun hnone v hv ↦ ?_, fun hleaves i hi ↦ ?_⟩
  · have := hnone _ hv
    rw [piecesOf] at this
    cases hfound : shape.found? v with
    | none => rfl
    | some a => simp [hfound] at this
  · cases i with
    | char c => simp [piecesOf]
    | group v => simp [piecesOf, hleaves v hi]

theorem Shape.Leaves.flatMap_replaceItem (h : shape.Leaves items) (f : α → List Char) :
    items.flatMap (shape.replaceItem f) = textOf items := by
  refine List.flatMap_congr fun i hi ↦ ?_
  cases i with
  | char c => rfl
  | group v => rw [replaceItem, h v hi]

theorem Opens.of_append (h : Opens (items ++ more)) : Opens items := by
  induction items with
  | nil => trivial
  | cons i items ih =>
    cases i with
    | char c => exact h.imp_right fun ⟨hc, h⟩ ↦ ⟨hc, ih h⟩
    | group v => trivial

theorem settled_of_append (h : Settled (items ++ more)) : Settled items ∧ Settled more := by
  induction items with
  | nil => exact ⟨.nil, h⟩
  | cons i items ih =>
    cases h with
    | char hopens h => exact ⟨.char (fun hc ↦ (hopens hc).of_append) (ih h).1, (ih h).2⟩
    | group hv h => exact ⟨.group hv (ih h).1, (ih h).2⟩

end Leaves

end Phrasebook.Template
