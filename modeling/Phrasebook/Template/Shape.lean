import Phrasebook.Template.Reader

/-!
# Arguments found in raw text

A shape of arguments says what may follow an opening brace, up to and with the closing brace. A
template is cut at the arguments of a shape from left to right: an opening brace that begins such an
argument takes all of it, and every other character stands for itself.
-/

set_option autoImplicit false

namespace Phrasebook.Template

/-- What may follow an opening brace: a reader that takes everything up to and with the closing
brace. -/
structure Shape (α : Type) where
  read : Reader α
  cuts : read.Cuts

/-- A piece of a template: an argument of a shape, or one character outside of all of them. -/
inductive Piece (α : Type)
  | char (c : Char)
  | found (a : α)
  deriving DecidableEq, Repr

namespace Shape

variable {α : Type}

/-- Cuts a text at the arguments of a shape. -/
def pieces (shape : Shape α) : List Char → List (Piece α)
  | [] => []
  | c :: s =>
    if c = '{' then
      match h : shape.read s with
      | some (a, t) =>
        have := (shape.cuts s a t h).length_le
        .found a :: pieces shape t
      | none => .char c :: pieces shape s
    else .char c :: pieces shape s
termination_by s => s.length

/-- Whether an argument of the shape occurs in a text. -/
def occursIn (shape : Shape α) (s : List Char) : Bool :=
  (shape.pieces s).any fun
    | .found _ => true
    | .char _ => false

/-- The text with each argument of the shape replaced. -/
def replace (shape : Shape α) (f : α → List Char) (s : List Char) : List Char :=
  (shape.pieces s).flatMap fun
    | .found a => f a
    | .char c => [c]

/-- A text without arguments of the shape is a row of characters. -/
theorem pieces_eq_map_char {shape : Shape α} {s : List Char} (h : shape.occursIn s = false) :
    shape.pieces s = s.map .char := by
  unfold occursIn at h
  fun_induction pieces shape s with
  | case1 => rfl
  | case2 => simp at h
  | case3 s hr ih => simpa using ih (by simpa using h)
  | case4 c s hc ih => simpa using ih (by simpa using h)

/-- Replacing the arguments of a shape in a text without any changes nothing. -/
theorem replace_eq_self {shape : Shape α} {f : α → List Char} {s : List Char}
    (h : shape.occursIn s = false) : shape.replace f s = s := by
  simp [replace, pieces_eq_map_char h, List.flatMap_map]

end Shape

end Phrasebook.Template
