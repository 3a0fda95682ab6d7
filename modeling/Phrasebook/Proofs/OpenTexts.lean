import Phrasebook.Proofs.Filling

/-!
Texts with open places.

What rendering gives is told here by a row of texts and places, where something else says what
stands in the places: the value of a variable, or the program's handler of missing values.
-/

set_option autoImplicit false

namespace Phrasebook

/-- A part of a text with open places. -/
inductive Part
  | text (s : String)
  /-- A place, with the name of what belongs there. -/
  | place (name : String)
  deriving DecidableEq, Repr

namespace Part

/-- The text of a part, where `f` says what stands in the places. -/
def shown (f : String → String) : Part → String
  | .text s => s
  | .place name => f name

/-- The whole text. -/
def join (f : String → String) (parts : List Part) : String :=
  String.join (parts.map (shown f))

variable {f : String → String}

theorem join_nil : join f [] = "" :=
  rfl

theorem join_append (parts more : List Part) :
    join f (parts ++ more) = join f parts ++ join f more := by
  rw [join, join, join, List.map_append, String.join_append]

theorem join_cons (p : Part) (parts : List Part) :
    join f (p :: parts) = p.shown f ++ join f parts := by
  rw [join, List.map_cons, String.join_cons, join]

theorem join_singleton (p : Part) : join f [p] = p.shown f := by
  rw [join_cons, join_nil, String.append_empty]

/-- A row without places is one text. -/
theorem join_congr {g : String → String} {parts : List Part}
    (h : ∀ name, .place name ∉ parts) : join f parts = join g parts := by
  refine congrArg String.join (List.map_congr_left fun p hp ↦ ?_)
  cases p with
  | text s => rfl
  | place name => exact absurd hp (h name)

/-- What stands in a place stands in the text. -/
theorem mem_join {parts : List Part} {name : String} {c : Char} (hname : .place name ∈ parts)
    (hc : c ∈ (f name).toList) : c ∈ (join f parts).toList := by
  induction parts with
  | nil => cases hname
  | cons p parts ih =>
    rw [join_cons, String.toList_append, List.mem_append]
    rcases List.mem_cons.1 hname with rfl | hname
    · exact .inl hc
    · exact .inr (ih hname)

end Part

namespace Outline

variable {missing : String → Except CallFault String}

/-- The texts of two outlines are joined. -/
theorem result_fill_append (o p : Outline) : (fill missing (o ++ p)).result =
    (fill missing o).result.bind fun s ↦ (fill missing p).result.map (s ++ ·) := by
  rw [fill_append, Answer.followedBy]
  cases (fill missing o).result with
  | error f => rfl
  | ok s => rfl

theorem result_fill_append_of_ok {o p : Outline} {s t : String}
    (ho : (fill missing o).result = .ok s) (hp : (fill missing p).result = .ok t) :
    (fill missing (o ++ p)).result = .ok (s ++ t) := by
  rw [result_fill_append, ho, hp]
  rfl

theorem result_fill_text (origin : Origin) (s : String) :
    (fill missing [.text origin s]).result = .ok s := by
  simp [fill, Answer.map, Except.map]

theorem result_fill_hole {name w : String} (h : missing name = .ok w) :
    (fill missing [.hole name]).result = .ok w := by
  simp [fill, h, Answer.map, Except.map]

end Outline

end Phrasebook
