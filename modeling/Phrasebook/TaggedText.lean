import Phrasebook.Template.Reader

/-!
# Components in rendered text

A rendered text may mark parts with a component's name, `<name>` before and `</name>` after. The
text is cut into such parts and the text between them, from left to right. A part ends at the first
closing tag of its own name, and what is inside is not looked at.
-/

set_option autoImplicit false

namespace Phrasebook.TaggedText

open Text

/-- A part of a rendered text. -/
inductive Part
  | text (content : String)
  | component (name content : String)
  deriving DecidableEq, Repr

/-- What stands before the first `w` in a text, and what comes after it. -/
def splitAt? (w : List Char) : List Char → Option (List Char × List Char)
  | [] => (after? w []).map ([], ·)
  | c :: s =>
    match after? w (c :: s) with
    | some t => some ([], t)
    | none => (splitAt? w s).map fun r ↦ (c :: r.1, r.2)

theorem splitAt?_append {w s : List Char} {r : List Char × List Char} (h : splitAt? w s = some r) :
    s = r.1 ++ w ++ r.2 := by
  induction s generalizing r with
  | nil =>
    obtain ⟨t, ht, rfl⟩ := Option.map_eq_some_iff.1 h
    simpa using append_of_after? ht
  | cons c s ih =>
    unfold splitAt? at h
    split at h
    · rename_i t ht
      cases h
      simpa using append_of_after? ht
    · obtain ⟨u, hu, rfl⟩ := Option.map_eq_some_iff.1 h
      simp [ih hu]

/-- The tag that opens a component. -/
def opening (name : String) : List Char :=
  '<' :: name.toList ++ ['>']

/-- The tag that closes a component. -/
def closing (name : String) : List Char :=
  '<' :: '/' :: name.toList ++ ['>']

/-- The component that a text begins with, and what comes after it. Of several names the first that
fits counts. -/
def component? (names : List String) (s : List Char) : Option ((String × List Char) × List Char) :=
  names.findSome? fun name ↦
    ((after? (opening name) s).bind (splitAt? (closing name))).map fun r ↦ ((name, r.1), r.2)

theorem component?_append {names : List String} {s : List Char}
    {r : (String × List Char) × List Char} (h : component? names s = some r) :
    r.1.1 ∈ names ∧ s = opening r.1.1 ++ r.1.2 ++ closing r.1.1 ++ r.2 := by
  obtain ⟨name, hm, hr⟩ := List.exists_of_findSome?_eq_some h
  obtain ⟨u, hu, rfl⟩ := Option.map_eq_some_iff.1 hr
  obtain ⟨t, ht, hs⟩ := Option.bind_eq_some_iff.1 hu
  refine ⟨hm, ?_⟩
  rw [append_of_after? ht, splitAt?_append hs]
  simp

theorem length_lt_of_component? {names : List String} {s : List Char}
    {r : (String × List Char) × List Char} (h : component? names s = some r) :
    r.2.length < s.length := by
  have := congrArg List.length (component?_append h).2
  simp only [opening, closing, List.length_append, List.length_cons, List.length_nil] at this
  omega

/-- The parts with a character of text in front. -/
def addChar (c : Char) : List Part → List Part
  | .text t :: parts => .text (String.ofList (c :: t.toList)) :: parts
  | parts => .text (String.singleton c) :: parts

/-- Cuts a text into its parts. -/
def cut (names : List String) : List Char → List Part
  | [] => []
  | c :: s =>
    match h : component? names (c :: s) with
    | some r =>
      have := length_lt_of_component? h
      .component r.1.1 (String.ofList r.1.2) :: cut names r.2
    | none => addChar c (cut names s)
termination_by s => s.length
decreasing_by
  · exact this
  · exact Nat.lt_succ_self _

/-- The parts of a rendered text. Without names of components there is one part, which may be
empty. -/
def parts (s : String) (names : List String) : List Part :=
  if names.isEmpty then [.text s] else cut names s.toList

end Phrasebook.TaggedText
