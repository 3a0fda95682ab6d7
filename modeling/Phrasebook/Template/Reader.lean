import Phrasebook.Text.Character

/-!
# Reading the start of a text

A reader takes something off the start of a text, or refuses. The few readers here are enough to
describe the arguments that are recognised in a template before it is read as a message. None of
them looks back: what is left is always an end of the text (`Reader.Cuts`).
-/

set_option autoImplicit false

namespace Phrasebook.Template

open Text

/-- What a reader took off the start of a text, with what is left; nothing if it refuses the
text. -/
abbrev Reader (α : Type) := StateT (List Char) Option α

namespace Reader

variable {α β : Type}

/-- What a reader leaves is an end of the text. -/
def Cuts (r : Reader α) : Prop :=
  ∀ s a t, r s = some (a, t) → t <:+ s

/-- Takes all white space. -/
def blanks : Reader Unit := fun s ↦ some ((), s.dropWhile isBlank)

/-- Takes a run of at least one character of a class. -/
def run (p : Char → Bool) : Reader (List Char) := fun s ↦
  if (s.takeWhile p).isEmpty then none else some (s.takeWhile p, s.dropWhile p)

/-- Takes all characters of a class, perhaps none. -/
def span (p : Char → Bool) : Reader (List Char) := fun s ↦
  some (s.takeWhile p, s.dropWhile p)

/-- Takes exactly the text `w`. -/
def exactly (w : List Char) : Reader Unit := fun s ↦
  (after? w s).map ((), ·)

/-- Takes one of the texts `ws`, the first that stands there. -/
def oneOf (ws : List String) : Reader String := fun s ↦
  ws.findSome? fun w ↦ (after? w.toList s).map (w, ·)

/-- Takes what `r` takes, or nothing if it refuses. -/
def optionally (r : Reader α) : Reader (Option α) := fun s ↦
  match r s with
  | some (a, t) => some (some a, t)
  | none => some (none, s)

/-- Takes `count` letters. -/
def letters (count : Nat) : Reader (List Char) := fun s ↦
  if (s.take count).length = count ∧ (s.take count).all isLetter then
    some (s.take count, s.drop count)
  else none

/-- Reads with the first of the readers that does not refuse. -/
def firstOf (rs : List (Reader α)) : Reader α := fun s ↦
  rs.findSome? fun r ↦ r s

/-- Reads after the white space at the start of the text, of which it takes as much as `r`
allows. -/
def afterBlanks (r : Reader α) : Reader α
  | [] => r []
  | c :: s =>
    if isBlank c then
      match afterBlanks r s with
      | some w => some w
      | none => r (c :: s)
    else r (c :: s)

theorem cuts_pure (a : α) : Cuts (pure a : Reader α) := by
  intro s b t h
  cases h
  exact List.suffix_refl s

theorem cuts_bind {r : Reader α} {f : α → Reader β} (hr : r.Cuts) (hf : ∀ a, (f a).Cuts) :
    Cuts (r >>= f) := by
  intro s b t h
  obtain ⟨⟨a, u⟩, hu, hb⟩ := Option.bind_eq_some_iff.1 h
  exact (hf a u b t hb).trans (hr s a u hu)

theorem suffix_of_after? {p s r : List Char} (h : after? p s = some r) : r <:+ s :=
  ⟨p, (append_of_after? h).symm⟩

theorem cuts_blanks : Cuts blanks := by
  intro s a t h
  cases h
  exact List.dropWhile_suffix _

theorem cuts_run (p : Char → Bool) : Cuts (run p) := by
  intro s a t h
  unfold run at h
  split at h
  · cases h
  · cases h
    exact List.dropWhile_suffix _

theorem cuts_span (p : Char → Bool) : Cuts (span p) := by
  intro s a t h
  cases h
  exact List.dropWhile_suffix _

theorem cuts_exactly (w : List Char) : Cuts (exactly w) := by
  intro s a t h
  obtain ⟨u, hu, he⟩ := Option.map_eq_some_iff.1 h
  cases he
  exact suffix_of_after? hu

theorem cuts_oneOf (ws : List String) : Cuts (oneOf ws) := by
  intro s a t h
  obtain ⟨w, _, hw⟩ := List.exists_of_findSome?_eq_some h
  obtain ⟨u, hu, he⟩ := Option.map_eq_some_iff.1 hw
  cases he
  exact suffix_of_after? hu

theorem cuts_optionally {r : Reader α} (hr : r.Cuts) : Cuts (optionally r) := by
  intro s a t h
  unfold optionally at h
  split at h
  · rename_i b u hu
    cases h
    exact hr s b _ hu
  · cases h
    exact List.suffix_refl s

theorem cuts_letters (count : Nat) : Cuts (letters count) := by
  intro s a t h
  unfold letters at h
  split at h
  · cases h
    exact List.drop_suffix _ _
  · cases h

theorem cuts_firstOf {rs : List (Reader α)} (hr : ∀ r ∈ rs, r.Cuts) : Cuts (firstOf rs) := by
  intro s a t h
  obtain ⟨r, hm, h⟩ := List.exists_of_findSome?_eq_some h
  exact hr r hm s a t h

theorem cuts_afterBlanks {r : Reader α} (hr : r.Cuts) : Cuts (afterBlanks r) := by
  intro s a t h
  induction s with
  | nil => exact hr _ _ _ h
  | cons c s ih =>
    unfold afterBlanks at h
    split at h
    · split at h
      · rename_i w hw
        cases h
        exact (ih hw).trans (List.suffix_cons c s)
      · exact hr _ _ _ h
    · exact hr _ _ _ h

end Reader

end Phrasebook.Template
