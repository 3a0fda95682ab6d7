import Phrasebook.Fault

/-!
# Outlines

An outline is a rendered message in which the places of missing values are still open. It does not
depend on how the program wants missing values to be shown: that is asked hole by hole, from left to
right, when the outline is filled. Every text in it tells where it comes from.
-/

set_option autoImplicit false

namespace Phrasebook

/-- Where a text of an outline comes from. -/
inductive Origin
  /-- The author wrote it in the template. -/
  | template
  /-- It is the plain text of a value. -/
  | value
  /-- A formatter of the program or the locale wrote it. -/
  | output
  deriving DecidableEq, Repr

/-- A part of an outline. -/
inductive Segment
  | text (origin : Origin) (s : String)
  /-- The place of a value that is missing, with the name of its variable. -/
  | hole (name : String)
  /-- Something to report when this place is reached. -/
  | notice (n : Notice)
  /-- Rendering ends here with a fault. -/
  | fault (f : Fault)
  deriving DecidableEq

/-- A rendered message with open places. -/
abbrev Outline := List Segment

namespace Outline

/-- Fills the holes and joins the texts. -/
def fill (missing : String → Except CallFault String) : Outline → Answer String
  | [] => ⟨.ok "", []⟩
  | .text _ s :: rest => (fill missing rest).map (s ++ ·)
  | .hole name :: rest =>
    match missing name with
    | .ok s => (fill missing rest).map (s ++ ·)
    | .error f => ⟨.error (.call f), []⟩
  | .notice n :: rest => (fill missing rest).after [.notice n]
  | .fault f :: _ => ⟨.error f, []⟩

/-- The texts of an origin. -/
def textsFrom (origin : Origin) (o : Outline) : List String :=
  o.filterMap fun
    | .text source s => if source = origin then some s else none
    | _ => none

end Outline

/-- How the name of a missing value is shown unless the program has its own way. -/
def inBraces (name : String) : String :=
  "\x7b" ++ name ++ "\x7d"

end Phrasebook
