import Phrasebook.Template.Argument

/-!
# Shorthand for plurals

`{n, p, item|items}` is short for a plural argument with the forms for one and for other numbers,
each after the number; a form in front of the two is the one for zero and stands without the number.
-/

set_option autoImplicit false

namespace Phrasebook.Template

open Text Reader

/-- The forms of a plural in short. -/
structure PluralForms where
  name : String
  zero : Option String
  one : String
  other : String
  deriving DecidableEq, Repr

/-- A character of a form. -/
def isFormChar (c : Char) : Bool :=
  c != '{' && c != '}' && c != '|'

/-- Takes a form, without the white space around it. -/
def form : Reader String := do
  return String.ofList (trim (← span isFormChar))

/-- The shorthand for plurals. -/
def shorthand : Shape PluralForms where
  read := do
    let name ← variableName
    let _ ← keyword ["p"]
    blanks
    comma
    let first ← form
    exactly ['|']
    let second ← form
    let third ← optionally do
      exactly ['|']
      form
    close
    return match third with
      | none => ⟨name, none, first, second⟩
      | some third => ⟨name, some first, second, third⟩
  cuts := by
    have hf : Cuts form := cuts_bind (cuts_span _) fun _ ↦ cuts_pure _
    exact cuts_bind cuts_variableName fun _ ↦ cuts_bind (cuts_keyword _) fun _ ↦
      cuts_bind cuts_blanks fun _ ↦ cuts_bind (cuts_exactly _) fun _ ↦ cuts_bind hf fun _ ↦
      cuts_bind (cuts_exactly _) fun _ ↦ cuts_bind hf fun _ ↦
      cuts_bind (cuts_optionally (cuts_bind (cuts_exactly _) fun _ ↦ hf)) fun _ ↦
      cuts_bind (cuts_exactly _) fun _ ↦ cuts_pure _

namespace PluralForms

/-- An option of a plural argument. -/
def option (selector branch : String) : String :=
  " " ++ selector ++ " \x7b" ++ branch ++ "\x7d"

/-- The plural argument that the forms stand for. -/
def argument (f : PluralForms) : String :=
  "\x7b" ++ f.name ++ ", plural," ++ (f.zero.map (option "=0")).getD "" ++
    option "one" ("# " ++ f.one) ++ option "other" ("# " ++ f.other) ++ "\x7d"

end PluralForms

/-- The template with every shorthand written out. -/
def spellOut (s : List Char) : List Char :=
  shorthand.replace (fun f ↦ f.argument.toList) s

end Phrasebook.Template
