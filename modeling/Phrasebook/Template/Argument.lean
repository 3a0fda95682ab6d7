import Phrasebook.Template.Shape

/-!
# Arguments with a type

A template is read as a message only if some argument in it has a type; a template whose arguments
are plain variables is filled in directly. The shapes here recognise the two kinds of argument
before the template is known to be a message.
-/

set_option autoImplicit false

namespace Phrasebook.Template

open Text

namespace Reader

/-- Takes a comma. -/
def comma : Reader Unit :=
  exactly [',']

/-- Takes the closing brace. -/
def close : Reader Unit :=
  exactly ['}']

/-- Takes the variable of an argument, a word, and the comma after it. -/
def variableName : Reader String := do
  blanks
  let name ← run isWord
  blanks
  comma
  return String.ofList name

/-- Takes white space, then one of the texts `ws`. -/
def keyword (ws : List String) : Reader String := do
  blanks
  oneOf ws

/-- Takes a comma, then `r` between white space, if they stand there. -/
def optionalPart {α : Type} (r : Reader α) : Reader (Option α) :=
  optionally do
    comma
    blanks
    let a ← r
    blanks
    return a

theorem cuts_variableName : Cuts variableName :=
  cuts_bind cuts_blanks fun _ ↦ cuts_bind (cuts_run _) fun _ ↦ cuts_bind cuts_blanks fun _ ↦
    cuts_bind (cuts_exactly _) fun _ ↦ cuts_pure _

theorem cuts_keyword (ws : List String) : Cuts (keyword ws) :=
  cuts_bind cuts_blanks fun _ ↦ cuts_oneOf ws

theorem cuts_optionalPart {α : Type} {r : Reader α} (hr : r.Cuts) : Cuts (optionalPart r) :=
  cuts_optionally <| cuts_bind (cuts_exactly _) fun _ ↦ cuts_bind cuts_blanks fun _ ↦
    cuts_bind hr fun _ ↦ cuts_bind cuts_blanks fun _ ↦ cuts_pure _

end Reader

open Reader

/-- A character of a name before it is known to be one. -/
def isLooseNameChar (c : Char) : Bool :=
  !isBlank c && c != '{' && c != '}' && c != ','

/-- The words that make an argument more than a plain variable. -/
def typeWords : List String :=
  ["plural", "select", "selectordinal", "number", "date", "time", "relativeTime", "list",
    "currency", "compact", "compactLong"]

/-- Takes a run of letters that is one of the words for types. -/
def typeWord : Reader Unit := do
  let w ← run isLetter
  if typeWords.contains (String.ofList w) then return () else failure

/-- The start of an argument with a type: its name, its type, and the comma or brace after it. -/
def typedArgument : Shape Unit where
  read := do
    blanks
    let _ ← run isLooseNameChar
    blanks
    comma
    blanks
    typeWord
    blanks
    let _ ← oneOf [",", "\x7d"]
    return ()
  cuts := by
    refine cuts_bind cuts_blanks fun _ ↦ cuts_bind (cuts_run _) fun _ ↦
      cuts_bind cuts_blanks fun _ ↦ cuts_bind (cuts_exactly _) fun _ ↦
      cuts_bind cuts_blanks fun _ ↦ cuts_bind ?_ fun _ ↦
      cuts_bind cuts_blanks fun _ ↦ cuts_bind (cuts_oneOf _) fun _ ↦ cuts_pure _
    refine cuts_bind (cuts_run _) fun w ↦ ?_
    split
    · exact cuts_pure _
    · intro s a t h
      cases h

/-- A variable in braces and nothing else. -/
def plainVariable : Shape String where
  read := do
    let name ← run isWord
    close
    return String.ofList name
  cuts := cuts_bind (cuts_run _) fun _ ↦ cuts_bind (cuts_exactly _) fun _ ↦ cuts_pure _

end Phrasebook.Template
