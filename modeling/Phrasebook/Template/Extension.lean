import Phrasebook.Message.NumberOptions
import Phrasebook.Template.Argument

/-!
# Arguments beyond the message format

The library knows types of arguments that the message format lacks: amounts of money, compact
numbers, times relative to the present, lists, and formatters that a program adds. Each has a shape
of its own.
-/

set_option autoImplicit false

namespace Phrasebook

open Text

/-- How an argument beyond the message format is written. -/
inductive Extension
  | custom (formatter : String) (style : Option String)
  | currency (code : String)
  | compact (display : CompactDisplay)
  | relativeTime (style : String)
  | list (kind length : String)
  /-- A kind of argument that the library does not know. -/
  | unknown (kind : String)
  deriving DecidableEq, Repr

/-- An argument beyond the message format: the name of its variable, and how it is written. -/
structure ExtensionArgument where
  name : String
  extension : Extension
  deriving DecidableEq, Repr

namespace Template

open Reader

/-- The lengths of texts that locales tell apart. -/
def lengthWords : List String := ["long", "short", "narrow"]

/-- An amount of money, with an optional code of three letters. -/
def currencyArgument : Shape ExtensionArgument where
  read := do
    let name ← variableName
    let _ ← keyword ["currency"]
    blanks
    let code ← optionalPart (letters 3)
    close
    return ⟨name, .currency ((code.map fun c ↦ upper (String.ofList c)).getD defaultCurrency)⟩
  cuts :=
    cuts_bind cuts_variableName fun _ ↦ cuts_bind (cuts_keyword _) fun _ ↦
      cuts_bind cuts_blanks fun _ ↦
      cuts_bind (cuts_optionalPart (cuts_letters 3)) fun _ ↦ cuts_bind (cuts_exactly _) fun _ ↦
      cuts_pure _

/-- A compact number. -/
def compactArgument : Shape ExtensionArgument where
  read := do
    let name ← variableName
    let word ← keyword ["compactLong", "compact"]
    blanks
    close
    return ⟨name, .compact (if word = "compactLong" then .long else .short)⟩
  cuts :=
    cuts_bind cuts_variableName fun _ ↦ cuts_bind (cuts_keyword _) fun _ ↦
      cuts_bind cuts_blanks fun _ ↦
      cuts_bind (cuts_exactly _) fun _ ↦ cuts_pure _

/-- A time relative to the present, with an optional length. -/
def relativeTimeArgument : Shape ExtensionArgument where
  read := do
    let name ← variableName
    let _ ← keyword ["relativeTime"]
    blanks
    let style ← optionalPart (oneOf lengthWords)
    close
    return ⟨name, .relativeTime (style.getD "long")⟩
  cuts :=
    cuts_bind cuts_variableName fun _ ↦ cuts_bind (cuts_keyword _) fun _ ↦
      cuts_bind cuts_blanks fun _ ↦
      cuts_bind (cuts_optionalPart (cuts_oneOf _)) fun _ ↦ cuts_bind (cuts_exactly _) fun _ ↦
      cuts_pure _

/-- A list, with an optional kind and an optional length. -/
def listArgument : Shape ExtensionArgument where
  read := do
    let name ← variableName
    let _ ← keyword ["list"]
    blanks
    let kind ← optionalPart (oneOf ["conjunction", "disjunction", "unit"])
    let length ← optionalPart (oneOf lengthWords)
    close
    return ⟨name, .list (kind.getD "conjunction") (length.getD "long")⟩
  cuts :=
    cuts_bind cuts_variableName fun _ ↦ cuts_bind (cuts_keyword _) fun _ ↦
      cuts_bind cuts_blanks fun _ ↦
      cuts_bind (cuts_optionalPart (cuts_oneOf _)) fun _ ↦
      cuts_bind (cuts_optionalPart (cuts_oneOf _)) fun _ ↦ cuts_bind (cuts_exactly _) fun _ ↦
      cuts_pure _

/-- Names from the longest to the shortest, so that a name that begins with another one is tried
before it. Names of one length keep their order. -/
def longestFirst (names : List String) : List String :=
  names.mergeSort fun a b ↦ decide (b.length ≤ a.length)

/-- A character of the style that an argument gives to a formatter. -/
def isStyleChar (c : Char) : Bool :=
  c != '{' && c != '}'

/-- Takes one name of a formatter and the rest of its argument, with an optional style; an empty
style is none. -/
def customRest (name : String) : Reader Extension := do
  exactly name.toList
  blanks
  let style ← optionally do
    comma
    span isStyleChar
  close
  let style := (style.map trim).filter fun t ↦ !t.isEmpty
  return .custom name (style.map String.ofList)

theorem cuts_customRest (name : String) : Cuts (customRest name) :=
  cuts_bind (cuts_exactly _) fun _ ↦ cuts_bind cuts_blanks fun _ ↦
    cuts_bind (cuts_optionally (cuts_bind (cuts_exactly _) fun _ ↦ cuts_span _)) fun _ ↦
    cuts_bind (cuts_exactly _) fun _ ↦ cuts_pure _

/-- An argument of a formatter with one of the names. -/
def customArgument (names : List String) : Shape ExtensionArgument where
  read := do
    let name ← variableName
    let extension ← afterBlanks (firstOf ((longestFirst names).map customRest))
    return ⟨name, extension⟩
  cuts := by
    refine cuts_bind cuts_variableName fun _ ↦
      cuts_bind (cuts_afterBlanks (cuts_firstOf ?_)) fun _ ↦ cuts_pure _
    intro r hr
    obtain ⟨name, _, rfl⟩ := List.mem_map.1 hr
    exact cuts_customRest name

end Template

end Phrasebook
