import Phrasebook.Template.Extension

/-!
# Placeholders

Arguments beyond the message format are put aside before the template is read. Each leaves an
argument with a made-up name in its place, and the name leads back to it when the message is
rendered. The kinds are taken in a fixed order, each over what the one before has left, and every
kind counts its own placeholders from zero.
-/

set_option autoImplicit false

namespace Phrasebook

open Text

namespace Template

/-- The kinds of placeholders. -/
inductive PlaceholderKind
  | custom
  | currency
  | compact
  | relativeTime
  | list
  deriving DecidableEq, Repr

/-- The word of a kind in the names of its placeholders. -/
def PlaceholderKind.word : PlaceholderKind → String
  | .custom => "CUSTOM"
  | .currency => "CURRENCY"
  | .compact => "COMPACT"
  | .relativeTime => "RELTIME"
  | .list => "LIST"

/-- The name of a placeholder. -/
def PlaceholderKind.token (kind : PlaceholderKind) (index : Nat) : String :=
  "__" ++ kind.word ++ "_" ++ toString index ++ "__"

/-- The arguments put aside, under the names of their placeholders and in the order they were
found. -/
abbrev Asides := List (String × ExtensionArgument)

/-- A template with placeholders, and the arguments they stand for. -/
structure Prepared where
  text : List Char
  asides : Asides
  deriving DecidableEq, Repr

/-- The pieces of a template with a placeholder for each argument, counted from `index`. -/
def withPlaceholders (kind : PlaceholderKind) (index : Nat) :
    List (Piece ExtensionArgument) → Prepared
  | [] => ⟨[], []⟩
  | .char c :: ps =>
    let r := withPlaceholders kind index ps
    ⟨c :: r.text, r.asides⟩
  | .found a :: ps =>
    let r := withPlaceholders kind (index + 1) ps
    let token := kind.token index
    ⟨'{' :: token.toList ++ '}' :: r.text, (token, a) :: r.asides⟩

/-- Puts the arguments of one kind aside, after those that have been before. -/
def Prepared.putAside (w : Prepared) (kind : PlaceholderKind) (shape : Shape ExtensionArgument) :
    Prepared :=
  let r := withPlaceholders kind 0 (shape.pieces w.text)
  ⟨r.text, w.asides ++ r.asides⟩

/-- Whether an argument of a formatter with one of the names occurs; without names there is none. -/
def callsFormatter (names : List String) (s : List Char) : Bool :=
  !names.isEmpty && (customArgument names).occursIn s

/-- Puts all arguments beyond the message format aside. -/
def prepare (names : List String) (s : List Char) : Prepared :=
  let start : Prepared := ⟨s, []⟩
  let custom := if names.isEmpty then start else start.putAside .custom (customArgument names)
  custom.putAside .currency currencyArgument
    |>.putAside .compact compactArgument
    |>.putAside .relativeTime relativeTimeArgument
    |>.putAside .list listArgument

/-- What is left of a text that begins with a run of the class `p`, then `w`. -/
def afterRun? (p : Char → Bool) (w s : List Char) : Option (List Char) :=
  if (s.takeWhile p).isEmpty then none else after? w (s.dropWhile p)

/-- Whether a name has the form of a placeholder: two underscores, capital letters, an underscore,
digits, two underscores, and perhaps the end of a line. -/
def hasPlaceholderForm (name : String) : Bool :=
  let rest := do
    let s ← after? ['_', '_'] name.toList
    let s ← afterRun? Char.isUpper ['_'] s
    afterRun? isDigit ['_', '_'] s
  rest = some [] || rest = some ['\n']

end Template

end Phrasebook
