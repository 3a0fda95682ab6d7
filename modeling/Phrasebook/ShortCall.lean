import Phrasebook.Catalog

/-!
# Calls in short

Programs give phrases on the spot so often that there are short forms: Korean and English texts in a
row, a row of phrases by locale, and a name for each of some pairs of languages. After the phrases
come values and a locale, which may be left out. The arguments of a call in short can be of any
kind, and one that is not used may be of a kind that does not fit.
-/

set_option autoImplicit false

namespace Phrasebook

/-- An argument of a call in short: a value, or a table of values by name or by locale. -/
inductive CallArgument
  | value (v : Value)
  | table (entries : Table String Value)

/-- Why a call in short cannot be made. -/
inductive CallArgumentFault
  | tooFew
  | tooMany
  deriving DecidableEq, Repr

namespace CallArgument

/-- An argument that is left out. -/
def absent : CallArgument :=
  .value .absent

/-- The argument as a phrase. A table is no text, and like a list it counts as nothing when it is
empty. -/
def toPhrase : CallArgument → Value
  | .value v => v
  | .table entries => .list (entries.map Prod.snd)

/-- Whether an argument counts as nothing. -/
def isNothing (a : CallArgument) : Bool :=
  a.toPhrase.isNothing

/-- The argument as values. What counts as nothing gives none, and other values have no names. -/
def toValues : CallArgument → Values
  | .value v => if v.isNothing then .none else .nameless
  | .table entries => .ofList entries

/-- The argument as a locale. What counts as nothing names none. -/
def toLocale (a : CallArgument) : Except Misuse (Option String) :=
  if a.isNothing then .ok none
  else
    match a with
    | .value (.text s) => .ok (some s)
    | .value _ => .error .valueAsLocale
    | .table _ => .error .tableAsLocale

end CallArgument

namespace Catalog

/-- The pairs of languages that have a short form. -/
def pairNames : List (String × String × String) :=
  [("it_ja", "ko", "ja"), ("it_zh", "ko", "zh"), ("it_es", "ko", "es"), ("it_fr", "ko", "fr"),
    ("it_de", "ko", "de"), ("en_ja", "en", "ja"), ("en_zh", "en", "zh"), ("en_es", "en", "es"),
    ("en_fr", "en", "fr"), ("en_de", "en", "de"), ("ja_zh", "ja", "zh"), ("ja_es", "ja", "es"),
    ("zh_es", "zh", "es")]

/-- Phrases on the spot, with values and a locale. Phrases that count as nothing are noticed first,
a locale of the wrong kind next, and phrases of the wrong kind after that. -/
def callPick (c : Catalog) (clock : Calendar.Moment) (phrases values locale : CallArgument) :
    Catalog × Answer String :=
  if phrases.isNothing then
    let name := if locale.isNothing then c.locale else locale.toPhrase.plainText
    (c, ⟨.error (.noPhrase name), []⟩)
  else
    match locale.toLocale, phrases with
    | .error misuse, _ => (c, ⟨.error (.misuse misuse), []⟩)
    | .ok _, .value _ => (c, ⟨.error (.misuse .unsortedPhrases), []⟩)
    | .ok locale, .table entries => c.pick clock entries values.toValues locale

/-- The phrases that a call in short begins with, and its further arguments. A text is Korean and
has the English one after it. -/
def callPhrases : List CallArgument →
    Except CallArgumentFault (CallArgument × List CallArgument)
  | .value (.text korean) :: english :: rest =>
    .ok (.table (twoPhrases ("ko", .text korean) ("en", english.toPhrase)), rest)
  | [.value (.text _)] => .error .tooFew
  | phrases :: rest => .ok (phrases, rest)
  | [] => .error .tooFew

/-- Phrases on the spot, with values and a locale after them. A locale in its place counts more than
one that is named, and what comes after it is passed over. -/
def call (c : Catalog) (clock : Calendar.Moment) (args : List CallArgument)
    (named : CallArgument) : Except CallArgumentFault (Catalog × Answer String) := do
  let (phrases, rest) ← callPhrases args
  match rest with
  | [] => return c.callPick clock phrases .absent named
  | [values] => return c.callPick clock phrases values named
  | values :: locale :: _ => return c.callPick clock phrases values locale

/-- The short form for two languages. A locale is either in its place or named. -/
def callPair (c : Catalog) (clock : Calendar.Moment) (first second : String)
    (args : List CallArgument) (named : Option CallArgument) :
    Except CallArgumentFault (Catalog × Answer String) :=
  let call (a b values locale : CallArgument) :=
    c.callPick clock (.table (twoPhrases (first, a.toPhrase) (second, b.toPhrase))) values locale
  match args, named with
  | [a, b], _ => .ok (call a b .absent (named.getD .absent))
  | [a, b, values], _ => .ok (call a b values (named.getD .absent))
  | [a, b, values, locale], none => .ok (call a b values locale)
  | _ :: _ :: _, _ => .error .tooMany
  | _, _ => .error .tooFew

end Catalog

end Phrasebook
