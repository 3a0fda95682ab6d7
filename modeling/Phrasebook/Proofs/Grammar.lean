import Phrasebook.Message.Parser

/-!
The grammar of messages, said without a reader. Every rule relates a text to what it begins with
and to what follows it, since an apostrophe and a run of digits are judged by the character after
them. A template derives a message when the whole of it is the text of the message.

The rules have the offsets that are allowed as a parameter, as the reader takes no offset of more
than `LongNumeral.limit` digits. The second group of rules says where a text comes to an offset that
the reader does not take, before anything else is wrong with it.
-/

set_option autoImplicit false

namespace Phrasebook.Grammar

open Arithmetic Text Message

/-- Blanks, perhaps none, and then `t`. -/
def Blanks (s t : List Char) : Prop :=
  ∃ b : List Char, (∀ c ∈ b, isSpace c = true) ∧ s = b ++ t

/-- Blanks and the sign `c`, and then `t`. -/
def Sign (c : Char) (s t : List Char) : Prop :=
  Blanks s (c :: t)

/-- Blanks and a name, and then `t`. -/
def Name (s : List Char) (name : String) (t : List Char) : Prop :=
  ∃ w : List Char, w ≠ [] ∧ (∀ c ∈ w, isNameChar c = true) ∧ name = String.ofList w ∧
    Blanks s (w ++ t)

/-- The word of a type. -/
def typeWord : ArgumentType → String
  | .formatted .number => "number"
  | .formatted .date => "date"
  | .formatted .time => "time"
  | .plural .cardinal => "plural"
  | .plural .ordinal => "selectordinal"
  | .select => "select"

/-- The start of an argument with a type: a name, a comma, and the word for the type. -/
def Typed (s : List Char) (name word : String) (t : List Char) : Prop :=
  ∃ u v, Name s name u ∧ Sign ',' u v ∧ Blanks v (word.toList ++ t)

/-- A comma and a style without braces, up to and with the closing brace. White space around the
style does not count, and something has to be left. -/
def Style (s w t : List Char) : Prop :=
  ∃ v : List Char, Sign ',' s (v ++ '}' :: t) ∧ (∀ c ∈ v, c ≠ '{' ∧ c ≠ '}') ∧ w = trim v ∧ w ≠ []

/-- The element of an argument that shows one value, without a style. -/
def unstyled (name : String) : FormattedType → Element
  | .number => .number name none none
  | .date => .date name none none
  | .time => .time name none none

/-- The element of an argument that shows one value in a style. Two colons begin a skeleton. -/
inductive Styled (name : String) : FormattedType → List Char → Element → Prop
  | number {w : List Char} : ¬ [':', ':'] <+: w →
      Styled name .number w (.number name (some (String.ofList w)) none)
  | numberSkeleton (k : List Char) : Styled name .number (':' :: ':' :: k)
      (.number name none (some (NumberOptions.ofSkeleton (trim k))))
  | date {w : List Char} : ¬ [':', ':'] <+: w →
      Styled name .date w (.date name (some (String.ofList w)) none)
  | dateSkeleton (k : List Char) : Styled name .date (':' :: ':' :: k)
      (.date name none (some (String.ofList (trim k))))
  | time {w : List Char} : ¬ [':', ':'] <+: w →
      Styled name .time w (.time name (some (String.ofList w)) none)
  | timeSkeleton (k : List Char) : Styled name .time (':' :: ':' :: k)
      (.time name none (some (String.ofList (trim k))))

/-- What follows the type of an argument that shows one value. -/
inductive StyleEnd (name : String) (type : FormattedType) (s : List Char) :
    Element → List Char → Prop
  | unstyled {t : List Char} : Sign '}' s t → StyleEnd name type s (unstyled name type) t
  | styled {w t : List Char} {e : Element} : Style s w t → Styled name type w e →
      StyleEnd name type s e t

/-- Digits of any script, at least one. -/
def Digits (ds : List Char) : Prop :=
  ds ≠ [] ∧ ∀ c ∈ ds, isDigit c = true

/-- The whole number that digits spell. -/
def digitsValue (ds : List Char) : Nat :=
  ofDigits (ds.filterMap digitValue?)

/-- A minus sign or nothing. -/
def minus (negative : Bool) : List Char :=
  if negative then ['-'] else []

/-- The word `offset`, a colon, and all the digits that stand there, perhaps after a minus sign. -/
def OffsetDigits (s : List Char) (negative : Bool) (ds t : List Char) : Prop :=
  ∃ b : List Char, (∀ c ∈ b, isBlank c = true) ∧
    Blanks s ("offset".toList ++ ':' :: (b ++ (minus negative ++ (ds ++ t)))) ∧
    Digits ds ∧ ∀ c ∈ t.head?, isDigit c = false

/-- The whole number that a sign and digits spell. -/
def signedValue (negative : Bool) (ds : List Char) : Int :=
  if negative then -(digitsValue ds : Int) else digitsValue ds

/-- The offset of a plural argument, with as many digits as `fits` allows. Where the word `offset`
stands, it has to be one. -/
inductive Offset (fits : Nat → Prop) (s : List Char) : Int → List Char → Prop
  | absent : (∀ t, ¬ Blanks s ("offset".toList ++ t)) → Offset fits s 0 s
  | given {negative : Bool} {ds t : List Char} : OffsetDigits s negative ds t → fits ds.length →
      Offset fits s (signedValue negative ds) t

/-- A selector that names a number: an equality sign and a decimal numeral. -/
def ExactSelector (w : List Char) : Prop :=
  ∃ (negative : Bool) (ds places : List Char), Digits ds ∧
    (places = [] ∨ ∃ fs, Digits fs ∧ places = '.' :: fs) ∧ w = '=' :: minus negative ++ ds ++ places

/-- A selector: one that names a number, or another row of characters other than white space and
braces that does not even begin with such a one. -/
def Selector (w : List Char) : Prop :=
  ExactSelector w ∨
    w ≠ [] ∧ (∀ c ∈ w, isSelectorChar c = true) ∧ ∀ u v, ExactSelector u → w ≠ u ++ v

/-- Blanks, a selector, and the brace that opens its option. -/
def Opening (s : List Char) (selector : String) (t : List Char) : Prop :=
  ∃ w u, Selector w ∧ selector = String.ofList w ∧ Blanks s (w ++ u) ∧ Sign '{' u t

/-- Whether an apostrophe before the character begins a literal run. -/
def Quotable (inPlural : Bool) (c : Char) : Prop :=
  c = '{' ∨ c = '}' ∨ inPlural = true ∧ c = '#'

/-- A literal run lasts up to the next lone apostrophe or the end of the template, and a doubled
apostrophe in it is one. -/
inductive Run : List Char → List Char → List Char → Prop
  | unclosed : Run [] [] []
  | closed {s : List Char} : s.head? ≠ some '\'' → Run ('\'' :: s) [] s
  | doubled {s w t : List Char} : Run s w t → Run ('\'' :: '\'' :: s) ('\'' :: w) t
  | char {c : Char} {s w t : List Char} : c ≠ '\'' → Run s w t → Run (c :: s) (c :: w) t

/-- A piece of text and the characters that it stands for. -/
inductive Piece (inPlural : Bool) : List Char → List Char → List Char → Prop
  | char {c : Char} {s : List Char} : c ≠ '\'' → ¬ Quotable inPlural c →
      Piece inPlural (c :: s) [c] s
  | doubled {s : List Char} : Piece inPlural ('\'' :: '\'' :: s) ['\''] s
  | quoted {c : Char} {s w t : List Char} : Quotable inPlural c → Run (c :: s) w t →
      Piece inPlural ('\'' :: c :: s) w t
  | lone {s : List Char} : (∀ c ∈ s.head?, c ≠ '\'' ∧ ¬ Quotable inPlural c) →
      Piece inPlural ('\'' :: s) ['\''] s

section Messages

variable (fits : Nat → Prop)

mutual

/-- The elements of a message up to a closing brace or the end of the template. A number sign counts
directly inside an option of a plural argument. -/
inductive Elements : Bool → List Char → Message → List Char → Prop
  | stop {inPlural : Bool} {s : List Char} : (∀ c ∈ s.head?, c = '}') → Elements inPlural s [] s
  | text {inPlural : Bool} {s w t r : List Char} {m : Message} : Piece inPlural s w t →
      Elements inPlural t m r → Elements inPlural s (addText w m) r
  | pound {s r : List Char} {m : Message} :
      Elements true s m r → Elements true ('#' :: s) (.pound :: m) r
  | argument {inPlural : Bool} {s t r : List Char} {e : Element} {m : Message} : Argument s e t →
      Elements inPlural t m r → Elements inPlural ('{' :: s) (e :: m) r

/-- An argument after its opening brace. -/
inductive Argument : List Char → Element → List Char → Prop
  | plain {s t r : List Char} {name : String} : Name s name t → Sign '}' t r →
      Argument s (.argument name) r
  | typed {s t r : List Char} {name : String} {type : ArgumentType} {e : Element} :
      Typed s name (typeWord type) t → ArgumentEnd name type t e r → Argument s e r

/-- An argument after its type. -/
inductive ArgumentEnd : String → ArgumentType → List Char → Element → List Char → Prop
  | formatted {name : String} {type : FormattedType} {s r : List Char} {e : Element} :
      StyleEnd name type s e r → ArgumentEnd name (.formatted type) s e r
  | plural {name : String} {kind : PluralKind} {s t u v r : List Char} {offset : Int}
      {os : List (String × Message)} : Sign ',' s t → Offset fits t offset u →
      Options true [] u os v → os ≠ [] → Sign '}' v r →
      ArgumentEnd name (.plural kind) s (.plural name kind offset os) r
  | select {name : String} {s t u r : List Char} {os : List (String × Message)} : Sign ',' s t →
      Options false [] t os u → os ≠ [] → Sign '}' u r →
      ArgumentEnd name .select s (.select name os) r

/-- The options of an argument, whose selectors differ from each other and from the ones `seen`. -/
inductive Options : Bool → List String → List Char → List (String × Message) → List Char → Prop
  | none {inPlural : Bool} {seen : List String} {s : List Char} : Options inPlural seen s [] s
  | one {inPlural : Bool} {seen : List String} {s t u r : List Char} {selector : String}
      {m : Message} {os : List (String × Message)} : Opening s selector t → selector ∉ seen →
      Elements inPlural t m ('}' :: u) → Options inPlural (selector :: seen) u os r →
      Options inPlural seen s ((selector, m) :: os) r

end

end Messages

/-- The template is the text of the message. -/
def Derives (template : String) (m : Message) : Prop :=
  Elements (fun _ ↦ True) false template.toList m []

/-- The number of digits that the reader takes in an offset. -/
def Readable (n : Nat) : Prop :=
  n ≤ LongNumeral.limit

mutual

/-- The elements of a message come to an offset that has too many digits, namely `n`. -/
inductive LongOffset : Bool → List Char → Nat → Prop
  | text {inPlural : Bool} {s w t : List Char} {n : Nat} : Piece inPlural s w t →
      LongOffset inPlural t n → LongOffset inPlural s n
  | pound {s : List Char} {n : Nat} : LongOffset true s n → LongOffset true ('#' :: s) n
  | argument {inPlural : Bool} {s t : List Char} {e : Element} {n : Nat} :
      Argument Readable s e t → LongOffset inPlural t n → LongOffset inPlural ('{' :: s) n
  | inArgument {inPlural : Bool} {s : List Char} {n : Nat} : LongOffsetInArgument s n →
      LongOffset inPlural ('{' :: s) n

/-- An argument has an offset with too many digits, or comes to one in an option. -/
inductive LongOffsetInArgument : List Char → Nat → Prop
  | here {s t u ds v : List Char} {name : String} {kind : PluralKind} {negative : Bool} :
      Typed s name (typeWord (.plural kind)) t → Sign ',' t u → OffsetDigits u negative ds v →
      ¬ Readable ds.length → LongOffsetInArgument s ds.length
  | plural {s t u v : List Char} {name : String} {kind : PluralKind} {offset : Int} {n : Nat} :
      Typed s name (typeWord (.plural kind)) t → Sign ',' t u → Offset Readable u offset v →
      LongOffsetInOptions true [] v n → LongOffsetInArgument s n
  | select {s t u : List Char} {name : String} {n : Nat} : Typed s name (typeWord .select) t →
      Sign ',' t u → LongOffsetInOptions false [] u n → LongOffsetInArgument s n

/-- Options come to an offset with too many digits. -/
inductive LongOffsetInOptions : Bool → List String → List Char → Nat → Prop
  | here {inPlural : Bool} {seen : List String} {s t : List Char} {selector : String} {n : Nat} :
      Opening s selector t → selector ∉ seen → LongOffset inPlural t n →
      LongOffsetInOptions inPlural seen s n
  | later {inPlural : Bool} {seen : List String} {s t u : List Char} {selector : String}
      {m : Message} {n : Nat} : Opening s selector t → selector ∉ seen →
      Elements Readable inPlural t m ('}' :: u) →
      LongOffsetInOptions inPlural (selector :: seen) u n → LongOffsetInOptions inPlural seen s n

end

/-- The template comes to an offset of `n` digits, which are too many, and nothing is wrong with it
up to there. -/
def HasLongOffset (template : String) (n : Nat) : Prop :=
  LongOffset false template.toList n

end Phrasebook.Grammar
