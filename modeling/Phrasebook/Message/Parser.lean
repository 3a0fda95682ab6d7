import Phrasebook.Message.Basic
import Phrasebook.Message.Skeleton
import Phrasebook.Message.SyntaxError
import Phrasebook.Decimal.Numeral

/-!
# Reading messages

The reader walks down the template and hands on what is left of it, so a place in the template is
known by the number of characters that remain. Every step leaves no more than it was given, which
bounds the recursion. Words of number skeletons that are not known are collected on the way, also
when the template turns out not to be a message.

The grammar, where blanks are spaces, tabs and line ends:

* a message is a row of texts, number signs and arguments in braces;
* an argument is a name, optionally followed by a comma and a type: `number`, `date` or `time` with
  an optional style, `plural` or `selectordinal` with an optional offset and options, `select` with
  options;
* an option is a selector and a message in braces;
* a number sign counts only directly inside an option of `plural` and `selectordinal`;
* a doubled apostrophe is an apostrophe, and an apostrophe before a brace (or before a number sign
  that counts) begins a literal run up to the next lone apostrophe; other apostrophes are
  themselves.
-/

set_option autoImplicit false

namespace Phrasebook

open Text

namespace Message

/-- White space between the parts of an argument. -/
def isSpace (c : Char) : Bool :=
  c == ' ' || c == '\t' || c == '\r' || c == '\n'

/-- A character that a name may have. -/
def isNameChar (c : Char) : Bool :=
  !isBlank c && !(['{', '}', '#', ',', '\'', '|'].contains c)

/-- A character that a selector may have. -/
def isSelectorChar (c : Char) : Bool :=
  !isBlank c && c != '{' && c != '}'

/-- Why reading fails. -/
inductive Cause
  | notMessage (reason : SyntaxReason)
  | longOffset (fault : LongNumeral)
  deriving DecidableEq, Repr

/-- Where reading failed and why, and the skeleton words passed over before. -/
structure Failure where
  cause : Cause
  /-- How many characters were left. -/
  remaining : Nat
  passedOver : List String
  deriving DecidableEq, Repr

/-- What was read from the start of `s`, what is left, and the skeleton words passed over. -/
structure Parsed (s : List Char) (α : Type) where
  value : α
  rest : List Char
  passedOver : List String
  le : rest.length ≤ s.length

/-- The outcome of reading from the start of `s`. -/
abbrev Outcome (s : List Char) (α : Type) := Except Failure (Parsed s α)

/-- A failure at a place, without skeleton words before it. -/
def fail {s : List Char} {α : Type} (reason : SyntaxReason) (left : List Char) : Outcome s α :=
  .error ⟨.notMessage reason, left.length, []⟩

/-- A failure after further skeleton words were passed over. -/
def Failure.after (f : Failure) (passedOver : List String) : Failure :=
  { f with passedOver := passedOver ++ f.passedOver }

/-- The text without the white space at its start. -/
def skipSpace (s : List Char) : List Char :=
  s.dropWhile isSpace

theorem length_dropWhile_le (p : Char → Bool) (s : List Char) : (s.dropWhile p).length ≤ s.length :=
  (List.dropWhile_sublist p).length_le

theorem length_skipSpace_le (s : List Char) : (skipSpace s).length ≤ s.length :=
  length_dropWhile_le isSpace s

/-- The literal run after an opening apostrophe, up to the next lone apostrophe or the end. -/
def takeRun : List Char → List Char × List Char
  | [] => ([], [])
  | '\'' :: '\'' :: s => let r := takeRun s; ('\'' :: r.1, r.2)
  | '\'' :: s => ([], s)
  | c :: s => let r := takeRun s; (c :: r.1, r.2)

/-- The text that an apostrophe stands for, given what follows it. -/
def takeApostrophe (inPlural : Bool) : List Char → List Char × List Char
  | '\'' :: s => (['\''], s)
  | '{' :: s => takeRun ('{' :: s)
  | '}' :: s => takeRun ('}' :: s)
  | '#' :: s => if inPlural then takeRun ('#' :: s) else (['\''], '#' :: s)
  | s => (['\''], s)

theorem length_takeRun_le (s : List Char) : (takeRun s).2.length ≤ s.length := by
  fun_induction takeRun s <;> grind

theorem length_takeApostrophe_le (inPlural : Bool) (s : List Char) :
    (takeApostrophe inPlural s).2.length ≤ s.length := by
  unfold takeApostrophe
  split
  · simp
  · exact length_takeRun_le _
  · exact length_takeRun_le _
  · split
    · exact length_takeRun_le _
    · simp
  · simp

/-- Skips white space and then the character `c`. -/
def expect (c : Char) (s : List Char) : Except Failure { r : List Char // r.length < s.length } :=
  match h : skipSpace s with
  | d :: r =>
    if d = c then
      .ok ⟨r, by
        have := length_skipSpace_le s
        simp only [h, List.length_cons] at this
        omega⟩
    else .error ⟨.notMessage (.expected c (some d)), (d :: r).length, []⟩
  | [] => .error ⟨.notMessage (.expected c none), 0, []⟩

/-- A minus sign at the start of a text, if there is one, and the rest. -/
def takeMinus : List Char → List Char × List Char
  | '-' :: s => (['-'], s)
  | s => ([], s)

theorem takeMinus_append (s : List Char) : (takeMinus s).1 ++ (takeMinus s).2 = s := by
  unfold takeMinus
  split <;> simp

/-- The digits at the start of a text as they are written, if there are any, and the rest. -/
def takeDigitChars? (s : List Char) : Option (List Char × List Char) :=
  if (s.takeWhile isDigit).isEmpty then none else some (s.takeWhile isDigit, s.dropWhile isDigit)

theorem takeDigitChars?_append {s : List Char} {w : List Char × List Char}
    (h : takeDigitChars? s = some w) : w.1 ++ w.2 = s := by
  unfold takeDigitChars? at h
  split at h
  · simp at h
  · simp only [Option.some.injEq] at h
    subst h
    exact List.takeWhile_append_dropWhile

/-- A point followed by digits at the start of a text, or nothing, and the rest. -/
def takeFraction : List Char → List Char × List Char
  | '.' :: s =>
    match takeDigitChars? s with
    | some w => ('.' :: w.1, w.2)
    | none => ([], '.' :: s)
  | s => ([], s)

theorem takeFraction_append (s : List Char) : (takeFraction s).1 ++ (takeFraction s).2 = s := by
  unfold takeFraction
  split
  · split
    · rename_i w h
      simp [← takeDigitChars?_append h]
    · simp
  · simp

/-- An equality sign and a number at the start of a text, if they stand there, and the rest. -/
def takeExact? : List Char → Option (List Char × List Char)
  | '=' :: s =>
    (takeDigitChars? (takeMinus s).2).map fun w ↦
      ('=' :: (takeMinus s).1 ++ w.1 ++ (takeFraction w.2).1, (takeFraction w.2).2)
  | _ => none

theorem takeExact?_append {s : List Char} {w : List Char × List Char} (h : takeExact? s = some w) :
    w.1 ++ w.2 = s := by
  unfold takeExact? at h
  split at h
  · rename_i t
    obtain ⟨u, hu, rfl⟩ := Option.map_eq_some_iff.1 h
    have hd := takeDigitChars?_append hu
    simp only [List.append_assoc, List.cons_append, takeFraction_append, hd, takeMinus_append]
  · simp at h

/-- The selector of an option: an exact number such as `=-1.5` if one stands there, or else all
characters up to a blank or brace. -/
def takeSelector (s : List Char) : List Char × List Char :=
  (takeExact? s).getD (s.takeWhile isSelectorChar, s.dropWhile isSelectorChar)

/-- The selector is cut off the text. -/
theorem takeSelector_append (s : List Char) : (takeSelector s).1 ++ (takeSelector s).2 = s := by
  unfold takeSelector
  cases h : takeExact? s with
  | none => exact List.takeWhile_append_dropWhile
  | some w => exact takeExact?_append h

theorem length_takeSelector_le (s : List Char) : (takeSelector s).2.length ≤ s.length := by
  have := congrArg List.length (takeSelector_append s)
  simp only [List.length_append] at this
  omega

/-- The offset of a plural argument, which stands before its options; nothing stands for zero. -/
def takeOffset (s : List Char) : Except Failure (Int × { r : List Char // r.length ≤ s.length }) :=
  match after? "offset".toList s with
  | none => .ok (0, ⟨s, Nat.le_refl _⟩)
  | some t =>
    let fault : Failure := ⟨.notMessage .invalidOffset, s.length, []⟩
    match t with
    | ':' :: t =>
      let w := takeMinus (t.dropWhile isBlank)
      let ds := w.2.takeWhile isDigit
      match LongNumeral.check ds, readInt? (w.1 ++ ds) with
      | .error f, _ => .error ⟨.longOffset f, s.length, []⟩
      | .ok _, some n =>
        let r := w.2.dropWhile isDigit
        if h : r.length ≤ s.length then .ok (n, ⟨r, h⟩) else .error fault
      | .ok _, none => .error fault
    | _ => .error fault

/-- The types of arguments that show one value in a style. -/
inductive FormattedType
  | number
  | date
  | time
  deriving DecidableEq, Repr

/-- A formatted argument from its type and the style it was given, with the skeleton words passed
over. A style that begins with two colons is a skeleton. -/
def formatted (name : String) (type : FormattedType) (style : Option (List Char)) :
    Element × List String :=
  let skeleton := style.bind fun t ↦ (after? [':', ':'] t).map trim
  let style := if skeleton.isSome then none else style.map String.ofList
  match type with
  | .number =>
    match skeleton with
    | some t =>
      (.number name none (some (NumberOptions.ofSkeleton t)), NumberOptions.unknownWords t)
    | none => (.number name style none, [])
  | .date => (.date name style (skeleton.map String.ofList), [])
  | .time => (.time name style (skeleton.map String.ofList), [])

/-- Reads what follows the type of a formatted argument: an optional style, which is everything up
to the next closing brace, and that brace. -/
def parseStyle (name : String) (type : FormattedType) (s : List Char) : Outcome s Element :=
  match h : skipSpace s with
  | ',' :: t =>
    let style := trim (t.takeWhile (· ≠ '}'))
    match h' : t.dropWhile (· ≠ '}') with
    | [] => fail .unterminated []
    | _ :: rest =>
      if style.contains '{' then fail .braceInStyle t
      else if style.isEmpty then fail .noStyle t
      else
        let e := formatted name type (some style)
        .ok ⟨e.1, rest, e.2, by
          have h1 := length_skipSpace_le s
          have h2 := length_dropWhile_le (· ≠ '}') t
          rw [h] at h1
          rw [h'] at h2
          simp only [List.length_cons] at h1 h2
          omega⟩
  | _ =>
    match expect '}' s with
    | .error f => .error f
    | .ok r =>
      let e := formatted name type none
      .ok ⟨e.1, r.1, e.2, Nat.le_of_lt r.2⟩

/-- The type of an argument by its word. -/
inductive ArgumentType
  | formatted (type : FormattedType)
  | plural (kind : PluralKind)
  | select
  deriving DecidableEq, Repr

def ArgumentType.ofWord? (w : String) : Option ArgumentType :=
  if w = "number" then some (.formatted .number)
  else if w = "date" then some (.formatted .date)
  else if w = "time" then some (.formatted .time)
  else if w = "plural" then some (.plural .cardinal)
  else if w = "selectordinal" then some (.plural .ordinal)
  else if w = "select" then some .select
  else none

mutual

/-- Reads a message. One that is `nested` ends before the brace that closes its option. -/
def parseMessage (inPlural nested : Bool) (s : List Char) : Outcome s Message :=
  match s with
  | [] => .ok ⟨[], [], [], Nat.le_refl _⟩
  | c :: s =>
    if c = '{' then
      match parseArgument s with
      | .error f => .error f
      | .ok e =>
        have := e.le
        match parseMessage inPlural nested e.rest with
        | .error f => .error (f.after e.passedOver)
        | .ok m => .ok ⟨e.value :: m.value, m.rest, e.passedOver ++ m.passedOver, by
            have := m.le
            simp only [List.length_cons]
            omega⟩
    else if c = '}' then
      if nested then .ok ⟨[], c :: s, [], Nat.le_refl _⟩ else fail .unmatchedBrace (c :: s)
    else if c = '#' ∧ inPlural = true then
      match parseMessage inPlural nested s with
      | .error f => .error f
      | .ok m => .ok ⟨.pound :: m.value, m.rest, m.passedOver, Nat.le_succ_of_le m.le⟩
    else if c = '\'' then
      have := length_takeApostrophe_le inPlural s
      match parseMessage inPlural nested (takeApostrophe inPlural s).2 with
      | .error f => .error f
      | .ok m => .ok ⟨addText (takeApostrophe inPlural s).1 m.value, m.rest, m.passedOver, by
          have := m.le
          simp only [List.length_cons]
          omega⟩
    else
      match parseMessage inPlural nested s with
      | .error f => .error f
      | .ok m => .ok ⟨addText [c] m.value, m.rest, m.passedOver, Nat.le_succ_of_le m.le⟩
termination_by s.length

/-- Reads an argument after its opening brace. -/
def parseArgument (s : List Char) : Outcome s Element :=
  let s₁ := skipSpace s
  have h₁ : s₁.length ≤ s.length := length_skipSpace_le s
  let name := s₁.takeWhile isNameChar
  let s₂ := s₁.dropWhile isNameChar
  have h₂ : s₂.length ≤ s₁.length := length_dropWhile_le _ _
  if name.isEmpty then fail .noArgumentName s₁
  else match expect '}' s₂ with
  | .ok r => .ok ⟨.argument (String.ofList name), r.1, [], by have := r.2; omega⟩
  | .error _ =>
    match expect ',' s₂ with
    | .error f => .error f
    | .ok r =>
      have := r.2
      let s₃ := skipSpace r.1
      have h₃ : s₃.length ≤ r.1.length := length_skipSpace_le r.1
      let word := s₃.takeWhile isLetter
      let s₄ := s₃.dropWhile isLetter
      have h₄ : s₄.length ≤ s₃.length := length_dropWhile_le _ _
      if word.isEmpty then fail .noArgumentType s₃
      else match ArgumentType.ofWord? (String.ofList word) with
      | none => fail (.unknownType (String.ofList word)) s₃
      | some (.formatted type) =>
        match parseStyle (String.ofList name) type s₄ with
        | .error f => .error f
        | .ok e => .ok ⟨e.value, e.rest, e.passedOver, by have := e.le; omega⟩
      | some (.plural kind) =>
        match expect ',' s₄ with
        | .error f => .error f
        | .ok r₅ =>
          have := r₅.2
          have := length_skipSpace_le r₅.1
          match takeOffset (skipSpace r₅.1) with
          | .error f => .error f
          | .ok (offset, r₆) =>
            have := r₆.2
            match parseOptions true [] r₆.1 with
            | .error f => .error f
            | .ok os =>
              have := os.le
              match expect '}' os.rest with
              | .error f => .error (f.after os.passedOver)
              | .ok r₇ =>
                let e := .plural (String.ofList name) kind offset os.value
                .ok ⟨e, r₇.1, os.passedOver, by have := r₇.2; omega⟩
      | some .select =>
        match expect ',' s₄ with
        | .error f => .error f
        | .ok r₅ =>
          have := r₅.2
          match parseOptions false [] r₅.1 with
          | .error f => .error f
          | .ok os =>
            have := os.le
            match expect '}' os.rest with
            | .error f => .error (f.after os.passedOver)
            | .ok r₆ => .ok ⟨.select (String.ofList name) os.value, r₆.1, os.passedOver,
                by have := r₆.2; omega⟩
termination_by s.length

/-- Reads the options of an argument up to the brace that closes it. The selectors read before are
`seen`. -/
def parseOptions (inPlural : Bool) (seen : List String) (s : List Char) :
    Outcome s (List (String × Message)) :=
  let s₁ := skipSpace s
  have h₁ : s₁.length ≤ s.length := length_skipSpace_le s
  if s₁.head? = none ∨ s₁.head? = some '}' then
    if seen.isEmpty then fail .noOption s₁ else .ok ⟨[], s₁, [], h₁⟩
  else
    let selector := String.ofList (takeSelector s₁).1
    let s₂ := (takeSelector s₁).2
    have h₂ : s₂.length ≤ s₁.length := length_takeSelector_le s₁
    if (takeSelector s₁).1.isEmpty then fail .noSelector s₁
    else if seen.contains selector then fail (.duplicateSelector selector) s₂
    else match expect '{' s₂ with
    | .error f => .error f
    | .ok r₃ =>
      have := r₃.2
      match parseMessage inPlural true r₃.1 with
      | .error f => .error f
      | .ok m =>
        have := m.le
        match expect '}' m.rest with
        | .error f => .error (f.after m.passedOver)
        | .ok r₄ =>
          have := r₄.2
          match parseOptions inPlural (selector :: seen) r₄.1 with
          | .error f => .error (f.after m.passedOver)
          | .ok os =>
            let options := (selector, m.value) :: os.value
            .ok ⟨options, os.rest, m.passedOver ++ os.passedOver, by have := os.le; omega⟩
termination_by s.length

end

/-- What reading a template gave: a message or a fault, and the skeleton words passed over. -/
structure Reading where
  result : Except TemplateFault Message
  passedOver : List String

/-- The fault of a template that gives rise to a failure. -/
def Failure.inTemplate (f : Failure) (template : String) : TemplateFault :=
  match f.cause with
  | .notMessage reason => .notMessage ⟨reason, template.length - f.remaining, template⟩
  | .longOffset fault => .longOffset fault

/-- Reads a template. -/
def read (template : String) : Reading :=
  let s := template.toList
  match parseMessage false false s with
  | .ok m => ⟨.ok m.value, m.passedOver⟩
  | .error f => ⟨.error (f.inTemplate template), f.passedOver⟩

/-- The message that a template is. -/
def parse (template : String) : Except TemplateFault Message :=
  (read template).result

end Message

end Phrasebook
