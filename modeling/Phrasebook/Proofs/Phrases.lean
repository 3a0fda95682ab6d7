import Phrasebook.Proofs.Passes
import Phrasebook.Proofs.Printing
import Phrasebook.Proofs.Results

/-!
Templates as trees, with the arguments beyond the message format and plurals in short.

A tree is written as a template (`Phrase.print`) and has a meaning of its own (`Phrase.outline`),
in which every phrase is shown by itself: an argument beyond the message format by what it asks
for, and a plural in short as the plural argument that it stands for. `Phrase.WellFormed` says
which trees are written as intended: a branch must not look like the inside of an argument.
-/

set_option autoImplicit false

namespace Phrasebook

open Arithmetic Grammar Message Template Text

/-! ### Trees -/

/-- An argument beyond the message format as it is written. -/
inductive Call
  | currency (code : Option String)
  | compact (display : CompactDisplay)
  | relativeTime (style : Option String)
  | list (kind length : Option String)
  /-- A formatter of the program, perhaps with a style. -/
  | custom (formatter : String) (style : Option String)

/-- A phrase of a template. Branches are rows of phrases under their selectors. -/
inductive Phrase
  | text (s : String)
  /-- The number of the plural argument around it. -/
  | pound
  | argument (name : String)
  | number (name : String) (style : Option String) (options : Option NumberOptions)
  | date (name : String) (style skeleton : Option String)
  | time (name : String) (style skeleton : Option String)
  | call (name : String) (call : Call)
  | shorthand (forms : PluralForms)
  | plural (name : String) (kind : PluralKind) (offset : Int)
      (branches : List (String × List Phrase))
  | select (name : String) (branches : List (String × List Phrase))

/-! ### The printer -/

/-- A space before types, styles, offsets, selectors and the braces of options, and no other blanks.
An offset of zero is not written. -/
def plainLayout : Layout where
  blanks _ place := if place ∈ [2, 4, 6, 8, 9] then [' '] else []
  isSpace_of_mem _ place c hc := by
    split at hc
    · rw [List.mem_singleton.1 hc]
      decide
    · cases hc
  writesZero _ := false

namespace Call

/-- The word for the type. -/
def word : Call → String
  | .currency _ => "currency"
  | .compact .short => "compact"
  | .compact .long => "compactLong"
  | .relativeTime _ => "relativeTime"
  | .list _ _ => "list"
  | .custom formatter _ => formatter

/-- Something that may follow the type after a comma. -/
def detail : Option String → List Char
  | none => []
  | some s => ',' :: ' ' :: s.toList

/-- What follows the type. -/
def details : Call → List Char
  | .currency code => detail code
  | .compact _ => []
  | .relativeTime style => detail style
  | .list kind length => detail kind ++ detail length
  | .custom _ style => detail style

/-- A style without the white space around it, unless nothing is left. -/
def styleOf (style : Option String) : Option String :=
  ((style.map fun s ↦ trim s.toList).filter fun s ↦ !s.isEmpty).map String.ofList

/-- What the argument asks for. The code of a currency counts in upper case. -/
def extension : Call → Extension
  | .currency code => .currency ((code.map upper).getD defaultCurrency)
  | .compact display => .compact display
  | .relativeTime style => .relativeTime (style.getD "long")
  | .list kind length => .list (kind.getD "conjunction") (length.getD "long")
  | .custom formatter style => .custom formatter (styleOf style)

end Call

namespace Template.PluralForms

/-- The forms without the white space around them. -/
def trimmed (f : PluralForms) : PluralForms :=
  let bare (s : String) : String := String.ofList (trim s.toList)
  ⟨f.name, f.zero.map bare, bare f.one, bare f.other⟩

/-- A plural in short between its braces. -/
def text (f : PluralForms) : List Char :=
  f.name.toList ++ ", p, ".toList ++ (f.zero.map fun s ↦ s.toList ++ ['|']).getD [] ++
    f.one.toList ++ '|' :: f.other.toList

end Template.PluralForms

/-- An argument with a type between its braces. -/
def typedInside (name word : String) (details : List Char) : List Char :=
  name.toList ++ ',' :: ' ' :: (word.toList ++ details)

/-- What may follow the type of an argument that shows one value. -/
def styleDetail : Option (List Char) → List Char
  | none => []
  | some style => ',' :: ' ' :: style

namespace Phrase

/-- The text between the braces of a phrase that is one group. -/
def inside? : Phrase → Option (List Char)
  | .argument name => some name.toList
  | .number name style options => some <| typedInside name "number" <|
      styleDetail (styleText style (options.map NumberOptions.skeleton))
  | .date name style skeleton => some <| typedInside name "date" <|
      styleDetail (styleText style (skeleton.map String.toList))
  | .time name style skeleton => some <| typedInside name "time" <|
      styleDetail (styleText style (skeleton.map String.toList))
  | .call name c => some (typedInside name c.word c.details)
  | .shorthand forms => some forms.text
  | .text _ | .pound | .plural .. | .select .. => none

/-- An argument with branches between its brace and the first branch. -/
def head (name : String) (type : ArgumentType) (offset : List Char) : List Char :=
  typedInside name (typeWord type) (',' :: offset)

/-- Whether a phrase has no braces. -/
def isFlat : Phrase → Bool
  | .text _ | .pound => true
  | _ => false

mutual

/-- The text of a phrase. -/
def chars : Phrase → List Char
  | .text s => s.toList
  | .pound => ['#']
  | .plural name kind offset branches =>
    '{' :: (head name (.plural kind) (offsetPart plainLayout offset
      (branches.map fun b ↦ (b.1, []))) ++ (branchesChars branches ++ ['}']))
  | .select name branches => '{' :: (head name .select [] ++ (branchesChars branches ++ ['}']))
  | p => '{' :: ((inside? p).getD [] ++ ['}'])

/-- The text of a row of phrases. -/
def rowChars : List Phrase → List Char
  | [] => []
  | p :: ps => chars p ++ rowChars ps

/-- The text of branches, with a space before every selector and every brace. -/
def branchesChars : List (String × List Phrase) → List Char
  | [] => []
  | (selector, ps) :: bs =>
    ' ' :: (selector.toList ++ ' ' :: '{' :: (rowChars ps ++ '}' :: branchesChars bs))

end

/-- The template of a tree. -/
def print (ps : List Phrase) : String :=
  String.ofList (rowChars ps)

/-! ### The meaning of trees -/

/-- A plural argument is shown as one of its branches, which depend on the lowered number. -/
def pluralOutline (scene : Scene) (name : String) (kind : PluralKind) (offset : Int)
    (branches : Number → List (String × Outline)) : Outline :=
  scene.withValue name fun v ↦ Scene.orHole name v.number? fun n ↦
    match n.lower offset with
    | .error f => [.fault (.number f)]
    | .ok lowered =>
      match Plural.branch? (branches lowered) n lowered scene.locale kind scene.book with
      | .error f => [.fault (.number f)]
      | .ok branch => branch.getD [.hole name]

/-- A plural in short is shown as its form for zero, or as the number and one of the other forms. -/
def shorthandOutline (scene : Scene) (f : PluralForms) : Outline :=
  pluralOutline scene f.name .cardinal 0 fun number ↦
    (f.zero.map fun s ↦ ("=0", [.text .template s])).toList ++
      [("one", [Scene.shown (.number number), .text .template (" " ++ f.one)]),
        ("other", [Scene.shown (.number number), .text .template (" " ++ f.other)])]

mutual

/-- The outline of a phrase; `pound` is the number around it. -/
def outline (scene : Scene) (pound : Option Value) : Phrase → Outline
  | .text s => [.text .template s]
  | .pound => [(pound.map Scene.shown).getD (.text .template "#")]
  | .argument name => scene.withValue name (Scene.plain name)
  | .number name style options => scene.number name style options
  | .date name style skeleton =>
    scene.moment name fun v locale book ↦ Format.date v locale style skeleton book
  | .time name style skeleton =>
    scene.moment name fun v locale book ↦ Format.time v locale style skeleton book
  | .call name c => scene.extension ⟨name, c.extension⟩
  | .shorthand forms => shorthandOutline scene forms.trimmed
  | .plural name kind offset branches =>
    pluralOutline scene name kind offset fun number ↦
      branchOutlines scene (some (.number number)) branches
  | .select name branches => scene.withValue name fun v ↦
    Scene.selected name (branchOutlines scene none branches) v

/-- The outline of a row of phrases. -/
def rowOutline (scene : Scene) (pound : Option Value) : List Phrase → Outline
  | [] => []
  | p :: ps => outline scene pound p ++ rowOutline scene pound ps

/-- The outlines of branches. -/
def branchOutlines (scene : Scene) (pound : Option Value) :
    List (String × List Phrase) → List (String × Outline)
  | [] => []
  | (selector, ps) :: bs =>
    (selector, rowOutline scene pound ps) :: branchOutlines scene pound bs

end

/-! ### Trees that can be written -/

/-- A word of word characters. -/
def IsWordName (name : String) : Prop :=
  name.toList ≠ [] ∧ ∀ c ∈ name.toList, isWord c = true

instance (name : String) : Decidable (IsWordName name) := by
  unfold IsWordName
  infer_instance

theorem IsWordName.exists_cons {name : String} (h : IsWordName name) :
    ∃ d u, name.toList = d :: u ∧ isWord d = true := by
  obtain ⟨hne, hw⟩ := h
  obtain ⟨d, u, hd⟩ := List.exists_cons_of_ne_nil hne
  exact ⟨d, u, hd, hw d (by rw [hd]; exact List.mem_cons_self)⟩

theorem IsWordName.head {name : String} (h : IsWordName name) (s : List Char) :
    ∀ c ∈ (name.toList ++ s).head?, isWord c = true := by
  obtain ⟨d, u, hd, hword⟩ := h.exists_cons
  intro c hc
  rw [hd] at hc
  rwa [← Option.mem_some.1 hc]

theorem IsWordName.head_blank {name : String} (h : IsWordName name) (s : List Char) :
    ∀ c ∈ (name.toList ++ s).head?, isBlank c = false :=
  fun c hc ↦ isBlank_eq_false_of_isWord (h.head s c hc)

theorem isWordName_token (kind : Template.PlaceholderKind) (n : Nat) :
    IsWordName (kind.token n) := by
  refine ⟨?_, kind.isWord_of_mem_token n⟩
  rw [kind.toList_token]
  exact List.cons_ne_nil _ _

/-- Formatters have words for names, and none that means something else. -/
def AreFormatters (names : List String) : Prop :=
  ∀ n ∈ names, IsWordName n ∧ n ∉ Roster.reservedNames

theorem AreFormatters.braceFree {names : List String} (h : AreFormatters names) :
    ∀ name ∈ names, BraceFree name.toList :=
  fun name hname ↦ braceFree_of_isWord (h name hname).1.2

/-- Between braces the text is no plural in short and no argument beyond the message format. -/
def IsUntouched (names : List String) (v : List Char) : Prop :=
  Template.shorthand.found? v = none ∧ firstFound (passes names) v = none

/-- The details of a call are what its type allows. -/
def CallWellFormed (names : List String) : Call → Prop
  | .currency code => ∀ s ∈ code, s.toList.length = 3 ∧ ∀ c ∈ s.toList, isLetter c = true
  | .compact _ => True
  | .relativeTime style => ∀ s ∈ style, s ∈ lengthWords
  | .list kind length =>
    (∀ s ∈ kind, s ∈ ["conjunction", "disjunction", "unit"]) ∧ ∀ s ∈ length, s ∈ lengthWords
  | .custom formatter style => formatter ∈ names ∧ ∀ s ∈ style, BraceFree s.toList

theorem isWordName_word {names : List String} {c : Call} (hnames : AreFormatters names)
    (h : CallWellFormed names c) : IsWordName c.word := by
  cases c with
  | currency code => exact (by decide : IsWordName "currency")
  | compact display => cases display <;> decide
  | relativeTime style => exact (by decide : IsWordName "relativeTime")
  | list kind length => exact (by decide : IsWordName "list")
  | custom formatter style => exact (hnames _ h.1).1

/-- A text that is no syntax. -/
def IsPlainText (inPlural : Bool) (s : List Char) : Prop :=
  ∀ c ∈ s, c ≠ '\'' ∧ ¬ Quotable inPlural c

instance (inPlural : Bool) (s : List Char) : Decidable (IsPlainText inPlural s) :=
  inferInstanceAs (Decidable (∀ c ∈ s, c ≠ '\'' ∧ ¬ Quotable inPlural c))

/-- A form of a plural in short. -/
def IsForm (s : String) : Prop :=
  IsPlainText true s.toList ∧ '|' ∉ s.toList

mutual

/-- A phrase is read as it was meant. -/
def WellFormed (names : List String) (inPlural : Bool) : Phrase → Prop
  | .text s => IsPlainText inPlural s.toList
  | .pound => inPlural = true
  | .argument name => IsWordName name ∧ hasPlaceholderForm name = false
  | .number name style options => IsWordName name ∧
      ElementWellFormed inPlural (.number name style options)
  | .date name style skeleton => IsWordName name ∧
      ElementWellFormed inPlural (.date name style skeleton)
  | .time name style skeleton => IsWordName name ∧
      ElementWellFormed inPlural (.time name style skeleton)
  | .call name c => IsWordName name ∧ CallWellFormed names c
  | .shorthand f => IsWordName f.name ∧
      (∀ s ∈ f.zero, IsForm s ∧ IsUntouched names (trim s.toList)) ∧ IsForm f.one ∧ IsForm f.other
  | .plural name _ _ branches => IsWordName name ∧ branches ≠ [] ∧
      (branches.map Prod.fst).Nodup ∧ BranchesWellFormed names true branches
  | .select name branches => IsWordName name ∧ branches ≠ [] ∧
      (branches.map Prod.fst).Nodup ∧ BranchesWellFormed names false branches

def RowWellFormed (names : List String) (inPlural : Bool) : List Phrase → Prop
  | [] => True
  | p :: ps => WellFormed names inPlural p ∧ RowWellFormed names inPlural ps

/-- The selectors are valid, and no branch without braces looks like the inside of an argument. -/
def BranchesWellFormed (names : List String) (inPlural : Bool) :
    List (String × List Phrase) → Prop
  | [] => True
  | (selector, ps) :: bs => Selector selector.toList ∧ RowWellFormed names inPlural ps ∧
      (ps.all isFlat = true → IsUntouched names (rowChars ps)) ∧
      BranchesWellFormed names inPlural bs

end

/-! ### Offsets -/

mutual

/-- The numbers of digits of the offsets in a phrase, in the order of the template. A plural in
short has an offset of zero, with one digit. -/
def offsets : Phrase → List Nat
  | .plural _ _ offset branches => (digits offset.natAbs).length :: branchOffsets branches
  | .select _ branches => branchOffsets branches
  | .shorthand _ => [1]
  | _ => []

def rowOffsets : List Phrase → List Nat
  | [] => []
  | p :: ps => offsets p ++ rowOffsets ps

def branchOffsets : List (String × List Phrase) → List Nat
  | [] => []
  | (_, ps) :: bs => rowOffsets ps ++ branchOffsets bs

end

end Phrase

end Phrasebook
