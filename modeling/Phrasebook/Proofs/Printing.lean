import Phrasebook.Proofs.Grammar
import Phrasebook.Proofs.Skeletons

/-!
Messages written out as templates.

A layout puts blanks around the names, commas, types, selectors and braces of an argument, other
blanks at every place. In a text every apostrophe is doubled, and from the first character that
would count as syntax to the end the text is quoted (`literalText`); whether a number sign counts
depends on the branch. An offset is written with a blank after it, and a layout may leave one of
zero out. Number options are written as the skeleton of `NumberOptions.skeleton`.

`MessageWellFormed` says which messages are written so that they can be read back, and
`offsetLengths` lists the numbers of digits of the offsets in the order in which they stand in the
template.
-/

set_option autoImplicit false

namespace Phrasebook.Grammar

open Arithmetic Text Message

/-! ### Layouts -/

/-- Blanks for the places of a template. A place is known by the way to its part of the message and
a number in that part. -/
structure Layout where
  blanks : List Nat → Nat → List Char
  isSpace_of_mem : ∀ way place, ∀ c ∈ blanks way place, isSpace c = true
  /-- Whether an offset of zero is written. -/
  writesZero : List Nat → Bool

namespace Layout

/-- The blanks at a place of the part at hand. -/
def spaces (layout : Layout) (place : Nat) : List Char :=
  layout.blanks [] place

/-- The layout of an inner part. -/
def inner (layout : Layout) (part : Nat) : Layout :=
  ⟨fun way ↦ layout.blanks (part :: way), fun way ↦ layout.isSpace_of_mem (part :: way),
    fun way ↦ layout.writesZero (part :: way)⟩

end Layout

/-! ### The printer -/

instance (inPlural : Bool) (c : Char) : Decidable (Quotable inPlural c) := by
  unfold Quotable
  infer_instance

/-- The text with its apostrophes doubled. -/
def doubled (s : List Char) : List Char :=
  s.flatMap fun c ↦ if c = '\'' then ['\'', '\''] else [c]

theorem doubled_eq_self {s : List Char} (h : '\'' ∉ s) : doubled s = s := by
  induction s with
  | nil => rfl
  | cons c s ih =>
    rw [List.mem_cons, not_or] at h
    rw [doubled, List.flatMap_cons, if_neg (Ne.symm h.1)]
    exact congrArg (c :: ·) (ih h.2)

/-- A text as it stands in a template: quoted from the first character that would be syntax. -/
def literalText (inPlural : Bool) (s : List Char) : List Char :=
  let plain := s.takeWhile fun c ↦ !decide (Quotable inPlural c)
  let quoted := s.dropWhile fun c ↦ !decide (Quotable inPlural c)
  doubled plain ++ if quoted = [] then [] else '\'' :: (doubled quoted ++ ['\''])

/-- A written offset. -/
def offsetText (offset : Int) : List Char :=
  "offset".toList ++ ':' :: (minus (decide (offset < 0)) ++ digits offset.natAbs)

/-- The first selector could be taken for an offset. -/
def looksLikeOffset (os : List (String × Message)) : Bool :=
  (os.head?.map fun o ↦ "offset".toList.isPrefixOf o.1.toList).getD false

/-- Whether a layout writes an offset: always, but for one of zero that it may leave out where
nothing else could be taken for an offset. -/
def writesOffset (layout : Layout) (offset : Int) (os : List (String × Message)) : Bool :=
  offset != 0 || layout.writesZero [] || looksLikeOffset os

/-- The offset of an argument and what stands around it. A blank has to follow it. -/
def offsetPart (layout : Layout) (offset : Int) (os : List (String × Message)) : List Char :=
  if writesOffset layout offset os then
    layout.spaces 6 ++ offsetText offset ++ if (layout.inner 0).spaces 8 = [] then [' '] else []
  else []

/-- The name of an argument, after the opening brace. -/
def nameText (layout : Layout) (name : String) : List Char :=
  layout.spaces 0 ++ name.toList ++ layout.spaces 1

/-- The name and the type of an argument, after the opening brace. -/
def typedText (layout : Layout) (name : String) (type : ArgumentType) : List Char :=
  nameText layout name ++ ',' :: (layout.spaces 2 ++ (typeWord type).toList ++ layout.spaces 3)

/-- An argument that shows one value, perhaps in a style. -/
def formattedText (layout : Layout) (name : String) (type : FormattedType) :
    Option (List Char) → List Char
  | none => '{' :: (typedText layout name (.formatted type) ++ ['}'])
  | some style => '{' :: (typedText layout name (.formatted type) ++
      ',' :: (layout.spaces 4 ++ style ++ layout.spaces 5 ++ ['}']))

/-- The style of an argument: a style proper, or a skeleton after two colons. -/
def styleText (style : Option String) (skeleton : Option (List Char)) : Option (List Char) :=
  match skeleton with
  | some skeleton => some (':' :: ':' :: skeleton)
  | none => style.map String.toList

mutual

/-- The text of an element. -/
def elementText (layout : Layout) (inPlural : Bool) : Element → List Char
  | .literal s => literalText inPlural s.toList
  | .argument name => '{' :: (nameText layout name ++ ['}'])
  | .pound => ['#']
  | .plural name kind offset os => '{' :: (typedText layout name (.plural kind) ++
      ',' :: (offsetPart layout offset os ++ optionsText (layout.inner 0) true os ++ ['}']))
  | .select name os => '{' :: (typedText layout name .select ++
      ',' :: (optionsText (layout.inner 0) false os ++ ['}']))
  | .number name style options =>
    formattedText layout name .number (styleText style (options.map NumberOptions.skeleton))
  | .date name style skeleton =>
    formattedText layout name .date (styleText style (skeleton.map String.toList))
  | .time name style skeleton =>
    formattedText layout name .time (styleText style (skeleton.map String.toList))
  | .foreign _ => []

/-- The text of a message. -/
def messageText (layout : Layout) (inPlural : Bool) : Message → List Char
  | [] => []
  | e :: m => elementText (layout.inner 0) inPlural e ++ messageText (layout.inner 1) inPlural m

/-- The text of options, up to the brace that closes their argument. -/
def optionsText (layout : Layout) (inPlural : Bool) : List (String × Message) → List Char
  | [] => layout.spaces 7
  | (selector, m) :: os => layout.spaces 8 ++ selector.toList ++ layout.spaces 9 ++
      '{' :: (messageText (layout.inner 0) inPlural m ++
        '}' :: optionsText (layout.inner 1) inPlural os)

end

/-- The template of a message in a layout. -/
def print (layout : Layout) (m : Message) : String :=
  String.ofList (messageText layout false m)

/-! ### Messages that can be written -/

/-- A name as it can stand in a template. -/
def IsName (name : String) : Prop :=
  name.toList ≠ [] ∧ ∀ c ∈ name.toList, isNameChar c = true

/-- A style that is none of a skeleton. -/
def IsStyle (style : String) : Prop :=
  style.toList ≠ [] ∧ trim style.toList = style.toList ∧ BraceFree style.toList ∧
    ¬ [':', ':'] <+: style.toList

def IsSkeleton (skeleton : String) : Prop :=
  trim skeleton.toList = skeleton.toList ∧ BraceFree skeleton.toList

/-- Options that some skeleton without braces asks for. -/
def IsRequested (options : NumberOptions) : Prop :=
  ∃ skeleton : List Char, BraceFree skeleton ∧ options = NumberOptions.ofSkeleton skeleton

mutual

/-- An element has a template. A number sign stands only directly inside an option of a plural
argument, and an argument has a style or a skeleton but not both. -/
def ElementWellFormed (inPlural : Bool) : Element → Prop
  | .literal s => s ≠ ""
  | .argument name => IsName name
  | .pound => inPlural = true
  | .plural name _ _ os => IsName name ∧ os ≠ [] ∧ (os.map Prod.fst).Nodup ∧
      OptionsWellFormed true os
  | .select name os => IsName name ∧ os ≠ [] ∧ (os.map Prod.fst).Nodup ∧
      OptionsWellFormed false os
  | .number name style options => IsName name ∧ (∀ s ∈ style, IsStyle s) ∧
      (∀ o ∈ options, IsRequested o) ∧ (style = none ∨ options = none)
  | .date name style skeleton => IsName name ∧ (∀ s ∈ style, IsStyle s) ∧
      (∀ s ∈ skeleton, IsSkeleton s) ∧ (style = none ∨ skeleton = none)
  | .time name style skeleton => IsName name ∧ (∀ s ∈ style, IsStyle s) ∧
      (∀ s ∈ skeleton, IsSkeleton s) ∧ (style = none ∨ skeleton = none)
  | .foreign _ => False

/-- Every element has a template, and no two texts stand next to each other. -/
def MessageWellFormed (inPlural : Bool) : Message → Prop
  | [] => True
  | e :: m => ElementWellFormed inPlural e ∧ MessageWellFormed inPlural m ∧
      ∀ s t, e = .literal s → m.head? ≠ some (.literal t)

/-- The selectors are valid and the branches are well formed. -/
def OptionsWellFormed (inPlural : Bool) : List (String × Message) → Prop
  | [] => True
  | (selector, m) :: os => Selector selector.toList ∧ MessageWellFormed inPlural m ∧
      OptionsWellFormed inPlural os

end

/-! ### Offsets -/

mutual

/-- The numbers of digits of the offsets in an element, in the order of the template. One of zero
has one digit, so it does not matter whether it is written. -/
def elementOffsetLengths : Element → List Nat
  | .plural _ _ offset os => (digits offset.natAbs).length :: optionsOffsetLengths os
  | .select _ os => optionsOffsetLengths os
  | _ => []

def offsetLengths : Message → List Nat
  | [] => []
  | e :: m => elementOffsetLengths e ++ offsetLengths m

def optionsOffsetLengths : List (String × Message) → List Nat
  | [] => []
  | (_, m) :: os => offsetLengths m ++ optionsOffsetLengths os

end

/-- The first number of digits that the reader refuses. -/
def firstLong (lengths : List Nat) : Option Nat :=
  lengths.find? fun n ↦ decide (LongNumeral.limit < n)

end Phrasebook.Grammar
