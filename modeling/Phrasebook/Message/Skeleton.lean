import Phrasebook.Message.NumberOptions
import Phrasebook.Text.Character

/-!
# Number skeletons

A skeleton is a row of words after `::`, each of which sets some of the number options. Words that
the library does not know are passed over, and it reports them.
-/

set_option autoImplicit false

namespace Phrasebook

open Text

/-- What a word of a number skeleton asks for. -/
inductive SkeletonWord
  | percent
  | currency (code : String)
  | compact (display : CompactDisplay)
  | integer
  | groupOff
  | fraction (least optional : Nat)
  | unknown (word : String)
  deriving DecidableEq, Repr

namespace SkeletonWord

/-- The fraction digits that a word such as `.00#` asks for: a point, zeros for digits that are
always written, number signs for further ones. -/
def fraction? : List Char → Option (Nat × Nat)
  | '.' :: s =>
    let zeros := s.takeWhile (· = '0')
    let signs := s.dropWhile (· = '0')
    if signs.all (· = '#') then some (zeros.length, signs.length) else none
  | _ => none

/-- Reads a word. -/
def ofText (w : List Char) : SkeletonWord :=
  let s := String.ofList w
  if s = "percent" ∨ s = "%" then .percent
  else match after? "currency/".toList w with
    | some code => .currency (upper (String.ofList code))
    | none =>
      if s = "compact-short" ∨ s = "K" then .compact .short
      else if s = "compact-long" ∨ s = "KK" then .compact .long
      else if s = "precision-integer" ∨ s = "integer" then .integer
      else if s = "group-off" ∨ s = ",_" then .groupOff
      else match fraction? w with
        | some (least, optional) => .fraction least optional
        | none => .unknown s

/-- The options after a word. -/
def set (o : NumberOptions) : SkeletonWord → NumberOptions
  | .percent => { o with style := .percent }
  | .currency code => { o with style := .currency, currency := some code }
  | .compact display => { o with style := .compact, compactDisplay := some display }
  | .integer => { o with minimumFractionDigits := some 0, maximumFractionDigits := some 0 }
  | .groupOff => { o with useGrouping := false }
  | .fraction least optional =>
    { o with minimumFractionDigits := some least, maximumFractionDigits := some (least + optional) }
  | .unknown _ => o

/-- The word itself if it is not known. -/
def unknown? : SkeletonWord → Option String
  | .unknown w => some w
  | _ => none

end SkeletonWord

namespace NumberOptions

/-- The words of a skeleton. -/
def skeletonWords (skeleton : List Char) : List SkeletonWord :=
  (words skeleton).map SkeletonWord.ofText

/-- The options that a skeleton asks for; later words win. -/
def ofSkeleton (skeleton : List Char) : NumberOptions :=
  (skeletonWords skeleton).foldl SkeletonWord.set {}

/-- The words of a skeleton that are not known. -/
def unknownWords (skeleton : List Char) : List String :=
  (skeletonWords skeleton).filterMap SkeletonWord.unknown?

end NumberOptions

end Phrasebook
