/-!
# Date patterns

A date pattern is text in which runs of one letter stand for a part of a date or time: `yyyy`,
`MMM`, `d`. The length of a run selects how the part is written. Quoted text is taken as it is, and
a doubled quote is a quote anywhere.
-/

set_option autoImplicit false

namespace Phrasebook

/-- A piece of a date pattern. -/
inductive DateToken
  | text (s : List Char)
  | field (letter : Char) (length : Nat)
  deriving DecidableEq, Repr

namespace DateToken

/-- The letters that stand for a part, each with the lengths that it can have; no lengths means
any. -/
def letters : List (Char × List Nat) := [
  ('G', [1, 2, 3, 4, 5]), ('y', []), ('Y', []), ('u', []),
  ('Q', [1, 2, 3, 4, 5]), ('q', [1, 2, 3, 4, 5]),
  ('M', [1, 2, 3, 4, 5]), ('L', [1, 2, 3, 4, 5]),
  ('w', [1, 2]), ('W', [1]),
  ('d', [1, 2]), ('D', [1, 2, 3]), ('F', [1]), ('g', []),
  ('E', [1, 2, 3, 4, 5, 6]), ('e', [1, 2, 3, 4, 5, 6]), ('c', [1, 3, 4, 5, 6]),
  ('a', [1, 2, 3, 4, 5]), ('b', [1, 2, 3, 4, 5]), ('B', [1, 2, 3, 4, 5]),
  ('h', [1, 2]), ('H', [1, 2]), ('K', [1, 2]), ('k', [1, 2]),
  ('m', [1, 2]), ('s', [1, 2]), ('S', []), ('A', []),
  ('z', [1, 2, 3, 4]), ('Z', [1, 2, 3, 4, 5]), ('O', [1, 4]), ('v', [1, 4]),
  ('V', [1, 2, 3, 4]), ('x', [1, 2, 3, 4, 5]), ('X', [1, 2, 3, 4, 5])]

/-- Whether a letter stands for a part. -/
def isLetter (c : Char) : Bool :=
  (letters.lookup c).isSome

/-- The character that stands for a doubled quote while a pattern is read. -/
def quoteMark : Char := '\x00'

/-- Replaces every doubled quote by its mark. -/
def markQuotes : List Char → List Char
  | '\'' :: '\'' :: s => quoteMark :: markQuotes s
  | c :: s => c :: markQuotes s
  | [] => []

/-- Text as a piece of a pattern; none if there is no text. -/
def ofText (s : List Char) : List DateToken :=
  if s.isEmpty then [] else [.text (s.map fun c ↦ if c = quoteMark then '\'' else c)]

/-- A run of a letter as a piece of a pattern; none if there is no run. -/
def ofRun : Option (Char × Nat) → List DateToken
  | some (c, n) => [.field c n]
  | none => []

/-- What is pending at the end or before a quoted text: a run before the text that was read. -/
def flush (text : List Char) (run : Option (Char × Nat)) : List DateToken :=
  if run.isSome then ofRun run else ofText text

/-- Splits a pattern whose doubled quotes are marked. `inside` is the quoted text read so far while
a quote is open, `text` the pending text and `run` the pending run of a letter. Text that is still
in an open quote at the end is lost, and so is text pending behind an open run. -/
def split (inside : Option (List Char)) (text : List Char) (run : Option (Char × Nat)) :
    List Char → List DateToken
  | [] => flush text run
  | c :: s =>
    match inside with
    | some quoted =>
      if c = '\'' then split none (text ++ quoted) run s
      else split (some (quoted ++ [c])) text run s
    | none =>
      if c = '\'' then
        flush text run ++ split (some []) (if run.isSome then text else []) none s
      else if isLetter c then
        ofText text ++
          match run with
          | some (d, n) =>
            if c = d then split none [] (some (c, n + 1)) s
            else .field d n :: split none [] (some (c, 1)) s
          | none => split none [] (some (c, 1)) s
      else ofRun run ++ split none (text ++ [c]) none s

/-- The pieces of a pattern. -/
def ofPattern (s : List Char) : List DateToken :=
  split none [] none (markQuotes s)

/-- Whether a run has a length that its letter can have. -/
def isValid : DateToken → Bool
  | .text _ => true
  | .field c n =>
    match letters.lookup c with
    | some [] => true
    | some lengths => lengths.contains n
    | none => false

end DateToken

end Phrasebook
