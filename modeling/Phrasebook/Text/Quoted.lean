import Phrasebook.Text.Character
import Phrasebook.Text.Hexadecimal

/-!
# Quoted texts in messages to the author

An error message shows a text between quotes, in one line, with every character that would be
invisible spelled as an escape. Single quotes are used unless the text has a single quote and no
double quote, so that a quote inside rarely needs a backslash.
-/

set_option autoImplicit false

namespace Phrasebook.Text

/-- How one character is written between the quotes `quote`. -/
def escaped (quote c : Char) : List Char :=
  if c = quote || c = '\\' then ['\\', c]
  else if c = '\n' then ['\\', 'n']
  else if c = '\r' then ['\\', 'r']
  else if c = '\t' then ['\\', 't']
  else if !isHidden c then [c]
  else if c.toNat < 0x100 then '\\' :: 'x' :: hex 2 c.toNat
  else if c.toNat < 0x10000 then '\\' :: 'u' :: hex 4 c.toNat
  else '\\' :: 'U' :: hex 8 c.toNat

/-- The quote that surrounds a text: the double quote only for a text that has single quotes and no
double quote. -/
def quoteFor (s : List Char) : Char :=
  if s.contains '\'' && !s.contains '"' then '"' else '\''

/-- A text between quotes, on one line and with its invisible characters spelled out. -/
def quoted (s : String) : String :=
  let q := quoteFor s.toList
  String.ofList (q :: s.toList.flatMap (escaped q) ++ [q])

end Phrasebook.Text
