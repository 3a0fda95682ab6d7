/-!
# Number options

What a number skeleton asks for: a style, a currency, a length of compact notation, bounds on the
fraction digits, and whether digits are grouped.
-/

set_option autoImplicit false

namespace Phrasebook

/-- The currency of an amount without one. -/
def defaultCurrency : String := "USD"

/-- The style of a number. -/
inductive NumberStyle
  | decimal
  | percent
  | currency
  | compact
  deriving DecidableEq, Repr, Inhabited

namespace NumberStyle

def word : NumberStyle → String
  | .decimal => "decimal"
  | .percent => "percent"
  | .currency => "currency"
  | .compact => "compact"

/-- The style of a word; other words ask for the plain one. -/
def ofWord (s : String) : NumberStyle :=
  if s = "percent" then .percent
  else if s = "currency" then .currency
  else if s = "compact" then .compact
  else .decimal

end NumberStyle

/-- The length of compact notation. -/
inductive CompactDisplay
  | short
  | long
  deriving DecidableEq, Repr, Inhabited

def CompactDisplay.word : CompactDisplay → String
  | .short => "short"
  | .long => "long"

/-- Everything but `long` asks for the short display. -/
def CompactDisplay.ofWord (s : String) : CompactDisplay :=
  if s = "long" then .long else .short

/-- How a number is written. -/
structure NumberOptions where
  style : NumberStyle := .decimal
  currency : Option String := none
  compactDisplay : Option CompactDisplay := none
  minimumFractionDigits : Option Int := none
  maximumFractionDigits : Option Int := none
  useGrouping : Bool := true
  deriving DecidableEq, Repr, Inhabited

namespace NumberOptions

/-- The fraction digits that are always written. -/
def minimum (o : NumberOptions) : Int :=
  o.minimumFractionDigits.getD 0

/-- The most fraction digits that are written. A negative number of them rounds before the point. -/
def maximum (o : NumberOptions) (default : Int) : Int :=
  o.maximumFractionDigits.getD (max o.minimum default)

/-- The pattern of a number with these options. -/
def pattern (o : NumberOptions) (default : Int) : List Char :=
  let whole := if o.useGrouping then ['#', ',', '#', '#', '0'] else ['0']
  if o.maximum default = 0 then whole
  else whole ++ '.' :: List.replicate o.minimum.toNat '0' ++
    List.replicate (o.maximum default - o.minimum).toNat '#'

end NumberOptions

end Phrasebook
