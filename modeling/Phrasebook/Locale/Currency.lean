/-!
# Currencies

A currency is named by its code of three letters. Most amounts have two places; the currencies that
have another number of them are listed here.
-/

set_option autoImplicit false

namespace Phrasebook

/-- The codes of the currencies whose amounts are whole. -/
def wholeCurrencies : List String := [
  "ADP", "AFN", "ALL", "BIF", "BYR", "CLP", "DJF", "ESP", "GNF", "IQD", "IRR", "ISK", "ITL", "JPY",
  "KMF", "KPW", "KRW", "LAK", "LBP", "LUF", "MGA", "MGF", "MMK", "MRO", "PYG", "RSD", "RWF", "SLL",
  "SOS", "STD", "SYP", "TMM", "TRL", "UGX", "UYI", "VND", "VUV", "XAF", "XOF", "XPF", "YER", "ZMK",
  "ZWD"]

/-- The codes of the currencies whose unit is divided into a thousand parts. -/
def thousandthCurrencies : List String := ["BHD", "JOD", "KWD", "LYD", "OMR", "TND"]

/-- The codes of the units of account that are written to a ten thousandth. -/
def fourPlaceCurrencies : List String := ["CLF", "UYW"]

/-- The number of places that amounts of a currency have. -/
def currencyPlaces (code : String) : Nat :=
  if wholeCurrencies.contains code then 0
  else if thousandthCurrencies.contains code then 3
  else if fourPlaceCurrencies.contains code then 4
  else 2

end Phrasebook
