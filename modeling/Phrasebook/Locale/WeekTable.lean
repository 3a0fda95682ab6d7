import Phrasebook.Locale.CalendarNames

/-!
# Weeks by territory
-/

set_option autoImplicit false

namespace Phrasebook

/-- The territories with a rule of weeks other than the standard one. -/
def weekRules : List (List String × WeekRule) := [
  (["AD", "AT", "AX", "BE", "BG", "CH", "CZ", "DE", "DK", "EE", "ES", "FI", "FJ", "FO", "FR", "GB",
    "GF", "GG", "GI", "GP", "GR", "HU", "IE", "IM", "IS", "IT", "JE", "LI", "LT", "LU", "MC", "MQ",
    "NL", "NO", "PL", "RE", "RU", "SE", "SJ", "SK", "SM", "VA"], ⟨0, 4⟩),
  (["PT"], ⟨6, 4⟩),
  (["AG", "AS", "BD", "BR", "BS", "BT", "BW", "BZ", "CA", "CO", "DM", "DO", "ET", "GT", "GU", "HK",
    "HN", "ID", "IL", "IN", "JM", "JP", "KE", "KH", "KR", "LA", "MH", "MM", "MO", "MT", "MX", "MZ",
    "NI", "NP", "PA", "PE", "PH", "PK", "PR", "PY", "SA", "SG", "SV", "TH", "TT", "TW", "UM", "US",
    "VE", "VI", "WS", "YE", "ZA", "ZW"], ⟨6, 1⟩),
  (["AF", "BH", "DJ", "DZ", "EG", "IQ", "IR", "JO", "KW", "LY", "OM", "QA", "SD", "SY"], ⟨5, 1⟩),
  (["MV"], ⟨4, 1⟩)]

/-- The rule of weeks of the territory of a locale. -/
def Locale.weekRule (locale : Locale) : WeekRule :=
  match locale.territory? with
  | some t => ((weekRules.find? fun r ↦ r.1.contains t).map Prod.snd).getD .standard
  | none => .standard

end Phrasebook
