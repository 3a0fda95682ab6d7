import Phrasebook.Locale.CalendarTable
import Phrasebook.Locale.CompactTable
import Phrasebook.Locale.CurrencyTable
import Phrasebook.Locale.ListTable
import Phrasebook.Locale.NumberTable
import Phrasebook.Locale.PluralTable
import Phrasebook.Locale.RelativeTable
import Phrasebook.Locale.WeekTable

/-!
# The tables of the locales

The tables have rows for some locales only. A locale without a row has the data of the locale that
it takes after, in the end that of the root.
-/

set_option autoImplicit false

namespace Phrasebook

namespace Locale

/-- The locales that take after another one than the rest of their name says. -/
def namedParents : List (String × List String) := [
  ("en_001", [
    "en_150", "en_AG", "en_AI", "en_AU", "en_BB", "en_BM", "en_BS", "en_BW", "en_BZ", "en_CC",
    "en_CK", "en_CM", "en_CX", "en_CY", "en_DG", "en_DM", "en_ER", "en_FJ", "en_FK", "en_FM",
    "en_GB", "en_GD", "en_GG", "en_GH", "en_GI", "en_GM", "en_GY", "en_HK", "en_ID", "en_IE",
    "en_IL", "en_IM", "en_IN", "en_IO", "en_JE", "en_JM", "en_KE", "en_KI", "en_KN", "en_KY",
    "en_LC", "en_LR", "en_LS", "en_MG", "en_MO", "en_MS", "en_MT", "en_MU", "en_MV", "en_MW",
    "en_MY", "en_NA", "en_NF", "en_NG", "en_NR", "en_NU", "en_NZ", "en_PG", "en_PK", "en_PN",
    "en_PW", "en_RW", "en_SB", "en_SC", "en_SD", "en_SG", "en_SH", "en_SL", "en_SS", "en_SX",
    "en_SZ", "en_TC", "en_TK", "en_TO", "en_TT", "en_TV", "en_TZ", "en_UG", "en_VC", "en_VG",
    "en_VU", "en_WS", "en_ZA", "en_ZM", "en_ZW"]),
  ("en_150", ["en_AT", "en_BE", "en_CH", "en_DE", "en_DK", "en_FI", "en_NL", "en_SE", "en_SI"]),
  ("en_IN", ["hi_Latn"]),
  ("es_419", [
    "es_AR", "es_BO", "es_BR", "es_BZ", "es_CL", "es_CO", "es_CR", "es_CU", "es_DO", "es_EC",
    "es_GT", "es_HN", "es_MX", "es_NI", "es_PA", "es_PE", "es_PR", "es_PY", "es_SV", "es_US",
    "es_UY", "es_VE"]),
  ("no", ["nb", "nn"]),
  ("pt_PT", [
    "pt_AO", "pt_CH", "pt_CV", "pt_GQ", "pt_GW", "pt_LU", "pt_MO", "pt_MZ", "pt_ST", "pt_TL"]),
  ("root", [
    "az_Arab", "az_Cyrl", "bs_Cyrl", "ff_Adlm", "pa_Arab", "sd_Deva", "sr_Latn", "uz_Arab",
    "uz_Cyrl", "yue_Hans", "zh_Hant"]),
  ("zh_Hant_HK", ["zh_Hant_MO"])]

/-- The name of the locale that a named one takes after: most often the name without its last part. -/
def parent (name : String) : String :=
  match namedParents.find? fun r ↦ r.2.contains name with
  | some r => r.1
  | none =>
    let rest := (name.toList.reverse.dropWhile (· ≠ '_')).tail.reverse
    if rest.isEmpty then "root" else String.ofList rest

/-- A name and those of the locales that it takes after, up to a number of steps. -/
def ancestors : Nat → String → List String
  | 0, name => [name]
  | steps + 1, name => if name = "root" then [name] else name :: ancestors steps (parent name)

/-- The names of the locales that a locale takes after, nearest first and itself before them. The
root is at most five steps away. -/
def lineage (locale : Locale) : List String :=
  ancestors 5 locale.name

/-- The entry for a name in a table, where each row serves several names. -/
def namedRow? {α : Type} (name : String) (table : List (List String × α)) : Option α :=
  (table.find? fun r ↦ r.1.contains name).map Prod.snd

/-- The entry of a table for a locale. -/
def row? {α : Type} (locale : Locale) (table : List (List String × α)) : Option α :=
  locale.lineage.findSome? fun name ↦ namedRow? name table

/-- A name without its script. -/
def withoutScript (name : String) : String :=
  match name.toList.splitOn '_' with
  | language :: script :: rest =>
    if script.length = 4 then String.ofList (['_'].intercalate (language :: rest)) else name
  | _ => name

/-- The rules of plurals for a locale, which do not depend on its script. -/
def rules (locale : Locale) (table : List (List String × Plural.Rules)) : Plural.Rules :=
  (locale.lineage.findSome? fun name ↦
    (namedRow? name table).or (namedRow? (withoutScript name) table)).getD []

end Locale

/-- The data of the tables. -/
def LocaleBook.tables : LocaleBook where
  data locale := {
    plurals := fun
      | .cardinal => locale.rules Plural.cardinalRules
      | .ordinal => locale.rules Plural.ordinalRules
    numbers := { (locale.row? numberFormats).getD .root with
      currencySymbols :=
        locale.lineage.flatMap fun name ↦ (Locale.namedRow? name currencySymbols).getD [] }
    compact := (locale.row? compactPatterns).getD rootCompactPatterns
    lists := (locale.row? listPatterns).getD rootListPatterns
    calendar := { (locale.row? calendarNames).getD .root with week := locale.weekRule }
    relative := (locale.row? relativePatterns).getD rootUnitPatterns }

end Phrasebook
