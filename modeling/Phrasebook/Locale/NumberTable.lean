import Phrasebook.Locale.NumberFormats

/-!
# Number formats of the locales
-/

set_option autoImplicit false

namespace Phrasebook

/-- The format of numbers where a locale says nothing else. -/
def NumberFormats.root : NumberFormats where
  symbols := ⟨".", ",", "-", "+", "E", "∞"⟩
  decimal := "#,##0.###"
  percent := "#,##0%"
  currency := "¤\u00a0#,##0.00"

/-- Symbols and patterns of the locales that differ from the locale they take after. -/
def numberFormats : List (List String × NumberFormats) := [
  (["af", "en_ZA", "es_CR"],
    { symbols := ⟨",", "\u00a0", "-", "+", "E", "∞"⟩
      decimal := "#,##0.###"
      percent := "#,##0%"
      currency := "¤#,##0.00" }),
  (["ak", "am", "bem", "bm", "ceb", "cgg", "chr", "cy", "dav", "ebu", "ee", "en", "es_419", "fil",
    "ga", "gd", "guz", "gv", "haw", "ig", "ja", "jmc", "kam", "kde", "ki", "kln", "kn", "ko", "kw",
    "mas", "mer", "ms", "mt", "naq", "nd", "nus", "nyn", "om", "pcm", "rof", "saq", "si", "sn",
    "so", "teo", "th", "ti", "ug", "vun", "yo", "yue", "yue_Hans", "zh", "zh_Hant", "zu"],
    { symbols := ⟨".", ",", "-", "+", "E", "∞"⟩
      decimal := "#,##0.###"
      percent := "#,##0%"
      currency := "¤#,##0.00" }),
  (["ar"],
    { symbols := ⟨".", ",", "\u200e-", "+", "E", "∞"⟩
      decimal := "#,##0.###"
      percent := "#,##0%"
      currency := "\u200f#,##0.00\u00a0¤;\u200f-#,##0.00\u00a0¤" }),
  (["ar_DZ", "ar_LB", "ar_LY", "ar_MA", "ar_MR", "ar_TN"],
    { symbols := ⟨",", ".", "\u200e-", "+", "E", "∞"⟩
      decimal := "#,##0.###"
      percent := "#,##0%"
      currency := "\u200f#,##0.00\u00a0¤;\u200f-#,##0.00\u00a0¤" }),
  (["as", "brx"],
    { symbols := ⟨".", ",", "-", "+", "E", "∞"⟩
      decimal := "#,##,##0.###"
      percent := "#,##,##0%"
      currency := "¤\u00a0#,##,##0.00" }),
  (["asa", "my", "xog"],
    { symbols := ⟨".", ",", "-", "+", "E", "∞"⟩
      decimal := "#,##0.###"
      percent := "#,##0%"
      currency := "#,##0.00\u00a0¤" }),
  (["ast", "az", "az_Arab", "az_Cyrl", "bs", "bs_Cyrl", "is", "it", "ln", "sc", "sr", "sr_Latn",
    "vi"],
    { symbols := ⟨",", ".", "-", "+", "E", "∞"⟩
      decimal := "#,##0.###"
      percent := "#,##0%"
      currency := "#,##0.00\u00a0¤" }),
  (["bas", "be", "br", "cs", "dua", "fr_CA", "ru", "smn", "tk", "tt"],
    { symbols := ⟨",", "\u00a0", "-", "+", "E", "∞"⟩
      decimal := "#,##0.###"
      percent := "#,##0\u00a0%"
      currency := "#,##0.00\u00a0¤" }),
  (["bez", "km", "ksb", "lg", "luo", "rwk", "sbp"],
    { symbols := ⟨".", ",", "-", "+", "E", "∞"⟩
      decimal := "#,##0.###"
      percent := "#,##0%"
      currency := "#,##0.00¤" }),
  (["bg", "dyo", "ewo", "ff", "hu", "hy", "ka", "kea", "kk", "ksf", "ky", "lv", "nmg", "pl",
    "pt_PT", "sah", "sq", "tg", "tzm", "uz", "uz_Cyrl", "yav"],
    { symbols := ⟨",", "\u00a0", "-", "+", "E", "∞"⟩
      decimal := "#,##0.###"
      percent := "#,##0%"
      currency := "#,##0.00\u00a0¤" }),
  (["bn"],
    { symbols := ⟨".", ",", "-", "+", "E", "∞"⟩
      decimal := "#,##,##0.###"
      percent := "#,##,##0%"
      currency := "#,##,##0.00¤" }),
  (["bn_IN", "en_IN", "gu", "hi", "pa", "sa", "ta"],
    { symbols := ⟨".", ",", "-", "+", "E", "∞"⟩
      decimal := "#,##,##0.###"
      percent := "#,##,##0%"
      currency := "¤#,##,##0.00" }),
  (["ca", "da", "de", "dsb", "es", "fr_LU", "fr_MA", "gl", "hsb", "lb", "mk", "nds", "ro"],
    { symbols := ⟨",", ".", "-", "+", "E", "∞"⟩
      decimal := "#,##0.###"
      percent := "#,##0\u00a0%"
      currency := "#,##0.00\u00a0¤" }),
  (["ce"],
    { symbols := ⟨".", ",", "-", "+", "E", "∞"⟩
      decimal := "#,##0.###"
      percent := "#,##0\u00a0%"
      currency := "#,##0.00\u00a0¤" }),
  (["de_AT"],
    { symbols := ⟨",", "\u00a0", "-", "+", "E", "∞"⟩
      decimal := "#,##0.###"
      percent := "#,##0\u00a0%"
      currency := "¤\u00a0#,##0.00" }),
  (["de_CH", "it_CH"],
    { symbols := ⟨".", "’", "-", "+", "E", "∞"⟩
      decimal := "#,##0.###"
      percent := "#,##0%"
      currency := "¤\u00a0#,##0.00;¤-#,##0.00" }),
  (["de_LI"],
    { symbols := ⟨".", "’", "-", "+", "E", "∞"⟩
      decimal := "#,##0.###"
      percent := "#,##0%"
      currency := "¤\u00a0#,##0.00" }),
  (["dje", "khq", "ses", "twq"],
    { symbols := ⟨".", "\u00a0", "-", "+", "E", "∞"⟩
      decimal := "#,##0.###"
      percent := "#,##0%"
      currency := "#,##0.00¤" }),
  (["dz"],
    { symbols := ⟨".", ",", "-", "+", "E", "∞"⟩
      decimal := "#,##,##0.###"
      percent := "#,##,##0\u00a0%"
      currency := "¤#,##,##0.00" }),
  (["el"],
    { symbols := ⟨",", ".", "-", "+", "e", "∞"⟩
      decimal := "#,##0.###"
      percent := "#,##0%"
      currency := "#,##0.00\u00a0¤" }),
  (["en_AT", "qu_BO"],
    { symbols := ⟨",", ".", "-", "+", "E", "∞"⟩
      decimal := "#,##0.###"
      percent := "#,##0\u00a0%"
      currency := "¤\u00a0#,##0.00" }),
  (["en_AU"],
    { symbols := ⟨".", ",", "-", "+", "e", "∞"⟩
      decimal := "#,##0.###"
      percent := "#,##0%"
      currency := "¤#,##0.00" }),
  (["en_BE", "en_ID", "en_NL", "es_BO", "id", "ms_ID", "mua", "su"],
    { symbols := ⟨",", ".", "-", "+", "E", "∞"⟩
      decimal := "#,##0.###"
      percent := "#,##0%"
      currency := "¤#,##0.00" }),
  (["en_CH"],
    { symbols := ⟨".", "’", "-", "+", "E", "∞"⟩
      decimal := "#,##0.###"
      percent := "#,##0%"
      currency := "¤#,##0.00" }),
  (["en_DE", "en_DK", "es_GQ"],
    { symbols := ⟨",", ".", "-", "+", "E", "∞"⟩
      decimal := "#,##0.###"
      percent := "#,##0\u00a0%"
      currency := "¤#,##0.00" }),
  (["en_FI"],
    { symbols := ⟨",", "\u00a0", "-", "+", "E", "∞"⟩
      decimal := "#,##0.###"
      percent := "#,##0\u00a0%"
      currency := "¤#,##0.00" }),
  (["en_MV", "es_PE", "ta_MY", "ta_SG"],
    { symbols := ⟨".", ",", "-", "+", "E", "∞"⟩
      decimal := "#,##0.###"
      percent := "#,##0%"
      currency := "¤\u00a0#,##0.00" }),
  (["en_SE"],
    { symbols := ⟨",", "\u00a0", "-", "+", "×10^", "∞"⟩
      decimal := "#,##0.###"
      percent := "#,##0\u00a0%"
      currency := "¤#,##0.00" }),
  (["en_SI"],
    { symbols := ⟨",", ".", "-", "+", "e", "∞"⟩
      decimal := "#,##0.###"
      percent := "#,##0%"
      currency := "¤#,##0.00" }),
  (["en_US_POSIX"],
    { symbols := ⟨".", ",", "-", "+", "E", "INF"⟩
      decimal := "0.######"
      percent := "0%"
      currency := "¤\u00a00.00" }),
  (["eo"],
    { symbols := ⟨",", "\u202f", "-", "+", "E", "∞"⟩
      decimal := "#,##0.###"
      percent := "#,##0%"
      currency := "#,##0.00\u202f¤" }),
  (["es_AR", "es_CO", "es_UY", "fur", "ia", "jgo", "jv", "kkj", "mgh", "ms_BN", "nnh", "pt", "rw",
    "sw_CD", "wo"],
    { symbols := ⟨",", ".", "-", "+", "E", "∞"⟩
      decimal := "#,##0.###"
      percent := "#,##0%"
      currency := "¤\u00a0#,##0.00" }),
  (["es_CL", "es_EC", "es_VE", "lo", "sg"],
    { symbols := ⟨",", ".", "-", "+", "E", "∞"⟩
      decimal := "#,##0.###"
      percent := "#,##0%"
      currency := "¤#,##0.00;¤-#,##0.00" }),
  (["es_PY", "nl"],
    { symbols := ⟨",", ".", "-", "+", "E", "∞"⟩
      decimal := "#,##0.###"
      percent := "#,##0%"
      currency := "¤\u00a0#,##0.00;¤\u00a0-#,##0.00" }),
  (["et"],
    { symbols := ⟨",", "\u00a0", "−", "+", "×10^", "∞"⟩
      decimal := "#,##0.###"
      percent := "#,##0%"
      currency := "#,##0.00\u00a0¤" }),
  (["eu"],
    { symbols := ⟨",", ".", "−", "+", "E", "∞"⟩
      decimal := "#,##0.###"
      percent := "%\u00a0#,##0"
      currency := "#,##0.00\u00a0¤" }),
  (["fa"],
    { symbols := ⟨".", ",", "\u200e−", "+", "E", "∞"⟩
      decimal := "#,##0.###"
      percent := "#,##0%"
      currency := "\u200e¤\u00a0#,##0.00" }),
  (["fa_AF"],
    { symbols := ⟨".", ",", "\u200e−", "+", "E", "∞"⟩
      decimal := "#,##0.###"
      percent := "#,##0%"
      currency := "¤\u00a0#,##0.00" }),
  (["ff_Adlm"],
    { symbols := ⟨".", "⹁", "-", "+", "E", "∞"⟩
      decimal := "#,##0.###"
      percent := "#,##0%"
      currency := "¤\u00a0#,##0.00" }),
  (["fi", "no"],
    { symbols := ⟨",", "\u00a0", "−", "+", "E", "∞"⟩
      decimal := "#,##0.###"
      percent := "#,##0\u00a0%"
      currency := "#,##0.00\u00a0¤" }),
  (["fo", "hr"],
    { symbols := ⟨",", ".", "−", "+", "E", "∞"⟩
      decimal := "#,##0.###"
      percent := "#,##0\u00a0%"
      currency := "#,##0.00\u00a0¤" }),
  (["fr"],
    { symbols := ⟨",", "\u202f", "-", "+", "E", "∞"⟩
      decimal := "#,##0.###"
      percent := "#,##0\u00a0%"
      currency := "#,##0.00\u00a0¤" }),
  (["fr_CH"],
    { symbols := ⟨",", "\u202f", "-", "+", "E", "∞"⟩
      decimal := "#,##0.###"
      percent := "#,##0%"
      currency := "#,##0.00\u00a0¤" }),
  (["fy"],
    { symbols := ⟨",", ".", "-", "+", "E", "∞"⟩
      decimal := "#,##0.###"
      percent := "#,##0%"
      currency := "¤\u00a0#,##0.00;¤\u00a0#,##0.00-" }),
  (["gsw"],
    { symbols := ⟨".", "’", "−", "+", "E", "∞"⟩
      decimal := "#,##0.###"
      percent := "#,##0\u00a0%"
      currency := "#,##0.00\u00a0¤" }),
  (["he"],
    { symbols := ⟨".", ",", "\u200e-", "+", "E", "∞"⟩
      decimal := "#,##0.###"
      percent := "#,##0%"
      currency := "\u200f#,##0.00\u00a0\u200f¤;\u200f-#,##0.00\u00a0\u200f¤" }),
  (["kab"],
    { symbols := ⟨",", "\u00a0", "-", "+", "E", "∞"⟩
      decimal := "#,##0.###"
      percent := "#,##0%"
      currency := "#,##0.00¤" }),
  (["kl"],
    { symbols := ⟨",", ".", "-", "+", "E", "∞"⟩
      decimal := "#,##0.###"
      percent := "#,##0\u00a0%"
      currency := "¤#,##0.00;¤-#,##0.00" }),
  (["kok", "te"],
    { symbols := ⟨".", ",", "-", "+", "E", "∞"⟩
      decimal := "#,##,##0.###"
      percent := "#,##0%"
      currency := "¤#,##,##0.00" }),
  (["ksh", "lt", "sv"],
    { symbols := ⟨",", "\u00a0", "−", "+", "×10^", "∞"⟩
      decimal := "#,##0.###"
      percent := "#,##0\u00a0%"
      currency := "#,##0.00\u00a0¤" }),
  (["ku"],
    { symbols := ⟨",", ".", "-", "+", "E", "∞"⟩
      decimal := "#,##0.###"
      percent := "%#,##0"
      currency := "#,##0.00\u00a0¤" }),
  (["lu", "seh"],
    { symbols := ⟨",", ".", "-", "+", "E", "∞"⟩
      decimal := "#,##0.###"
      percent := "#,##0%"
      currency := "#,##0.00¤" }),
  (["luy"],
    { symbols := ⟨".", ",", "-", "+", "E", "∞"⟩
      decimal := "#,##0.###"
      percent := "#,##0%"
      currency := "¤#,##0.00;¤-\u00a0#,##0.00" }),
  (["mfe"],
    { symbols := ⟨".", "\u00a0", "-", "+", "E", "∞"⟩
      decimal := "#,##0.###"
      percent := "#,##0%"
      currency := "¤\u00a0#,##0.00" }),
  (["ml", "mr", "or"],
    { symbols := ⟨".", ",", "-", "+", "E", "∞"⟩
      decimal := "#,##,##0.###"
      percent := "#,##0%"
      currency := "¤#,##0.00" }),
  (["ne"],
    { symbols := ⟨".", ",", "-", "+", "E", "∞"⟩
      decimal := "#,##,##0.###"
      percent := "#,##0%"
      currency := "¤\u00a0#,##,##0.00" }),
  (["oc"],
    { symbols := ⟨",", "\u00a0", "-", "+", "E", "∞"⟩
      decimal := "#,##0.###"
      percent := "#,##0\u202f%"
      currency := "#,##0.00¤" }),
  (["os"],
    { symbols := ⟨",", "\u00a0", "-", "+", "E", "∞"⟩
      decimal := "#,##0.###"
      percent := "#,##0%"
      currency := "¤\u00a0#,##0.00" }),
  (["pa_Arab"],
    { symbols := ⟨".", ",", "\u200e-", "+", "E", "∞"⟩
      decimal := "#,##0.###"
      percent := "#,##0%"
      currency := "¤\u00a0#,##0.00" }),
  (["ps", "uz_Arab"],
    { symbols := ⟨",", ".", "\u200e−", "+", "E", "∞"⟩
      decimal := "#,##0.###"
      percent := "#,##0%"
      currency := "¤\u00a0#,##0.00" }),
  (["qu"],
    { symbols := ⟨".", ",", "-", "+", "E", "∞"⟩
      decimal := "#,##0.###"
      percent := "#,##0\u00a0%"
      currency := "¤\u00a0#,##0.00" }),
  (["rm"],
    { symbols := ⟨",", "\u202f", "-", "+", "E", "∞"⟩
      decimal := "#,##0.###"
      percent := "#,##0%"
      currency := "¤#,##0.00" }),
  (["rn"],
    { symbols := ⟨",", ".", "-", "+", "E", "∞"⟩
      decimal := "#,##0.###"
      percent := "#,##0\u00a0%"
      currency := "#,##0.00¤" }),
  (["se"],
    { symbols := ⟨",", "\u00a0", "−", "+", "·10^", "∞"⟩
      decimal := "#,##0.###"
      percent := "#,##0\u00a0%"
      currency := "#,##0.00\u00a0¤" }),
  (["sk"],
    { symbols := ⟨",", "\u00a0", "-", "+", "e", "∞"⟩
      decimal := "#,##0.###"
      percent := "#,##0\u00a0%"
      currency := "#,##0.00\u00a0¤" }),
  (["sl"],
    { symbols := ⟨",", ".", "−", "+", "e", "∞"⟩
      decimal := "#,##0.###"
      percent := "#,##0\u00a0%"
      currency := "#,##0.00\u00a0¤" }),
  (["tr"],
    { symbols := ⟨",", ".", "-", "+", "E", "∞"⟩
      decimal := "#,##0.###"
      percent := "%#,##0"
      currency := "¤#,##0.00" }),
  (["uk"],
    { symbols := ⟨",", "\u00a0", "-", "+", "Е", "∞"⟩
      decimal := "#,##0.###"
      percent := "#,##0%"
      currency := "#,##0.00\u00a0¤" }),
  (["ur"],
    { symbols := ⟨".", ",", "\u200e-", "+", "E", "∞"⟩
      decimal := "#,##0.###"
      percent := "#,##0%"
      currency := "¤#,##0.00" }),
  (["wae"],
    { symbols := ⟨",", "’", "-", "+", "E", "∞"⟩
      decimal := "#,##0.###"
      percent := "#,##0%"
      currency := "¤\u00a0#,##0.00" }),
  (["xh"],
    { symbols := ⟨".", "\u00a0", "-", "+", "E", "∞"⟩
      decimal := "#,##0.###"
      percent := "#,##0%"
      currency := "¤#,##0.00" }),
  (["zgh"],
    { symbols := ⟨",", "\u00a0", "-", "+", "E", "∞"⟩
      decimal := "#,##0.###"
      percent := "#,##0\u00a0%"
      currency := "#,##0.00¤" })]

end Phrasebook
