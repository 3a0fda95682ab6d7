/-!
# Currency symbols of the locales
-/

set_option autoImplicit false

namespace Phrasebook

/-- The symbols of currencies by locale, where they differ from those of the locale it takes after. A
currency without a symbol shows its code. -/
def currencySymbols : List (List String × List (String × String)) := [
  (["root"], [
    ("AUD", "A$"), ("BRL", "R$"), ("CAD", "CA$"), ("CNY", "CN¥"), ("EUR", "€"), ("GBP", "£"),
    ("HKD", "HK$"), ("ILS", "₪"), ("INR", "₹"), ("JPY", "JP¥"), ("KRW", "₩"), ("MXN", "MX$"),
    ("NZD", "NZ$"), ("PHP", "₱"), ("TWD", "NT$"), ("USD", "US$"), ("VND", "₫"), ("XAF", "FCFA"),
    ("XCD", "EC$"), ("XCG", "Cg."), ("XOF", "F\u202fCFA"), ("XPF", "CFPF"), ("XXX", "¤")]),
  (["af"], [
    ("CAD", "CAD"), ("MXN", "MXN"), ("PHP", "PHP"), ("THB", "฿"), ("USD", "USD"), ("ZAR", "R")]),
  (["af_NA", "en_NA", "naq"], [("NAD", "$")]),
  (["ak"], [("GHS", "GH₵"), ("IQD", "Irak dinaa"), ("XOF", "AAS")]),
  (["am"], [("AUD", "AU$"), ("ETB", "ብር"), ("PHP", "PHP"), ("THB", "฿")]),
  (["ar"], [
    ("AED", "د.إ."), ("AUD", "AU$"), ("BHD", "د.ب."), ("DZD", "د.ج."), ("EGP", "ج.م."),
    ("GBP", "UK£"), ("IQD", "د.ع."), ("IRR", "ر.إ."), ("JOD", "د.أ."), ("KWD", "د.ك."),
    ("LBP", "ل.ل."), ("LYD", "د.ل."), ("MAD", "د.م."), ("MRU", "أ.م."), ("OMR", "ر.ع."),
    ("PHP", "PHP"), ("QAR", "ر.ق."), ("SAR", "ر.س."), ("SDG", "ج.س."), ("SYP", "ل.س."),
    ("THB", "฿"), ("TND", "د.ت."), ("YER", "ر.ي.")]),
  (["ar_DJ", "fr_DJ", "so_DJ"], [("DJF", "Fdj")]),
  (["ar_ER", "en_ER", "ti_ER"], [("ERN", "Nfk")]),
  (["ar_KM", "fr_KM"], [("KMF", "CF")]),
  (["ar_LB"], [("SDG", "SDG")]),
  (["ar_SO"], [("SOS", "S")]),
  (["ar_SS", "en_SS", "nus"], [("GBP", "GB£"), ("SSP", "£")]),
  (["as", "mt"], [("PHP", "PHP")]),
  (["asa", "bez", "en_TZ", "jmc", "kde", "ksb", "mas_TZ", "rof", "rwk", "sbp", "vun"], [
    ("TZS", "TSh")]),
  (["ast", "he", "ml", "ta"], [("JPY", "¥"), ("PHP", "PHP"), ("THB", "฿"), ("USD", "$")]),
  (["az", "az_Arab"], [("AZN", "₼"), ("PHP", "PHP"), ("THB", "฿")]),
  (["az_Cyrl"], [("AZN", "₼")]),
  (["be"], [
    ("BRL", "BRL"), ("BYN", "Br"), ("CAD", "CAD"), ("JPY", "¥"), ("NZD", "NZD"), ("PHP", "PHP"),
    ("RUB", "₽"), ("USD", "$")]),
  (["bem", "en_ZM"], [("ZMW", "K")]),
  (["bg"], [
    ("AUD", "AUD"), ("BGN", "лв."), ("BRL", "BRL"), ("CAD", "CAD"), ("CNY", "CNY"), ("GBP", "GBP"),
    ("HKD", "HKD"), ("ILS", "ILS"), ("INR", "INR"), ("JPY", "JPY"), ("KRW", "KRW"), ("MXN", "MXN"),
    ("NZD", "NZD"), ("PHP", "PHP"), ("TWD", "TWD"), ("USD", "щ.д."), ("VND", "VND"),
    ("XCD", "XCD")]),
  (["bn"], [("BDT", "৳"), ("PHP", "PHP"), ("THB", "฿")]),
  (["bn_IN", "en_IN", "es_EC", "es_PR", "es_SV", "haw", "nl_BQ", "rm", "sw_KE"], [("USD", "$")]),
  (["bo", "ii"], [("CNY", "¥")]),
  (["bo_IN", "zh_Hans_HK"], [("CNY", "CN¥")]),
  (["br"], [
    ("AUD", "$A"), ("BRL", "BRL"), ("CAD", "$CA"), ("CNY", "CNY"), ("GBP", "£ RU"), ("HKD", "$ HK"),
    ("ILS", "ILS"), ("JPY", "JPY"), ("KRW", "KRW"), ("NZD", "$ ZN"), ("PHP", "PHP"), ("TWD", "TWD"),
    ("USD", "$ SU"), ("VND", "VND"), ("XCD", "XCD")]),
  (["brx"], [
    ("AED", "ए.इ.दि"), ("ALL", "अल"), ("AMD", "ए.एम.दि"), ("ANG", "ए.एन.जि"), ("AOA", "ए.अ.ए"),
    ("ARS", "ए.आर.एस"), ("AWG", "ए.दब्ल्यु.जि"), ("AZN", "ए.जेत.एन"), ("BAM", "बि.ए.एम"),
    ("BBD", "बि.बि.दि"), ("BGN", "बि.जि.एन"), ("BHD", "बि.ऐत्स.दि"), ("BIF", "बि.आइ.एफ"),
    ("BMD", "बि.एम.डि"), ("BOB", "बि.अ.बि"), ("BSD", "बि.एस.दि"), ("BWP", "बि.दब्ल्यु.पि"),
    ("BYN", "बि.वाई.एन"), ("BZD", "बि.जेद.डि"), ("CAD", "सि.ए $"), ("CDF", "सि.दि.एफ"),
    ("CHF", "सि.ऐत्स.एफ"), ("CLP", "सि.एल.पि"), ("CNY", "सिएन¥"), ("COP", "सि.अ.पि"),
    ("CRC", "सि.आर.सि"), ("CUC", "सि.इउ.सि"), ("CUP", "सि.इउ.पि"), ("CVE", "सि.भि.इ"),
    ("CZK", "सि.जेद.के"), ("DJF", "दि.जे.एफ"), ("DKK", "दि.के.के"), ("DOP", "डि.अ.पि"),
    ("DZD", "दि.जेत.दि"), ("EGP", "ई.जि.पि"), ("ERN", "इ.आर.एन"), ("ETB", "इ.ति.बि"),
    ("FKP", "एफ.के.पि"), ("GEL", "जि.इ.एल"), ("GHS", "जि.ऐत्स.एस"), ("GIP", "जि.आइ.पि"),
    ("GMD", "जि.एम.दि"), ("GNF", "जि.एन.एफ"), ("GTQ", "जि.ति.किउ"), ("GYD", "जि.वाई.दि"),
    ("HKD", "ऐत्स.के$"), ("HNL", "ऐत्स.एन.एल"), ("HRK", "ऐत्स.आर.के"), ("HTG", "ऐत्स.ति.जि"),
    ("HUF", "ऐत्स.इउ.एफ"), ("IQD", "आइ.किउ.दि"), ("ISK", "आई.एस.के"), ("JMD", "जे.एम.दि"),
    ("JOD", "जे.अ.दि"), ("KES", "के.इ.एस"), ("KGS", "के.जि.एस"), ("KMF", "के.एम.एफ"),
    ("KPW", "के.पि.दब्ल्यु"), ("KWD", "के.दब्ल्यु.दि"), ("KYD", "के.वाई.दि"), ("KZT", "के.जेत.ति"),
    ("LBP", "एल.बि.पि"), ("LRD", "एल.आर.दि"), ("LSL", "एल.एस.एल"), ("LYD", "एल.वाई.दि"),
    ("MAD", "एम.ए.दि"), ("MDL", "एम.डि.एल"), ("MGA", "एम.जि.ए"), ("MKD", "एम.के.दि"),
    ("MNT", "एम.एन.ति"), ("MOP", "एम.अ.पि"), ("MRU", "एम.आर.इउ"), ("MUR", "एम.इउ.आर"),
    ("MWK", "एम.दब्ल्यु.के"), ("MXN", "एम.एक्स $"), ("MZN", "एम.जेत.एन"), ("NAD", "एन.ए.दि"),
    ("NGN", "एन.जि.एन"), ("NIO", "एन.आई.अ"), ("NOK", "एन.अ.के"), ("OMR", "अ.एम.आर"),
    ("PAB", "पि.ए.बि"), ("PEN", "पि.इ.एन"), ("PLN", "पि.एल.एन"), ("PYG", "पि.आई.जि"),
    ("QAR", "किउ.ए.आर"), ("RON", "आर.अ.एन"), ("RSD", "आर.एस.दि"), ("RUB", "रूब"),
    ("SAR", "एस.ए.आर"), ("SCR", "एस.सि.आर"), ("SDG", "एस.दि.जि"), ("SEK", "एस.इ.के"),
    ("SHP", "एस.ऐत्स.पि"), ("SLE", "एस.एल.इ"), ("SLL", "एस.एल.एल"), ("SOS", "एस.अ.एस"),
    ("SRD", "एस.आर.डि"), ("SSP", "एस.एस.पि"), ("STN", "एस.ति.एन"), ("SYP", "एस.वाई.पि"),
    ("SZL", "एस.जेत.एल"), ("TJS", "ति.जे.एस"), ("TMT", "ति.एम.ति"), ("TND", "ति.एन.दि"),
    ("TRY", "ति.आर.वाई"), ("TTD", "ति.ति.डि"), ("TWD", "एन.ति$"), ("TZS", "ति.जेत.एस"),
    ("UAH", "इउ.ए.ऐत्स"), ("UGX", "इउ.जि.एक्स"), ("USD", "$"), ("UYU", "इउ.वाई.इउ"),
    ("UZS", "इउ.जेत.एस"), ("VES", "भि.इ.एस"), ("XCD", "इ.सि $"), ("YER", "वाई.इ.आर"),
    ("ZAR", "जेत.ए.आर")]),
  (["bs"], [
    ("AUD", "AUD"), ("BAM", "KM"), ("BRL", "BRL"), ("CAD", "CAD"), ("CNY", "CNY"), ("GBP", "GBP"),
    ("HKD", "HKD"), ("HRK", "kn"), ("ILS", "ILS"), ("JPY", "¥"), ("MXN", "MXN"), ("NZD", "NZD"),
    ("PHP", "PHP"), ("RSD", "din."), ("THB", "฿"), ("USD", "USD"), ("XCD", "XCD"), ("XPF", "XPF")]),
  (["bs_Cyrl"], [
    ("BAM", "КМ"), ("CZK", "Кч"), ("JPY", "¥"), ("PLN", "зл"), ("RSD", "дин."), ("TRY", "Тл")]),
  (["ca"], [
    ("AUD", "AU$"), ("BRL", "BRL"), ("CAD", "CAD"), ("CNY", "CNY"), ("JPY", "¥"), ("MXN", "MXN"),
    ("PHP", "PHP"), ("THB", "฿"), ("USD", "USD"), ("XCD", "XCD"), ("XCG", "XCG")]),
  (["ce"], [("PHP", "PHP"), ("RUB", "₽")]),
  (["ceb"], [("USD", "US $")]),
  (["cgg", "en_UG", "lg", "nyn", "sw_UG", "teo", "xog"], [("UGX", "USh")]),
  (["chr", "mzn"], [("PHP", "PHP"), ("USD", "$")]),
  (["ckb", "lrc"], [("IQD", "د.ع.")]),
  (["cs"], [
    ("AUD", "AU$"), ("CZK", "Kč"), ("ILS", "ILS"), ("INR", "INR"), ("PHP", "PHP"), ("VND", "VND")]),
  (["cy"], [("KRW", "KRW"), ("PHP", "PHP"), ("THB", "฿")]),
  (["da"], [("AUD", "AU$"), ("DKK", "kr."), ("PHP", "PHP"), ("THB", "฿")]),
  (["dav", "ebu", "en_KE", "guz", "kam", "ki", "kln", "luo", "luy", "mas", "mer", "om_KE", "saq",
    "so_KE", "teo_KE"], [
    ("KES", "Ksh")]),
  (["de"], [("AUD", "AU$"), ("JPY", "¥"), ("THB", "฿"), ("USD", "$")]),
  (["de_CH", "de_LI"], [("EUR", "EUR")]),
  (["dsb", "hsb"], [("AUD", "AUD"), ("JPY", "¥"), ("PLN", "zł"), ("THB", "฿"), ("USD", "$")]),
  (["dz"], [
    ("AUD", "AU$"), ("BTN", "Nu."), ("ILS", "ILS"), ("KRW", "KR₩"), ("THB", "TH฿"), ("XAF", "XAF")]),
  (["ee"], [("AUD", "AU$"), ("GHS", "GH₵"), ("THB", "฿")]),
  (["el", "gd", "hi", "kn", "mr", "te"], [("PHP", "PHP"), ("THB", "฿"), ("USD", "$")]),
  (["en", "es_US", "gsw", "sd_Deva", "wae"], [("JPY", "¥"), ("USD", "$")]),
  (["en_001"], [("JPY", "JP¥"), ("USD", "US$")]),
  (["en_AG", "en_AI", "en_DM", "en_GD", "en_KN", "en_LC", "en_MS", "en_VC"], [("XCD", "$")]),
  (["en_AU"], [
    ("AUD", "$"), ("BRL", "BRL"), ("CAD", "CAD"), ("CNY", "CNY"), ("EUR", "EUR"), ("GBP", "GBP"),
    ("HKD", "HKD"), ("ILS", "ILS"), ("INR", "INR"), ("JPY", "JPY"), ("KRW", "KRW"), ("MXN", "MXN"),
    ("NZD", "NZD"), ("PHP", "PHP"), ("SCR", "Rs"), ("TWD", "TWD"), ("USD", "USD"), ("VND", "VND"),
    ("XAF", "XAF"), ("XCD", "XCD"), ("XOF", "XOF"), ("XPF", "CFP")]),
  (["en_BB"], [("BBD", "$")]),
  (["en_BI", "fr_BI", "rn"], [("BIF", "FBu")]),
  (["en_BM"], [("BMD", "$")]),
  (["en_BS"], [("BSD", "$")]),
  (["en_BW"], [("BWP", "P")]),
  (["en_BZ", "es_BZ"], [("BZD", "$")]),
  (["en_CA"], [("CAD", "$"), ("JPY", "JP¥"), ("USD", "US$"), ("XCG", "Cg")]),
  (["en_CC", "en_CX", "en_KI", "en_NF", "en_NR", "en_TV"], [("AUD", "$")]),
  (["en_CK", "en_NU", "en_NZ", "en_PN", "en_TK"], [("NZD", "$")]),
  (["en_DK", "fo_DK", "kl"], [("DKK", "kr.")]),
  (["en_FJ"], [("FJD", "$")]),
  (["en_FK"], [("FKP", "£"), ("GBP", "GB£")]),
  (["en_GH", "ff_Latn_GH", "ha_GH"], [("GHS", "GH₵")]),
  (["en_GI"], [("GBP", "GB£"), ("GIP", "£")]),
  (["en_GM", "ff_Latn_GM"], [("GMD", "D")]),
  (["en_GY"], [("GYD", "$")]),
  (["en_ID", "jv", "ms_ID"], [("IDR", "Rp")]),
  (["en_JM"], [("JMD", "$")]),
  (["en_KY"], [("KYD", "$")]),
  (["en_LR", "ff_Latn_LR"], [("LRD", "$")]),
  (["en_LS", "en_ZA"], [("ZAR", "R")]),
  (["en_MG", "fr_MG", "mg"], [("MGA", "Ar")]),
  (["en_MO", "pt_MO", "zh_Hant_MO"], [("MOP", "MOP$")]),
  (["en_MT"], [("GBP", "GB£")]),
  (["en_MU", "fr_MU", "mfe"], [("MUR", "Rs")]),
  (["en_MV"], [("MVR", "Rf")]),
  (["en_MW"], [("MWK", "MK")]),
  (["en_MY"], [("MYR", "RM")]),
  (["en_NG", "ff_Latn_NG"], [("NGN", "₦")]),
  (["en_PG"], [("PGK", "K")]),
  (["en_PK", "ps_PK"], [("PKR", "Rs")]),
  (["en_RW", "fr_RW", "rw"], [("RWF", "RF")]),
  (["en_SB"], [("SBD", "$")]),
  (["en_SC", "fr_SC"], [("SCR", "SR")]),
  (["en_SE"], [("SEK", "kr")]),
  (["en_SG", "ms_SG"], [("SGD", "$")]),
  (["en_SH"], [("GBP", "GB£"), ("SHP", "£")]),
  (["en_SL", "ff_Latn_SL"], [("SLE", "Le")]),
  (["en_SX", "nl_CW", "nl_SX"], [("ANG", "NAf.")]),
  (["en_SZ"], [("SZL", "E")]),
  (["en_TO"], [("TOP", "T$")]),
  (["en_TT"], [("TTD", "$")]),
  (["en_VU", "fr_VU"], [("VUV", "VT")]),
  (["en_WS"], [("WST", "WS$")]),
  (["eo"], [
    ("AUD", "AUD"), ("BRL", "BRL"), ("CAD", "CAD"), ("CNY", "CNY"), ("GBP", "GBP"), ("HKD", "HKD"),
    ("ILS", "ILS"), ("INR", "INR"), ("JPY", "JPY"), ("KRW", "KRW"), ("MXN", "MXN"), ("NZD", "NZD"),
    ("PHP", "PHP"), ("TWD", "TWD"), ("USD", "USD"), ("VND", "VND"), ("XAF", "XAF"), ("XCD", "XCD"),
    ("XCG", "XCG"), ("XOF", "XOF"), ("XPF", "XPF")]),
  (["es"], [
    ("AUD", "AUD"), ("BRL", "BRL"), ("CAD", "CAD"), ("CNY", "CNY"), ("GBP", "GBP"), ("HKD", "HKD"),
    ("ILS", "ILS"), ("INR", "INR"), ("JPY", "JPY"), ("KRW", "KRW"), ("MXN", "MXN"), ("NZD", "NZD"),
    ("PHP", "PHP"), ("THB", "฿"), ("TWD", "TWD"), ("XAF", "XAF"), ("XCD", "XCD"), ("XOF", "XOF")]),
  (["es_419"], [("EUR", "EUR"), ("THB", "THB"), ("USD", "USD"), ("VND", "VND")]),
  (["es_AR"], [("ARS", "$"), ("USD", "US$")]),
  (["es_BO"], [("BOB", "Bs")]),
  (["es_BR"], [("BRL", "R$")]),
  (["es_CL"], [("CLP", "$"), ("USD", "US$")]),
  (["es_CO"], [("COP", "$"), ("USD", "US$")]),
  (["es_CR"], [("CRC", "₡")]),
  (["es_CU"], [("CUP", "$"), ("USD", "US$")]),
  (["es_DO"], [("DOP", "RD$"), ("USD", "US$")]),
  (["es_GQ"], [("XAF", "FCFA")]),
  (["es_GT"], [("GTQ", "Q")]),
  (["es_HN"], [("HNL", "L")]),
  (["es_MX"], [("MRU", "UM"), ("MXN", "$")]),
  (["es_NI"], [("NIO", "C$")]),
  (["es_PA"], [("PAB", "B/.")]),
  (["es_PE"], [("PEN", "S/")]),
  (["es_PH"], [("PHP", "₱")]),
  (["es_PY"], [("PYG", "Gs.")]),
  (["es_UY"], [("USD", "US$"), ("UYU", "$")]),
  (["es_VE"], [("VES", "Bs.S")]),
  (["et", "lb", "lv"], [("AUD", "AU$"), ("JPY", "¥"), ("PHP", "PHP"), ("THB", "฿"), ("USD", "$")]),
  (["eu", "gu", "pa"], [("PHP", "PHP"), ("THB", "฿")]),
  (["fa"], [
    ("AFN", "؋"), ("CAD", "$CA"), ("CNY", "¥CN"), ("HKD", "$HK"), ("IRR", "ریال"), ("JPY", "¥"),
    ("MXN", "$MX"), ("NZD", "$NZ"), ("PHP", "PHP"), ("THB", "฿"), ("USD", "$"), ("XCD", "$EC"),
    ("XOF", "فرانک\u202fCFA")]),
  (["ff_Adlm"], [
    ("GNF", "FG"), ("NGN", "𞤐𞤐𞤘"), ("PGK", "𞤑𞤆𞤘"), ("PHP", "𞤆𞤆𞤖"), ("XAF", "𞤊𞤅𞤊𞤀"), ("XOF", "𞤅𞤊𞤀")]),
  (["ff_Adlm_BF", "ff_Adlm_CM", "ff_Adlm_GW", "ff_Adlm_NE", "ff_Adlm_SN"], [("GNF", "GNF")]),
  (["ff_Adlm_GH"], [("GHS", "GH₵"), ("GNF", "GNF")]),
  (["ff_Adlm_GM"], [("GMD", "D"), ("GNF", "GNF")]),
  (["ff_Adlm_LR"], [("GNF", "GNF"), ("LRD", "$")]),
  (["ff_Adlm_MR"], [("GNF", "GNF"), ("MRU", "UM")]),
  (["ff_Adlm_NG"], [("GNF", "GNF"), ("NGN", "₦")]),
  (["ff_Adlm_SL"], [("GNF", "GNF"), ("SLE", "Le")]),
  (["ff_Latn_GN", "fr_GN"], [("GNF", "FG")]),
  (["ff_Latn_MR", "fr_MR"], [("MRU", "UM")]),
  (["fi"], [
    ("AUD", "AUD"), ("BRL", "BRL"), ("CAD", "CAD"), ("CNY", "CNY"), ("HKD", "HKD"), ("ILS", "ILS"),
    ("INR", "INR"), ("JPY", "¥"), ("KRW", "KRW"), ("MXN", "MXN"), ("NZD", "NZD"), ("PHP", "PHP"),
    ("TWD", "TWD"), ("USD", "$"), ("VND", "VND"), ("XCD", "XCD"), ("XPF", "XPF")]),
  (["fil", "ga"], [("JPY", "¥"), ("THB", "฿"), ("USD", "$")]),
  (["fo"], [("DKK", "kr"), ("PHP", "PHP")]),
  (["fr"], [
    ("ARS", "$AR"), ("AUD", "$AU"), ("BMD", "$BM"), ("BND", "$BN"), ("BZD", "$BZ"), ("CAD", "$CA"),
    ("CLP", "$CL"), ("CNY", "CNY"), ("COP", "$CO"), ("FJD", "$FJ"), ("FKP", "£FK"), ("GBP", "£GB"),
    ("GIP", "£GI"), ("HKD", "$HK"), ("JPY", "JPY"), ("LBP", "£LB"), ("MXN", "$MX"), ("NAD", "$NA"),
    ("NZD", "$NZ"), ("PHP", "PHP"), ("SBD", "$SB"), ("SGD", "$SG"), ("SRD", "$SR"), ("TTD", "$TT"),
    ("TWD", "TWD"), ("USD", "$US"), ("UYU", "$UY"), ("WST", "$WS"), ("XCD", "XCD"),
    ("XPF", "FCFP")]),
  (["fr_CA"], [
    ("ARS", "ARS"), ("AUD", "$\u00a0AU"), ("BMD", "BMD"), ("BND", "BND"), ("BZD", "BZD"),
    ("CAD", "$"), ("CLP", "CLP"), ("CNY", "CN¥"), ("COP", "COP"), ("FJD", "FJD"), ("FKP", "FKP"),
    ("GBP", "£"), ("GIP", "GIP"), ("HKD", "$\u00a0HK"), ("ILS", "ILS"), ("INR", "INR"),
    ("JPY", "¥"), ("KRW", "KRW"), ("LBP", "LBP"), ("MXN", "MXN"), ("NAD", "NAD"),
    ("NZD", "$\u00a0NZ"), ("SBD", "SBD"), ("SGD", "$\u00a0SG"), ("SRD", "SRD"), ("TTD", "TTD"),
    ("USD", "$\u00a0US"), ("UYU", "UYU"), ("VND", "VND"), ("WST", "WST"), ("XAF", "XAF"),
    ("XOF", "XOF"), ("XPF", "XPF")]),
  (["fr_CD", "ln", "lu", "sw_CD"], [("CDF", "FC")]),
  (["fr_DZ", "kab"], [("DZD", "DA")]),
  (["fr_HT"], [("HTG", "G")]),
  (["fr_SY"], [("SYP", "LS")]),
  (["fr_TN"], [("TND", "DT")]),
  (["fy"], [
    ("AUD", "AU$"), ("CAD", "C$"), ("FJD", "FJ$"), ("SBD", "SI$"), ("THB", "฿"), ("XPF", "XPF")]),
  (["gl"], [
    ("MXN", "$MX"), ("PHP", "PHP"), ("THB", "฿"), ("USD", "$"), ("XCD", "XCD"), ("XCG", "ƒ")]),
  (["ha", "ig"], [("JPY", "¥"), ("NGN", "₦"), ("USD", "$")]),
  (["hr"], [
    ("AUD", "AUD"), ("BRL", "BRL"), ("CAD", "CAD"), ("CNY", "CNY"), ("GBP", "GBP"), ("HKD", "HKD"),
    ("HRK", "kn"), ("ILS", "ILS"), ("INR", "INR"), ("JPY", "JPY"), ("KRW", "KRW"), ("MXN", "MXN"),
    ("NZD", "NZD"), ("PHP", "PHP"), ("TWD", "TWD"), ("USD", "USD"), ("VND", "VND"), ("XCD", "XCD"),
    ("XPF", "XPF")]),
  (["hr_BA", "sr_Cyrl_ME"], [("BAM", "KM")]),
  (["hu"], [
    ("AUD", "AUD"), ("BRL", "BRL"), ("CAD", "CAD"), ("CNY", "CNY"), ("EUR", "EUR"), ("GBP", "GBP"),
    ("HKD", "HKD"), ("HUF", "Ft"), ("ILS", "ILS"), ("INR", "INR"), ("JPY", "¥"), ("KRW", "KRW"),
    ("MXN", "MXN"), ("NZD", "NZD"), ("PHP", "PHP"), ("TWD", "TWD"), ("USD", "USD"), ("VND", "VND"),
    ("XCD", "XCD")]),
  (["hy"], [("AMD", "֏"), ("PHP", "PHP"), ("THB", "฿"), ("USD", "$")]),
  (["ia", "sah"], [("RUB", "₽")]),
  (["id"], [("AUD", "AU$"), ("IDR", "Rp"), ("INR", "Rs"), ("PHP", "PHP"), ("THB", "฿")]),
  (["is"], [
    ("AUD", "AUD"), ("BRL", "BRL"), ("CAD", "CAD"), ("EUR", "EUR"), ("GBP", "GBP"), ("INR", "INR"),
    ("ISK", "kr."), ("KRW", "KRW"), ("MXN", "MXN"), ("NZD", "NZD"), ("PHP", "PHP"), ("TWD", "TWD"),
    ("USD", "USD"), ("VND", "VND"), ("XCG", "XCG")]),
  (["it"], [
    ("BRL", "BRL"), ("HKD", "HKD"), ("INR", "INR"), ("JPY", "JPY"), ("KRW", "KRW"), ("MXN", "MXN"),
    ("THB", "฿"), ("TWD", "TWD"), ("USD", "USD"), ("VND", "VND"), ("XCG", "Cf")]),
  (["ja"], [("CNY", "元"), ("JPY", "￥"), ("USD", "$"), ("XCG", "Cg")]),
  (["ka"], [
    ("AUD", "AUD"), ("CNY", "CNY"), ("GEL", "₾"), ("HKD", "HKD"), ("ILS", "ILS"), ("INR", "INR"),
    ("JPY", "JPY"), ("KRW", "KRW"), ("NZD", "NZD"), ("PHP", "PHP"), ("VND", "VND")]),
  (["kea"], [("AUD", "AU$"), ("CVE", "​"), ("THB", "฿")]),
  (["kk"], [
    ("KZT", "₸"), ("LSL", "ЛСЛ"), ("PHP", "PHP"), ("RUB", "₽"), ("THB", "฿"), ("USD", "$")]),
  (["km"], [("KHR", "៛"), ("LSL", "ឡូទី"), ("PHP", "PHP"), ("THB", "฿"), ("USD", "$")]),
  (["ko"], [("AUD", "AU$"), ("PHP", "PHP")]),
  (["kok"], [("PHP", "PHP"), ("RON", "रॉन")]),
  (["ku"], [("TRY", "₺"), ("USD", "$")]),
  (["ky"], [
    ("AUD", "AUD"), ("BRL", "BRL"), ("CAD", "CAD"), ("GBP", "GBP"), ("HKD", "HKD"), ("ILS", "ILS"),
    ("INR", "INR"), ("KGS", "сом"), ("KRW", "KRW"), ("MXN", "MXN"), ("NZD", "NZD"), ("PHP", "PHP"),
    ("THB", "฿"), ("TWD", "TWD"), ("USD", "USD"), ("XCD", "XCD")]),
  (["ln_AO", "pt_AO"], [("AOA", "Kz")]),
  (["lo"], [("LAK", "₭"), ("PHP", "PHP"), ("THB", "฿")]),
  (["lt"], [
    ("AUD", "AUD"), ("BRL", "BRL"), ("CAD", "CAD"), ("CNY", "CNY"), ("GBP", "GBP"), ("HKD", "HKD"),
    ("ILS", "ILS"), ("INR", "INR"), ("JPY", "JPY"), ("KRW", "KRW"), ("MXN", "MXN"), ("NZD", "NZD"),
    ("PHP", "PHP"), ("TWD", "TWD"), ("USD", "USD"), ("VND", "VND"), ("XAF", "XAF"), ("XCD", "XCD"),
    ("XOF", "XOF"), ("XPF", "XPF")]),
  (["mgh", "pt_MZ", "seh"], [("MZN", "MTn")]),
  (["mi"], [("JPY", "¥"), ("NZD", "$")]),
  (["mk"], [
    ("AUD", "AUD"), ("CNY", "CNY"), ("GBP", "GBP"), ("HKD", "HKD"), ("ILS", "ILS"), ("INR", "INR"),
    ("JPY", "JPY"), ("KRW", "KRW"), ("MKD", "ден."), ("NZD", "NZD"), ("PHP", "PHP"), ("TWD", "TWD"),
    ("VND", "VND")]),
  (["mn"], [("MNT", "₮"), ("PHP", "PHP"), ("THB", "฿"), ("USD", "$")]),
  (["ms"], [("CAD", "CAD"), ("MXN", "MXN"), ("MYR", "RM"), ("PHP", "PHP"), ("USD", "USD")]),
  (["ms_BN"], [("BND", "$")]),
  (["my"], [
    ("ANG", "NAf"), ("AWG", "Afl"), ("HTG", "G"), ("MMK", "K"), ("PAB", "B/."), ("THB", "฿"),
    ("TTD", "TT$")]),
  (["ne"], [("NPR", "नेरू"), ("PHP", "PHP"), ("THB", "฿")]),
  (["nl"], [
    ("AUD", "AU$"), ("CAD", "C$"), ("FJD", "FJ$"), ("PHP", "PHP"), ("SBD", "SI$"), ("THB", "฿"),
    ("XPF", "XPF"), ("ZWG", "ZiG")]),
  (["nl_AW"], [("AWG", "Afl.")]),
  (["nl_SR"], [("SRD", "$")]),
  (["nn"], [("GBP", "GBP")]),
  (["no"], [
    ("AUD", "AUD"), ("BRL", "BRL"), ("CAD", "CAD"), ("CNY", "CNY"), ("HKD", "HKD"), ("ILS", "ILS"),
    ("INR", "INR"), ("JPY", "JPY"), ("KRW", "KRW"), ("MXN", "MXN"), ("NOK", "kr"), ("NZD", "NZD"),
    ("PHP", "PHP"), ("TWD", "TWD"), ("USD", "USD"), ("VND", "VND"), ("XAF", "XAF"), ("XCD", "XCD"),
    ("XPF", "XPF")]),
  (["om", "so_ET"], [("ETB", "Br")]),
  (["or"], [("JPY", "¥"), ("PHP", "PHP"), ("USD", "$")]),
  (["os"], [("GEL", "₾"), ("USD", "$")]),
  (["os_RU"], [("GEL", "GEL"), ("RUB", "₽")]),
  (["pa_Arab"], [("PKR", "ر")]),
  (["pcm"], [("CAD", "KA$"), ("NGN", "₦"), ("PHP", "PHP")]),
  (["pl"], [
    ("AUD", "AUD"), ("CAD", "CAD"), ("CNY", "CNY"), ("GBP", "GBP"), ("HKD", "HKD"), ("ILS", "ILS"),
    ("INR", "INR"), ("JPY", "JPY"), ("KRW", "KRW"), ("MXN", "MXN"), ("NZD", "NZD"), ("PHP", "PHP"),
    ("PLN", "zł"), ("TWD", "TWD"), ("USD", "USD"), ("VND", "VND"), ("XCG", "XCG")]),
  (["ps"], [("AFN", "؋"), ("USD", "$")]),
  (["pt"], [("AUD", "AU$"), ("PHP", "PHP"), ("THB", "฿")]),
  (["pt_CV"], [("CVE", "​")]),
  (["pt_ST"], [("STN", "Db")]),
  (["qu"], [
    ("BBD", "BBG"), ("BMD", "DBM"), ("BZD", "DBZ"), ("CAD", "$CA"), ("PEN", "S/"), ("PHP", "PHP"),
    ("USD", "$US")]),
  (["qu_BO"], [("BOB", "Bs"), ("PEN", "PEN")]),
  (["qu_EC"], [("PEN", "PEN"), ("USD", "$")]),
  (["ro"], [
    ("AUD", "AUD"), ("BRL", "BRL"), ("CAD", "CAD"), ("CNY", "CNY"), ("EUR", "EUR"), ("GBP", "GBP"),
    ("HKD", "HKD"), ("ILS", "ILS"), ("INR", "INR"), ("JPY", "JPY"), ("KRW", "KRW"), ("MXN", "MXN"),
    ("NZD", "NZD"), ("PHP", "PHP"), ("TWD", "TWD"), ("USD", "USD"), ("VND", "VND"), ("XCD", "XCD")]),
  (["ro_MD", "ru_MD"], [("MDL", "L")]),
  (["ru"], [
    ("JPY", "¥"), ("PHP", "PHP"), ("RUB", "₽"), ("THB", "฿"), ("TMT", "ТМТ"), ("UAH", "₴"),
    ("USD", "$"), ("XCG", "Cg")]),
  (["ru_BY"], [("BYN", "Br")]),
  (["ru_KG"], [("KGS", "сом")]),
  (["ru_KZ"], [("KZT", "₸")]),
  (["sc"], [("XDR", "DIP")]),
  (["sd"], [("PHP", "PHP"), ("PKR", "Rs")]),
  (["se"], [("DKK", "Dkr"), ("NOK", "kr"), ("SEK", "Skr"), ("THB", "฿")]),
  (["se_SE"], [("NOK", "Nkr"), ("SEK", "kr")]),
  (["si"], [("LKR", "රු."), ("PHP", "PHP"), ("THB", "฿"), ("XOF", "සිෆ්එ")]),
  (["sk"], [
    ("AUD", "AUD"), ("BRL", "BRL"), ("CAD", "CAD"), ("CNY", "CNY"), ("GBP", "GBP"), ("HKD", "HKD"),
    ("ILS", "NIS"), ("INR", "INR"), ("JPY", "JPY"), ("KRW", "KRW"), ("NZD", "NZD"), ("PHP", "PHP"),
    ("TWD", "TWD"), ("USD", "USD"), ("VND", "VND"), ("XCG", "Cg")]),
  (["sl"], [
    ("AUD", "AUD"), ("BRL", "BRL"), ("CAD", "CAD"), ("GBP", "GBP"), ("JPY", "¥"), ("MXN", "MXN"),
    ("NZD", "NZD"), ("PHP", "PHP"), ("TWD", "TWD"), ("USD", "$"), ("XCD", "XCD")]),
  (["so"], [("BBD", "DBB"), ("SOS", "S")]),
  (["sq"], [("ALL", "Lekë"), ("BRL", "BRL"), ("PHP", "PHP"), ("THB", "฿"), ("XCG", "ANG")]),
  (["sq_MK"], [("MKD", "den")]),
  (["sr"], [
    ("AUD", "AUD"), ("BAM", "КМ"), ("JPY", "¥"), ("KRW", "KRW"), ("NZD", "NZD"), ("PHP", "PHP"),
    ("VND", "VND")]),
  (["sr_Latn"], [
    ("AUD", "AUD"), ("BAM", "KM"), ("JPY", "¥"), ("KRW", "KRW"), ("NZD", "NZD"), ("PHP", "PHP"),
    ("VND", "VND")]),
  (["su"], [("IDR", "Rp"), ("JPY", "¥"), ("USD", "$")]),
  (["sv"], [
    ("AUD", "AUD"), ("BBD", "Bds$"), ("BMD", "BM$"), ("BRL", "BR$"), ("BSD", "BS$"), ("BZD", "BZ$"),
    ("CNY", "CNY"), ("DKK", "Dkr"), ("DOP", "RD$"), ("EGP", "EG£"), ("GBP", "GBP"), ("HKD", "HKD"),
    ("INR", "INR"), ("ISK", "Ikr"), ("JMD", "JM$"), ("JPY", "JPY"), ("KRW", "KRW"), ("NOK", "Nkr"),
    ("NZD", "NZD"), ("PHP", "PHP"), ("SEK", "kr"), ("TWD", "TWD"), ("VND", "VND"), ("XCG", "XCG")]),
  (["sw"], [("KES", "Ksh"), ("PHP", "PHP"), ("THB", "฿"), ("TZS", "TSh")]),
  (["ta_LK"], [("LKR", "Rs.")]),
  (["ta_MY"], [("MYR", "RM"), ("SGD", "S$")]),
  (["ta_SG"], [("MYR", "RM"), ("SGD", "$"), ("USD", "US$")]),
  (["tg"], [("TJS", "сом."), ("USD", "$")]),
  (["th", "vi"], [("AUD", "AU$"), ("JPY", "¥"), ("PHP", "PHP"), ("THB", "฿")]),
  (["ti"], [("CNY", "CNY"), ("ETB", "Br"), ("JPY", "JPY")]),
  (["tk"], [("EUR", "EUR"), ("GBP", "GBP"), ("PHP", "PHP"), ("XCG", "Kg.")]),
  (["to"], [("AUD", "AUD$"), ("NZD", "NZD$"), ("TOP", "T$")]),
  (["tr"], [
    ("AUD", "AU$"), ("JPY", "¥"), ("PHP", "PHP"), ("THB", "฿"), ("TRY", "₺"), ("USD", "$")]),
  (["tt"], [("RUB", "₽"), ("USD", "$")]),
  (["ug"], [("CNY", "￥"), ("USD", "$")]),
  (["uk"], [
    ("AUD", "AUD"), ("BRL", "BRL"), ("CAD", "CAD"), ("CNY", "CNY"), ("EUR", "EUR"), ("GBP", "GBP"),
    ("HKD", "HKD"), ("ILS", "ILS"), ("INR", "INR"), ("JPY", "¥"), ("KRW", "KRW"), ("MXN", "MXN"),
    ("NZD", "NZD"), ("PHP", "PHP"), ("TWD", "TWD"), ("UAH", "₴"), ("USD", "USD"), ("VND", "VND"),
    ("XCD", "XCD")]),
  (["ur"], [("PHP", "PHP"), ("PKR", "Rs"), ("THB", "฿"), ("USD", "$")]),
  (["ur_IN"], [("PKR", "PKR")]),
  (["uz"], [("PHP", "PHP"), ("UZS", "soʻm")]),
  (["uz_Arab"], [("AFN", "؋")]),
  (["uz_Cyrl"], [("THB", "฿"), ("UZS", "сўм")]),
  (["wo"], [
    ("EGP", "EGPP"), ("GHS", "GHS."), ("GIP", "GIIP"), ("GTQ", "GT Q"), ("HRK", "HRKS"),
    ("MDL", "Vote MDL"), ("NGN", "NGN."), ("USD", "$")]),
  (["xh"], [("JPY", "¥"), ("USD", "$"), ("XCG", "ICg."), ("ZAR", "R"), ("ZWG", "IZWG")]),
  (["yo"], [("NGN", "₦"), ("RUB", "₽"), ("USD", "$")]),
  (["yue", "yue_Hans"], [("AUD", "AU$"), ("JPY", "¥"), ("KRW", "￦"), ("PHP", "PHP")]),
  (["zh"], [("AUD", "AU$"), ("CNY", "¥"), ("PHP", "PHP"), ("XXX", "XXX")]),
  (["zh_Hans_MO"], [("CNY", "CN¥"), ("MOP", "MOP$")]),
  (["zh_Hans_SG"], [("CNY", "CN¥"), ("SGD", "$")]),
  (["zh_Hant"], [("AUD", "AU$"), ("JPY", "¥"), ("KRW", "￦"), ("PHP", "PHP"), ("TWD", "$")]),
  (["zh_Hant_HK"], [("KRW", "₩"), ("TWD", "NT$")]),
  (["zu"], [("PHP", "PHP"), ("THB", "฿"), ("USD", "$"), ("ZAR", "R")])]

end Phrasebook
