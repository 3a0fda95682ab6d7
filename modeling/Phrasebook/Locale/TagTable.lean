/-!
# Known locales, old codes and likely subtags
-/

set_option autoImplicit false

namespace Phrasebook

/-- The locales that exist: a language, perhaps with a script or a territory, and the subtags that
can follow it. -/
def localeFamilies : List (String × List String) := [
  ("af", ["NA", "ZA"]), ("ak", ["GH"]), ("am", ["ET"]),
  ("ar", [
    "001", "AE", "BH", "DJ", "DZ", "EG", "EH", "ER", "IL", "IQ", "JO", "KM", "KW", "LB", "LY", "MA",
    "MR", "OM", "PS", "QA", "SA", "SD", "SO", "SS", "SY", "TD", "TN", "YE"]),
  ("as", ["IN"]), ("asa", ["TZ"]), ("ast", ["ES"]), ("az", []), ("az_Arab", []),
  ("az_Cyrl", ["AZ"]), ("az_Latn", ["AZ"]), ("bas", ["CM"]), ("be", ["BY", "TARASK"]),
  ("bem", ["ZM"]), ("bez", ["TZ"]), ("bg", ["BG"]), ("bm", ["ML"]), ("bn", ["BD", "IN"]),
  ("bo", ["CN", "IN"]), ("br", ["FR"]), ("brx", ["IN"]), ("bs", []), ("bs_Cyrl", ["BA"]),
  ("bs_Latn", ["BA"]), ("ca", ["AD", "ES", "FR", "IT"]), ("ca_ES", ["VALENCIA"]), ("ce", ["RU"]),
  ("ceb", ["PH"]), ("cgg", ["UG"]), ("chr", ["US"]), ("ckb", ["IQ", "IR"]), ("cs", ["CZ"]),
  ("cy", ["GB"]), ("da", ["DK", "GL"]), ("dav", ["KE"]),
  ("de", ["AT", "BE", "CH", "DE", "IT", "LI", "LU"]), ("dje", ["NE"]), ("dsb", ["DE"]),
  ("dua", ["CM"]), ("dyo", ["SN"]), ("dz", ["BT"]), ("ebu", ["KE"]), ("ee", ["GH", "TG"]),
  ("el", ["CY", "GR"]),
  ("en", [
    "001", "150", "AE", "AG", "AI", "AS", "AT", "AU", "BB", "BE", "BI", "BM", "BS", "BW", "BZ",
    "CA", "CC", "CH", "CK", "CM", "CX", "CY", "DE", "DG", "DK", "DM", "ER", "FI", "FJ", "FK", "FM",
    "GB", "GD", "GG", "GH", "GI", "GM", "GU", "GY", "HK", "ID", "IE", "IL", "IM", "IN", "IO", "JE",
    "JM", "KE", "KI", "KN", "KY", "LC", "LR", "LS", "MG", "MH", "MO", "MP", "MS", "MT", "MU", "MV",
    "MW", "MY", "NA", "NF", "NG", "NL", "NR", "NU", "NZ", "PG", "PH", "PK", "PN", "PR", "PW", "RW",
    "SB", "SC", "SD", "SE", "SG", "SH", "SI", "SL", "SS", "SX", "SZ", "TC", "TK", "TO", "TT", "TV",
    "TZ", "UG", "UM", "US", "VC", "VG", "VI", "VU", "WS", "ZA", "ZM", "ZW"]),
  ("en_US", ["POSIX"]), ("eo", ["001"]),
  ("es", [
    "419", "AR", "BO", "BR", "BZ", "CL", "CO", "CR", "CU", "DO", "EA", "EC", "ES", "GQ", "GT", "HN",
    "IC", "MX", "NI", "PA", "PE", "PH", "PR", "PY", "SV", "US", "UY", "VE"]),
  ("et", ["EE"]), ("eu", ["ES"]), ("ewo", ["CM"]), ("fa", ["AF", "IR"]), ("ff", []),
  ("ff_Adlm", ["BF", "CM", "GH", "GM", "GN", "GW", "LR", "ML", "MR", "NE", "NG", "SL", "SN"]),
  ("ff_Latn", ["BF", "CM", "GH", "GM", "GN", "GW", "LR", "ML", "MR", "NE", "NG", "SL", "SN"]),
  ("fi", ["FI"]), ("fil", ["PH"]), ("fo", ["DK", "FO"]),
  ("fr", [
    "BE", "BF", "BI", "BJ", "BL", "CA", "CD", "CF", "CG", "CH", "CI", "CM", "DJ", "DZ", "FR", "GA",
    "GF", "GN", "GP", "GQ", "HT", "KM", "LU", "MA", "MC", "MF", "MG", "ML", "MQ", "MR", "MU", "NC",
    "NE", "PF", "PM", "RE", "RW", "SC", "SN", "SY", "TD", "TG", "TN", "VU", "WF", "YT"]),
  ("fur", ["IT"]), ("fy", ["NL"]), ("ga", ["GB", "IE"]), ("gd", ["GB"]), ("gl", ["ES"]),
  ("gsw", ["CH", "FR", "LI"]), ("gu", ["IN"]), ("guz", ["KE"]), ("gv", ["IM"]),
  ("ha", ["GH", "NE", "NG"]), ("haw", ["US"]), ("he", ["IL"]), ("hi", ["IN"]),
  ("hi_Latn", ["IN"]), ("hr", ["BA", "HR"]), ("hsb", ["DE"]), ("hu", ["HU"]), ("hy", ["AM"]),
  ("ia", ["001"]), ("id", ["ID"]), ("ig", ["NG"]), ("ii", ["CN"]), ("is", ["IS"]),
  ("it", ["CH", "IT", "SM", "VA"]), ("ja", ["JP"]), ("jgo", ["CM"]), ("jmc", ["TZ"]),
  ("jv", ["ID"]), ("ka", ["GE"]), ("kab", ["DZ"]), ("kam", ["KE"]), ("kde", ["TZ"]),
  ("kea", ["CV"]), ("khq", ["ML"]), ("ki", ["KE"]), ("kk", ["KZ"]), ("kkj", ["CM"]),
  ("kl", ["GL"]), ("kln", ["KE"]), ("km", ["KH"]), ("kn", ["IN"]), ("ko", ["CN", "KP", "KR"]),
  ("kok", ["IN"]), ("ksb", ["TZ"]), ("ksf", ["CM"]), ("ksh", ["DE"]), ("ku", ["TR"]),
  ("kw", ["GB"]), ("ky", ["KG"]), ("lag", ["TZ"]), ("lb", ["LU"]), ("lg", ["UG"]),
  ("lkt", ["US"]), ("ln", ["AO", "CD", "CF", "CG"]), ("lo", ["LA"]), ("lrc", ["IQ", "IR"]),
  ("lt", ["LT"]), ("lu", ["CD"]), ("luo", ["KE"]), ("luy", ["KE"]), ("lv", ["LV"]),
  ("mas", ["KE", "TZ"]), ("mer", ["KE"]), ("mfe", ["MU"]), ("mg", ["MG"]), ("mgh", ["MZ"]),
  ("mgo", ["CM"]), ("mi", ["NZ"]), ("mk", ["MK"]), ("ml", ["IN"]), ("mn", ["MN"]), ("mr", ["IN"]),
  ("ms", ["BN", "ID", "MY", "SG"]), ("mt", ["MT"]), ("mua", ["CM"]), ("my", ["MM"]),
  ("mzn", ["IR"]), ("naq", ["NA"]), ("nb", ["NO", "SJ"]), ("nd", ["ZW"]), ("nds", ["DE", "NL"]),
  ("ne", ["IN", "NP"]), ("nl", ["AW", "BE", "BQ", "CW", "NL", "SR", "SX"]), ("nmg", ["CM"]),
  ("nn", ["NO"]), ("nnh", ["CM"]), ("no", []), ("nus", ["SS"]), ("nyn", ["UG"]),
  ("oc", ["ES", "FR"]), ("om", ["ET", "KE"]), ("or", ["IN"]), ("os", ["GE", "RU"]), ("pa", []),
  ("pa_Arab", ["PK"]), ("pa_Guru", ["IN"]), ("pcm", ["NG"]), ("pl", ["PL"]), ("ps", ["AF", "PK"]),
  ("pt", ["AO", "BR", "CH", "CV", "GQ", "GW", "LU", "MO", "MZ", "PT", "ST", "TL"]),
  ("qu", ["BO", "EC", "PE"]), ("rm", ["CH"]), ("rn", ["BI"]), ("ro", ["MD", "RO"]),
  ("rof", ["TZ"]), ("root", []), ("ru", ["BY", "KG", "KZ", "MD", "RU", "UA"]), ("rw", ["RW"]),
  ("rwk", ["TZ"]), ("sa", ["IN"]), ("sah", ["RU"]), ("saq", ["KE"]), ("sbp", ["TZ"]),
  ("sc", ["IT"]), ("sd", []), ("sd_Arab", ["PK"]), ("sd_Deva", ["IN"]),
  ("se", ["FI", "NO", "SE"]), ("seh", ["MZ"]), ("ses", ["ML"]), ("sg", ["CF"]), ("si", ["LK"]),
  ("sk", ["SK"]), ("sl", ["SI"]), ("smn", ["FI"]), ("sn", ["ZW"]),
  ("so", ["DJ", "ET", "KE", "SO"]), ("sq", ["AL", "MK", "XK"]), ("sr", []),
  ("sr_Cyrl", ["BA", "ME", "RS", "XK"]), ("sr_Latn", ["BA", "ME", "RS", "XK"]), ("su", []),
  ("su_Latn", ["ID"]), ("sv", ["AX", "FI", "SE"]), ("sw", ["CD", "KE", "TZ", "UG"]),
  ("ta", ["IN", "LK", "MY", "SG"]), ("te", ["IN"]), ("teo", ["KE", "UG"]), ("tg", ["TJ"]),
  ("th", ["TH"]), ("ti", ["ER", "ET"]), ("tk", ["TM"]), ("to", ["TO"]), ("tr", ["CY", "TR"]),
  ("tt", ["RU"]), ("twq", ["NE"]), ("tzm", ["MA"]), ("ug", ["CN"]), ("uk", ["UA"]),
  ("ur", ["IN", "PK"]), ("uz", []), ("uz_Arab", ["AF"]), ("uz_Cyrl", ["UZ"]), ("uz_Latn", ["UZ"]),
  ("vi", ["VN"]), ("vo", ["001"]), ("vun", ["TZ"]), ("wae", ["CH"]), ("wo", ["SN"]),
  ("xh", ["ZA"]), ("xog", ["UG"]), ("yav", ["CM"]), ("yi", ["UA"]), ("yo", ["BJ", "NG"]),
  ("yue", []), ("yue_Hans", ["CN"]), ("yue_Hant", ["CN", "HK", "MO"]), ("zgh", ["MA"]),
  ("zh", []), ("zh_Hans", ["CN", "HK", "MO", "MY", "SG"]), ("zh_Hant", ["HK", "MO", "MY", "TW"]),
  ("zu", ["ZA"])]

/-- Codes of languages that have another code, by which they are known. -/
def languageAliases : List (String × String) := [
  ("aar", "aa"), ("abk", "ab"), ("afr", "af"), ("aka", "ak"), ("alb", "sq"), ("als", "sq"),
  ("amh", "am"), ("ara", "ar"), ("arb", "ar"), ("arm", "hy"), ("asm", "as"), ("aze", "az"),
  ("azj", "az"), ("bak", "ba"), ("baq", "eu"), ("bel", "be"), ("ben", "bn"), ("bih", "bho"),
  ("bod", "bo"), ("bos", "bs"), ("bre", "br"), ("bul", "bg"), ("bur", "my"), ("cat", "ca"),
  ("ces", "cs"), ("chi", "zh"), ("cld", "syr"), ("cmn", "zh"), ("cor", "kw"), ("cos", "co"),
  ("cym", "cy"), ("cze", "cs"), ("dan", "da"), ("deu", "de"), ("dut", "nl"), ("dzo", "dz"),
  ("ekk", "et"), ("ell", "el"), ("eng", "en"), ("epo", "eo"), ("est", "et"), ("eus", "eu"),
  ("ewe", "ee"), ("fao", "fo"), ("fas", "fa"), ("fin", "fi"), ("fra", "fr"), ("fre", "fr"),
  ("fry", "fy"), ("ful", "ff"), ("geo", "ka"), ("ger", "de"), ("gla", "gd"), ("gle", "ga"),
  ("glg", "gl"), ("glv", "gv"), ("gno", "gon"), ("gre", "el"), ("gug", "gn"), ("guj", "gu"),
  ("hau", "ha"), ("heb", "he"), ("hin", "hi"), ("hrv", "hr"), ("hun", "hu"), ("hye", "hy"),
  ("ibo", "ig"), ("ice", "is"), ("iii", "ii"), ("in", "id"), ("ind", "id"), ("isl", "is"),
  ("ita", "it"), ("iw", "he"), ("jav", "jv"), ("ji", "yi"), ("jpn", "ja"), ("jw", "jv"),
  ("kal", "kl"), ("kan", "kn"), ("kas", "ks"), ("kat", "ka"), ("kaz", "kk"), ("khk", "mn"),
  ("khm", "km"), ("kik", "ki"), ("kin", "rw"), ("kir", "ky"), ("kmr", "ku"), ("knn", "kok"),
  ("kor", "ko"), ("kur", "ku"), ("lao", "lo"), ("lat", "la"), ("lav", "lv"), ("lin", "ln"),
  ("lit", "lt"), ("ltz", "lb"), ("lub", "lu"), ("lug", "lg"), ("lvs", "lv"), ("mac", "mk"),
  ("mal", "ml"), ("mao", "mi"), ("mar", "mr"), ("may", "ms"), ("mkd", "mk"), ("mlg", "mg"),
  ("mlt", "mt"), ("mo", "ro"), ("mol", "ro"), ("mon", "mn"), ("mri", "mi"), ("msa", "ms"),
  ("mya", "my"), ("nde", "nd"), ("nep", "ne"), ("nld", "nl"), ("nno", "nn"), ("nob", "nb"),
  ("nor", "no"), ("npi", "ne"), ("ori", "or"), ("orm", "om"), ("ory", "or"), ("oss", "os"),
  ("pan", "pa"), ("per", "fa"), ("pes", "fa"), ("plt", "mg"), ("pnb", "lah"), ("pol", "pl"),
  ("por", "pt"), ("pus", "ps"), ("quz", "qu"), ("que", "qu"), ("roh", "rm"), ("ron", "ro"),
  ("rum", "ro"), ("run", "rn"), ("rus", "ru"), ("sag", "sg"), ("san", "sa"), ("scc", "sr"),
  ("scr", "hr"), ("sin", "si"), ("slk", "sk"), ("slo", "sk"), ("slv", "sl"), ("sme", "se"),
  ("sna", "sn"), ("snd", "sd"), ("som", "so"), ("spa", "es"), ("sqi", "sq"), ("srd", "sc"),
  ("srp", "sr"), ("swa", "sw"), ("swe", "sv"), ("swh", "sw"), ("tam", "ta"), ("tat", "tt"),
  ("tel", "te"), ("tgk", "tg"), ("tgl", "fil"), ("tha", "th"), ("tib", "bo"), ("tir", "ti"),
  ("tl", "fil"), ("ton", "to"), ("tuk", "tk"), ("tur", "tr"), ("tw", "ak"), ("twi", "ak"),
  ("uig", "ug"), ("ukr", "uk"), ("urd", "ur"), ("uzb", "uz"), ("uzn", "uz"), ("vie", "vi"),
  ("vol", "vo"), ("wel", "cy"), ("wol", "wo"), ("xho", "xh"), ("ydd", "yi"), ("yid", "yi"),
  ("yor", "yo"), ("zho", "zh"), ("zsm", "ms"), ("zul", "zu")]

/-- Codes of territories that have another code, among them the numbers of territories. -/
def territoryAliases : List (String × String) := [
  ("UK", "GB"), ("SU", "RU"), ("DD", "DE"), ("FX", "FR"), ("BU", "MM"), ("YU", "RS"), ("CS", "RS"),
  ("ZR", "CD"), ("TP", "TL"), ("AN", "CW"), ("NT", "SA"), ("YD", "YE"), ("QU", "EU"), ("NQ", "AQ"),
  ("PZ", "PA"), ("VD", "VN"), ("RH", "ZW"), ("HV", "BF"), ("DY", "BJ"), ("NH", "VU"), ("CT", "KI"),
  ("JT", "UM"), ("MI", "UM"), ("PU", "UM"), ("WK", "UM"), ("PC", "FM"), ("FQ", "AQ"), ("004", "AF"),
  ("008", "AL"), ("010", "AQ"), ("012", "DZ"), ("016", "AS"), ("020", "AD"), ("024", "AO"),
  ("028", "AG"), ("031", "AZ"), ("032", "AR"), ("036", "AU"), ("040", "AT"), ("044", "BS"),
  ("048", "BH"), ("050", "BD"), ("051", "AM"), ("052", "BB"), ("056", "BE"), ("060", "BM"),
  ("064", "BT"), ("068", "BO"), ("070", "BA"), ("072", "BW"), ("074", "BV"), ("076", "BR"),
  ("084", "BZ"), ("086", "IO"), ("090", "SB"), ("092", "VG"), ("096", "BN"), ("100", "BG"),
  ("104", "MM"), ("108", "BI"), ("112", "BY"), ("116", "KH"), ("120", "CM"), ("124", "CA"),
  ("132", "CV"), ("136", "KY"), ("140", "CF"), ("144", "LK"), ("148", "TD"), ("152", "CL"),
  ("156", "CN"), ("158", "TW"), ("162", "CX"), ("166", "CC"), ("170", "CO"), ("172", "RU"),
  ("174", "KM"), ("175", "YT"), ("178", "CG"), ("180", "CD"), ("184", "CK"), ("188", "CR"),
  ("191", "HR"), ("192", "CU"), ("196", "CY"), ("200", "CZ"), ("203", "CZ"), ("204", "BJ"),
  ("208", "DK"), ("212", "DM"), ("214", "DO"), ("218", "EC"), ("222", "SV"), ("226", "GQ"),
  ("230", "ET"), ("231", "ET"), ("232", "ER"), ("233", "EE"), ("234", "FO"), ("238", "FK"),
  ("239", "GS"), ("242", "FJ"), ("246", "FI"), ("248", "AX"), ("249", "FR"), ("250", "FR"),
  ("254", "GF"), ("258", "PF"), ("260", "TF"), ("262", "DJ"), ("266", "GA"), ("268", "GE"),
  ("270", "GM"), ("275", "PS"), ("276", "DE"), ("278", "DE"), ("280", "DE"), ("288", "GH"),
  ("292", "GI"), ("296", "KI"), ("300", "GR"), ("304", "GL"), ("308", "GD"), ("312", "GP"),
  ("316", "GU"), ("320", "GT"), ("324", "GN"), ("328", "GY"), ("332", "HT"), ("334", "HM"),
  ("336", "VA"), ("340", "HN"), ("344", "HK"), ("348", "HU"), ("352", "IS"), ("356", "IN"),
  ("360", "ID"), ("364", "IR"), ("368", "IQ"), ("372", "IE"), ("376", "IL"), ("380", "IT"),
  ("384", "CI"), ("388", "JM"), ("392", "JP"), ("398", "KZ"), ("400", "JO"), ("404", "KE"),
  ("408", "KP"), ("410", "KR"), ("414", "KW"), ("417", "KG"), ("418", "LA"), ("422", "LB"),
  ("426", "LS"), ("428", "LV"), ("430", "LR"), ("434", "LY"), ("438", "LI"), ("440", "LT"),
  ("442", "LU"), ("446", "MO"), ("450", "MG"), ("454", "MW"), ("458", "MY"), ("462", "MV"),
  ("466", "ML"), ("470", "MT"), ("474", "MQ"), ("478", "MR"), ("480", "MU"), ("484", "MX"),
  ("492", "MC"), ("496", "MN"), ("498", "MD"), ("499", "ME"), ("500", "MS"), ("504", "MA"),
  ("508", "MZ"), ("512", "OM"), ("516", "NA"), ("520", "NR"), ("524", "NP"), ("528", "NL"),
  ("530", "CW"), ("531", "CW"), ("532", "CW"), ("533", "AW"), ("534", "SX"), ("535", "BQ"),
  ("536", "SA"), ("540", "NC"), ("548", "VU"), ("554", "NZ"), ("558", "NI"), ("562", "NE"),
  ("566", "NG"), ("570", "NU"), ("574", "NF"), ("578", "NO"), ("580", "MP"), ("581", "UM"),
  ("583", "FM"), ("584", "MH"), ("585", "PW"), ("586", "PK"), ("591", "PA"), ("598", "PG"),
  ("600", "PY"), ("604", "PE"), ("608", "PH"), ("612", "PN"), ("616", "PL"), ("620", "PT"),
  ("624", "GW"), ("626", "TL"), ("630", "PR"), ("634", "QA"), ("638", "RE"), ("642", "RO"),
  ("643", "RU"), ("646", "RW"), ("652", "BL"), ("654", "SH"), ("659", "KN"), ("660", "AI"),
  ("662", "LC"), ("663", "MF"), ("666", "PM"), ("670", "VC"), ("674", "SM"), ("678", "ST"),
  ("682", "SA"), ("686", "SN"), ("688", "RS"), ("690", "SC"), ("694", "SL"), ("702", "SG"),
  ("703", "SK"), ("704", "VN"), ("705", "SI"), ("706", "SO"), ("710", "ZA"), ("716", "ZW"),
  ("720", "YE"), ("724", "ES"), ("728", "SS"), ("729", "SD"), ("732", "EH"), ("736", "SD"),
  ("740", "SR"), ("744", "SJ"), ("748", "SZ"), ("752", "SE"), ("756", "CH"), ("760", "SY"),
  ("762", "TJ"), ("764", "TH"), ("768", "TG"), ("772", "TK"), ("776", "TO"), ("780", "TT"),
  ("784", "AE"), ("788", "TN"), ("792", "TR"), ("795", "TM"), ("796", "TC"), ("798", "TV"),
  ("800", "UG"), ("804", "UA"), ("807", "MK"), ("810", "RU"), ("818", "EG"), ("826", "GB"),
  ("830", "JE"), ("831", "GG"), ("832", "JE"), ("833", "IM"), ("834", "TZ"), ("840", "US"),
  ("850", "VI"), ("854", "BF"), ("858", "UY"), ("860", "UZ"), ("862", "VE"), ("876", "WF"),
  ("882", "WS"), ("886", "YE"), ("887", "YE"), ("890", "RS"), ("891", "RS"), ("894", "ZM")]

/-- The language, script and territory that a tag means when nothing more is said. -/
def likelySubtags : List (String × String × String × String) := [
  ("af", "af", "Latn", "ZA"), ("ak", "ak", "Latn", "GH"), ("am", "am", "Ethi", "ET"),
  ("ar", "ar", "Arab", "EG"), ("as", "as", "Beng", "IN"), ("asa", "asa", "Latn", "TZ"),
  ("ast", "ast", "Latn", "ES"), ("az", "az", "Latn", "AZ"), ("bas", "bas", "Latn", "CM"),
  ("be", "be", "Cyrl", "BY"), ("bem", "bem", "Latn", "ZM"), ("bez", "bez", "Latn", "TZ"),
  ("bg", "bg", "Cyrl", "BG"), ("bm", "bm", "Latn", "ML"), ("bn", "bn", "Beng", "BD"),
  ("bo", "bo", "Tibt", "CN"), ("br", "br", "Latn", "FR"), ("brx", "brx", "Deva", "IN"),
  ("bs", "bs", "Latn", "BA"), ("ca", "ca", "Latn", "ES"), ("ce", "ce", "Cyrl", "RU"),
  ("ceb", "ceb", "Latn", "PH"), ("cgg", "cgg", "Latn", "UG"), ("chr", "chr", "Cher", "US"),
  ("ckb", "ckb", "Arab", "IQ"), ("cs", "cs", "Latn", "CZ"), ("cy", "cy", "Latn", "GB"),
  ("da", "da", "Latn", "DK"), ("dav", "dav", "Latn", "KE"), ("de", "de", "Latn", "DE"),
  ("dje", "dje", "Latn", "NE"), ("dsb", "dsb", "Latn", "DE"), ("dua", "dua", "Latn", "CM"),
  ("dyo", "dyo", "Latn", "SN"), ("dz", "dz", "Tibt", "BT"), ("ebu", "ebu", "Latn", "KE"),
  ("ee", "ee", "Latn", "GH"), ("el", "el", "Grek", "GR"), ("en", "en", "Latn", "US"),
  ("eo", "eo", "Latn", "001"), ("es", "es", "Latn", "ES"), ("et", "et", "Latn", "EE"),
  ("eu", "eu", "Latn", "ES"), ("ewo", "ewo", "Latn", "CM"), ("fa", "fa", "Arab", "IR"),
  ("ff", "ff", "Latn", "SN"), ("fi", "fi", "Latn", "FI"), ("fil", "fil", "Latn", "PH"),
  ("fo", "fo", "Latn", "FO"), ("fr", "fr", "Latn", "FR"), ("fur", "fur", "Latn", "IT"),
  ("fy", "fy", "Latn", "NL"), ("ga", "ga", "Latn", "IE"), ("gd", "gd", "Latn", "GB"),
  ("gl", "gl", "Latn", "ES"), ("gsw", "gsw", "Latn", "CH"), ("gu", "gu", "Gujr", "IN"),
  ("guz", "guz", "Latn", "KE"), ("gv", "gv", "Latn", "IM"), ("ha", "ha", "Latn", "NG"),
  ("haw", "haw", "Latn", "US"), ("he", "he", "Hebr", "IL"), ("hi", "hi", "Deva", "IN"),
  ("hr", "hr", "Latn", "HR"), ("hsb", "hsb", "Latn", "DE"), ("hu", "hu", "Latn", "HU"),
  ("hy", "hy", "Armn", "AM"), ("ia", "ia", "Latn", "001"), ("id", "id", "Latn", "ID"),
  ("ig", "ig", "Latn", "NG"), ("ii", "ii", "Yiii", "CN"), ("is", "is", "Latn", "IS"),
  ("it", "it", "Latn", "IT"), ("ja", "ja", "Jpan", "JP"), ("jv", "jv", "Latn", "ID"),
  ("ka", "ka", "Geor", "GE"), ("kk", "kk", "Cyrl", "KZ"), ("kl", "kl", "Latn", "GL"),
  ("km", "km", "Khmr", "KH"), ("kn", "kn", "Knda", "IN"), ("ko", "ko", "Kore", "KR"),
  ("kok", "kok", "Deva", "IN"), ("ksh", "ksh", "Latn", "DE"), ("ku", "ku", "Latn", "TR"),
  ("kw", "kw", "Latn", "GB"), ("ky", "ky", "Cyrl", "KG"), ("lb", "lb", "Latn", "LU"),
  ("lg", "lg", "Latn", "UG"), ("lkt", "lkt", "Latn", "US"), ("ln", "ln", "Latn", "CD"),
  ("lo", "lo", "Laoo", "LA"), ("lt", "lt", "Latn", "LT"), ("lu", "lu", "Latn", "CD"),
  ("lv", "lv", "Latn", "LV"), ("mg", "mg", "Latn", "MG"), ("mi", "mi", "Latn", "NZ"),
  ("mk", "mk", "Cyrl", "MK"), ("ml", "ml", "Mlym", "IN"), ("mn", "mn", "Cyrl", "MN"),
  ("mr", "mr", "Deva", "IN"), ("ms", "ms", "Latn", "MY"), ("mt", "mt", "Latn", "MT"),
  ("my", "my", "Mymr", "MM"), ("nb", "nb", "Latn", "NO"), ("nd", "nd", "Latn", "ZW"),
  ("nds", "nds", "Latn", "DE"), ("ne", "ne", "Deva", "NP"), ("nl", "nl", "Latn", "NL"),
  ("nn", "nn", "Latn", "NO"), ("no", "no", "Latn", "NO"), ("oc", "oc", "Latn", "FR"),
  ("om", "om", "Latn", "ET"), ("or", "or", "Orya", "IN"), ("os", "os", "Cyrl", "GE"),
  ("pa", "pa", "Guru", "IN"), ("pcm", "pcm", "Latn", "NG"), ("pl", "pl", "Latn", "PL"),
  ("ps", "ps", "Arab", "AF"), ("pt", "pt", "Latn", "BR"), ("qu", "qu", "Latn", "PE"),
  ("rm", "rm", "Latn", "CH"), ("rn", "rn", "Latn", "BI"), ("ro", "ro", "Latn", "RO"),
  ("ru", "ru", "Cyrl", "RU"), ("rw", "rw", "Latn", "RW"), ("sa", "sa", "Deva", "IN"),
  ("sah", "sah", "Cyrl", "RU"), ("sc", "sc", "Latn", "IT"), ("sd", "sd", "Arab", "PK"),
  ("se", "se", "Latn", "NO"), ("sg", "sg", "Latn", "CF"), ("si", "si", "Sinh", "LK"),
  ("sk", "sk", "Latn", "SK"), ("sl", "sl", "Latn", "SI"), ("sn", "sn", "Latn", "ZW"),
  ("so", "so", "Latn", "SO"), ("sq", "sq", "Latn", "AL"), ("sr", "sr", "Cyrl", "RS"),
  ("su", "su", "Latn", "ID"), ("sv", "sv", "Latn", "SE"), ("sw", "sw", "Latn", "TZ"),
  ("ta", "ta", "Taml", "IN"), ("te", "te", "Telu", "IN"), ("tg", "tg", "Cyrl", "TJ"),
  ("th", "th", "Thai", "TH"), ("ti", "ti", "Ethi", "ET"), ("tk", "tk", "Latn", "TM"),
  ("to", "to", "Latn", "TO"), ("tr", "tr", "Latn", "TR"), ("tt", "tt", "Cyrl", "RU"),
  ("ug", "ug", "Arab", "CN"), ("uk", "uk", "Cyrl", "UA"), ("und", "en", "Latn", "US"),
  ("ur", "ur", "Arab", "PK"), ("uz", "uz", "Latn", "UZ"), ("vi", "vi", "Latn", "VN"),
  ("vo", "vo", "Latn", "001"), ("wo", "wo", "Latn", "SN"), ("xh", "xh", "Latn", "ZA"),
  ("yi", "yi", "Hebr", "UA"), ("yo", "yo", "Latn", "NG"), ("yue", "yue", "Hant", "HK"),
  ("zh", "zh", "Hans", "CN"), ("zu", "zu", "Latn", "ZA"), ("zh_TW", "zh", "Hant", "TW"),
  ("zh_HK", "zh", "Hant", "HK"), ("zh_MO", "zh", "Hant", "MO"), ("zh_Hant", "zh", "Hant", "TW"),
  ("az_IR", "az", "Arab", "IR"), ("pa_PK", "pa", "Arab", "PK"), ("pa_Arab", "pa", "Arab", "PK"),
  ("uz_AF", "uz", "Arab", "AF"), ("uz_Cyrl", "uz", "Cyrl", "UZ"), ("sr_ME", "sr", "Latn", "ME"),
  ("yue_CN", "yue", "Hans", "CN"), ("yue_Hans", "yue", "Hans", "CN"), ("sd_IN", "sd", "Deva", "IN"),
  ("sd_Deva", "sd", "Deva", "IN"), ("und_KR", "ko", "Kore", "KR"), ("und_Kore", "ko", "Kore", "KR"),
  ("und_JP", "ja", "Jpan", "JP"), ("und_Jpan", "ja", "Jpan", "JP"), ("und_DE", "de", "Latn", "DE"),
  ("und_FR", "fr", "Latn", "FR"), ("und_ES", "es", "Latn", "ES"), ("und_RU", "ru", "Cyrl", "RU"),
  ("und_Cyrl", "ru", "Cyrl", "RU"), ("und_CN", "zh", "Hans", "CN"), ("und_TW", "zh", "Hant", "TW"),
  ("und_HK", "zh", "Hant", "HK"), ("und_Hans", "zh", "Hans", "CN"),
  ("und_Hant", "zh", "Hant", "TW"), ("und_IN", "hi", "Deva", "IN"),
  ("und_Deva", "hi", "Deva", "IN"), ("und_IL", "he", "Hebr", "IL"),
  ("und_Hebr", "he", "Hebr", "IL"), ("und_IT", "it", "Latn", "IT"), ("und_BR", "pt", "Latn", "BR"),
  ("und_PT", "pt", "Latn", "PT"), ("und_MX", "es", "Latn", "MX"), ("und_AT", "de", "Latn", "AT"),
  ("und_PL", "pl", "Latn", "PL"), ("und_TR", "tr", "Latn", "TR"), ("und_UA", "uk", "Cyrl", "UA"),
  ("und_EG", "ar", "Arab", "EG"), ("und_Arab", "ar", "Arab", "EG"), ("und_SE", "sv", "Latn", "SE"),
  ("und_DK", "da", "Latn", "DK"), ("und_CZ", "cs", "Latn", "CZ"), ("und_HU", "hu", "Latn", "HU"),
  ("und_RO", "ro", "Latn", "RO"), ("und_PH", "fil", "Latn", "PH")]

end Phrasebook
