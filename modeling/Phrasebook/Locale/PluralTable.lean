import Phrasebook.Locale.Plural

/-!
# Plural rules of the locales
-/

set_option autoImplicit false

namespace Phrasebook.Plural

/-- The rules by which locales count. -/
def cardinalRules : List (List String × Rules) := [
  (["ar"],
    [
      (.few, [[⟨.n, (some 100), false, [(3, 10)]⟩]]),
      (.many, [[⟨.n, (some 100), false, [(11, 99)]⟩]]),
      (.one, [[⟨.n, none, false, [(1, 1)]⟩]]),
      (.two, [[⟨.n, none, false, [(2, 2)]⟩]]),
      (.zero, [[⟨.n, none, false, [(0, 0)]⟩]])]),
  (["ca", "it", "pt_PT"],
    [
      (.many, [[⟨.e, none, false, [(0, 0)]⟩, ⟨.i, none, true, [(0, 0)]⟩, ⟨.i, (some 1000000), false, [(0, 0)]⟩, ⟨.v, none, false, [(0, 0)]⟩],
        [⟨.e, none, true, [(0, 5)]⟩]]),
      (.one, [[⟨.i, none, false, [(1, 1)]⟩, ⟨.v, none, false, [(0, 0)]⟩]])]),
  (["cs", "sk"],
    [
      (.few, [[⟨.i, none, false, [(2, 4)]⟩, ⟨.v, none, false, [(0, 0)]⟩]]),
      (.many, [[⟨.v, none, true, [(0, 0)]⟩]]),
      (.one, [[⟨.i, none, false, [(1, 1)]⟩, ⟨.v, none, false, [(0, 0)]⟩]])]),
  (["cy"],
    [
      (.few, [[⟨.n, none, false, [(3, 3)]⟩]]),
      (.many, [[⟨.n, none, false, [(6, 6)]⟩]]),
      (.one, [[⟨.n, none, false, [(1, 1)]⟩]]),
      (.two, [[⟨.n, none, false, [(2, 2)]⟩]]),
      (.zero, [[⟨.n, none, false, [(0, 0)]⟩]])]),
  (["da"],
    [
      (.one, [[⟨.n, none, false, [(1, 1)]⟩],
        [⟨.t, none, true, [(0, 0)]⟩, ⟨.i, none, false, [(0, 0), (1, 1)]⟩]])]),
  (["ast", "de", "en", "et", "fi", "fy", "gl", "ia", "nl", "sc", "sv", "sw", "ur", "yi"],
    [
      (.one, [[⟨.i, none, false, [(1, 1)]⟩, ⟨.v, none, false, [(0, 0)]⟩]])]),
  (["es"],
    [
      (.many, [[⟨.e, none, false, [(0, 0)]⟩, ⟨.i, none, true, [(0, 0)]⟩, ⟨.i, (some 1000000), false, [(0, 0)]⟩, ⟨.v, none, false, [(0, 0)]⟩],
        [⟨.e, none, true, [(0, 5)]⟩]]),
      (.one, [[⟨.n, none, false, [(1, 1)]⟩]])]),
  (["ceb", "fil"],
    [
      (.one, [[⟨.v, none, false, [(0, 0)]⟩, ⟨.i, none, false, [(1, 1), (2, 2), (3, 3)]⟩],
        [⟨.v, none, false, [(0, 0)]⟩, ⟨.i, (some 10), true, [(4, 4), (6, 6), (9, 9)]⟩],
        [⟨.v, none, true, [(0, 0)]⟩, ⟨.f, (some 10), true, [(4, 4), (6, 6), (9, 9)]⟩]])]),
  (["fr"],
    [
      (.many, [[⟨.e, none, false, [(0, 0)]⟩, ⟨.i, none, true, [(0, 0)]⟩, ⟨.i, (some 1000000), false, [(0, 0)]⟩, ⟨.v, none, false, [(0, 0)]⟩],
        [⟨.e, none, true, [(0, 5)]⟩]]),
      (.one, [[⟨.i, none, false, [(0, 0), (1, 1)]⟩]])]),
  (["he"],
    [
      (.one, [[⟨.i, none, false, [(1, 1)]⟩, ⟨.v, none, false, [(0, 0)]⟩],
        [⟨.i, none, false, [(0, 0)]⟩, ⟨.v, none, true, [(0, 0)]⟩]]),
      (.two, [[⟨.i, none, false, [(2, 2)]⟩, ⟨.v, none, false, [(0, 0)]⟩]])]),
  (["am", "as", "bn", "fa", "gu", "hi", "kn", "pcm", "zu"],
    [
      (.one, [[⟨.i, none, false, [(0, 0)]⟩],
        [⟨.n, none, false, [(1, 1)]⟩]])]),
  ([
    "af", "asa", "az", "bem", "bez", "bg", "brx", "ce", "cgg", "chr", "ckb", "ee", "el", "eo", "eu",
    "fo", "fur", "gsw", "ha", "haw", "hu", "jgo", "jmc", "ka", "kk", "kkj", "kl", "ks", "ksb", "ku",
    "ky", "lb", "lg", "mas", "mgo", "ml", "mn", "mr", "nb", "nd", "ne", "nn", "nnh", "no", "nyn",
    "om", "or", "os", "ps", "rm", "rof", "rwk", "saq", "sd", "seh", "sn", "so", "sq", "ta", "te",
    "teo", "tk", "tr", "ug", "uz", "vo", "vun", "wae", "xh", "xog"],
    [
      (.one, [[⟨.n, none, false, [(1, 1)]⟩]])]),
  (["lt"],
    [
      (.few, [[⟨.n, (some 10), false, [(2, 9)]⟩, ⟨.n, (some 100), true, [(11, 19)]⟩]]),
      (.many, [[⟨.f, none, true, [(0, 0)]⟩]]),
      (.one, [[⟨.n, (some 10), false, [(1, 1)]⟩, ⟨.n, (some 100), true, [(11, 19)]⟩]])]),
  (["lv"],
    [
      (.one, [[⟨.n, (some 10), false, [(1, 1)]⟩, ⟨.n, (some 100), true, [(11, 11)]⟩],
        [⟨.v, none, false, [(2, 2)]⟩, ⟨.f, (some 10), false, [(1, 1)]⟩, ⟨.f, (some 100), true, [(11, 11)]⟩],
        [⟨.v, none, true, [(2, 2)]⟩, ⟨.f, (some 10), false, [(1, 1)]⟩]]),
      (.zero, [[⟨.n, (some 10), false, [(0, 0)]⟩],
        [⟨.n, (some 100), false, [(11, 19)]⟩],
        [⟨.v, none, false, [(2, 2)]⟩, ⟨.f, (some 100), false, [(11, 19)]⟩]])]),
  (["mk"],
    [
      (.one, [[⟨.v, none, false, [(0, 0)]⟩, ⟨.i, (some 10), false, [(1, 1)]⟩, ⟨.i, (some 100), true, [(11, 11)]⟩],
        [⟨.f, (some 10), false, [(1, 1)]⟩, ⟨.f, (some 100), true, [(11, 11)]⟩]])]),
  (["mt"],
    [
      (.few, [[⟨.n, none, false, [(0, 0)]⟩],
        [⟨.n, (some 100), false, [(3, 10)]⟩]]),
      (.many, [[⟨.n, (some 100), false, [(11, 19)]⟩]]),
      (.one, [[⟨.n, none, false, [(1, 1)]⟩]]),
      (.two, [[⟨.n, none, false, [(2, 2)]⟩]])]),
  (["pl"],
    [
      (.few, [[⟨.v, none, false, [(0, 0)]⟩, ⟨.i, (some 10), false, [(2, 4)]⟩, ⟨.i, (some 100), true, [(12, 14)]⟩]]),
      (.many, [[⟨.v, none, false, [(0, 0)]⟩, ⟨.i, none, true, [(1, 1)]⟩, ⟨.i, (some 10), false, [(0, 1)]⟩],
        [⟨.v, none, false, [(0, 0)]⟩, ⟨.i, (some 10), false, [(5, 9)]⟩],
        [⟨.v, none, false, [(0, 0)]⟩, ⟨.i, (some 100), false, [(12, 14)]⟩]]),
      (.one, [[⟨.i, none, false, [(1, 1)]⟩, ⟨.v, none, false, [(0, 0)]⟩]])]),
  (["pt"],
    [
      (.many, [[⟨.e, none, false, [(0, 0)]⟩, ⟨.i, none, true, [(0, 0)]⟩, ⟨.i, (some 1000000), false, [(0, 0)]⟩, ⟨.v, none, false, [(0, 0)]⟩],
        [⟨.e, none, true, [(0, 5)]⟩]]),
      (.one, [[⟨.i, none, false, [(0, 1)]⟩]])]),
  (["ro"],
    [
      (.few, [[⟨.v, none, true, [(0, 0)]⟩],
        [⟨.n, none, false, [(0, 0)]⟩],
        [⟨.n, none, true, [(1, 1)]⟩, ⟨.n, (some 100), false, [(1, 19)]⟩]]),
      (.one, [[⟨.i, none, false, [(1, 1)]⟩, ⟨.v, none, false, [(0, 0)]⟩]])]),
  (["ru", "uk"],
    [
      (.few, [[⟨.v, none, false, [(0, 0)]⟩, ⟨.i, (some 10), false, [(2, 4)]⟩, ⟨.i, (some 100), true, [(12, 14)]⟩]]),
      (.many, [[⟨.v, none, false, [(0, 0)]⟩, ⟨.i, (some 10), false, [(0, 0)]⟩],
        [⟨.v, none, false, [(0, 0)]⟩, ⟨.i, (some 10), false, [(5, 9)]⟩],
        [⟨.v, none, false, [(0, 0)]⟩, ⟨.i, (some 100), false, [(11, 14)]⟩]]),
      (.one, [[⟨.v, none, false, [(0, 0)]⟩, ⟨.i, (some 10), false, [(1, 1)]⟩, ⟨.i, (some 100), true, [(11, 11)]⟩]])]),
  (["sl"],
    [
      (.few, [[⟨.v, none, false, [(0, 0)]⟩, ⟨.i, (some 100), false, [(3, 4)]⟩],
        [⟨.v, none, true, [(0, 0)]⟩]]),
      (.one, [[⟨.v, none, false, [(0, 0)]⟩, ⟨.i, (some 100), false, [(1, 1)]⟩]]),
      (.two, [[⟨.v, none, false, [(0, 0)]⟩, ⟨.i, (some 100), false, [(2, 2)]⟩]])]),
  (["bs", "hr", "sr"],
    [
      (.few, [[⟨.v, none, false, [(0, 0)]⟩, ⟨.i, (some 10), false, [(2, 4)]⟩, ⟨.i, (some 100), true, [(12, 14)]⟩],
        [⟨.f, (some 10), false, [(2, 4)]⟩, ⟨.f, (some 100), true, [(12, 14)]⟩]]),
      (.one, [[⟨.v, none, false, [(0, 0)]⟩, ⟨.i, (some 10), false, [(1, 1)]⟩, ⟨.i, (some 100), true, [(11, 11)]⟩],
        [⟨.f, (some 10), false, [(1, 1)]⟩, ⟨.f, (some 100), true, [(11, 11)]⟩]])]),
  (["ff", "hy", "kab"],
    [
      (.one, [[⟨.i, none, false, [(0, 0), (1, 1)]⟩]])]),
  (["si"],
    [
      (.one, [[⟨.n, none, false, [(0, 0), (1, 1)]⟩],
        [⟨.i, none, false, [(0, 0)]⟩, ⟨.f, none, false, [(1, 1)]⟩]])]),
  (["ak", "ln", "mg", "pa", "ti"],
    [
      (.one, [[⟨.n, none, false, [(0, 1)]⟩]])]),
  (["tzm"],
    [
      (.one, [[⟨.n, none, false, [(0, 1)]⟩],
        [⟨.n, none, false, [(11, 99)]⟩]])]),
  (["is"],
    [
      (.one, [[⟨.t, none, false, [(0, 0)]⟩, ⟨.i, (some 10), false, [(1, 1)]⟩, ⟨.i, (some 100), true, [(11, 11)]⟩],
        [⟨.t, (some 10), false, [(1, 1)]⟩, ⟨.t, (some 100), true, [(11, 11)]⟩]])]),
  (["lag"],
    [
      (.one, [[⟨.i, none, false, [(0, 0), (1, 1)]⟩, ⟨.n, none, true, [(0, 0)]⟩]]),
      (.zero, [[⟨.n, none, false, [(0, 0)]⟩]])]),
  (["ksh"],
    [
      (.one, [[⟨.n, none, false, [(1, 1)]⟩]]),
      (.zero, [[⟨.n, none, false, [(0, 0)]⟩]])]),
  (["naq", "se", "smn"],
    [
      (.one, [[⟨.n, none, false, [(1, 1)]⟩]]),
      (.two, [[⟨.n, none, false, [(2, 2)]⟩]])]),
  (["gd"],
    [
      (.few, [[⟨.n, none, false, [(3, 10), (13, 19)]⟩]]),
      (.one, [[⟨.n, none, false, [(1, 1), (11, 11)]⟩]]),
      (.two, [[⟨.n, none, false, [(2, 2), (12, 12)]⟩]])]),
  (["dsb", "hsb"],
    [
      (.few, [[⟨.v, none, false, [(0, 0)]⟩, ⟨.i, (some 100), false, [(3, 4)]⟩],
        [⟨.f, (some 100), false, [(3, 4)]⟩]]),
      (.one, [[⟨.v, none, false, [(0, 0)]⟩, ⟨.i, (some 100), false, [(1, 1)]⟩],
        [⟨.f, (some 100), false, [(1, 1)]⟩]]),
      (.two, [[⟨.v, none, false, [(0, 0)]⟩, ⟨.i, (some 100), false, [(2, 2)]⟩],
        [⟨.f, (some 100), false, [(2, 2)]⟩]])]),
  (["be"],
    [
      (.few, [[⟨.n, (some 10), false, [(2, 4)]⟩, ⟨.n, (some 100), true, [(12, 14)]⟩]]),
      (.many, [[⟨.n, (some 10), false, [(0, 0)]⟩],
        [⟨.n, (some 10), false, [(5, 9)]⟩],
        [⟨.n, (some 100), false, [(11, 14)]⟩]]),
      (.one, [[⟨.n, (some 10), false, [(1, 1)]⟩, ⟨.n, (some 100), true, [(11, 11)]⟩]])]),
  (["br"],
    [
      (.few, [[⟨.n, (some 10), false, [(3, 4), (9, 9)]⟩, ⟨.n, (some 100), true, [(10, 19), (70, 79), (90, 99)]⟩]]),
      (.many, [[⟨.n, none, true, [(0, 0)]⟩, ⟨.n, (some 1000000), false, [(0, 0)]⟩]]),
      (.one, [[⟨.n, (some 10), false, [(1, 1)]⟩, ⟨.n, (some 100), true, [(11, 11), (71, 71), (91, 91)]⟩]]),
      (.two, [[⟨.n, (some 10), false, [(2, 2)]⟩, ⟨.n, (some 100), true, [(12, 12), (72, 72), (92, 92)]⟩]])]),
  (["ga"],
    [
      (.few, [[⟨.n, none, false, [(3, 6)]⟩]]),
      (.many, [[⟨.n, none, false, [(7, 10)]⟩]]),
      (.one, [[⟨.n, none, false, [(1, 1)]⟩]]),
      (.two, [[⟨.n, none, false, [(2, 2)]⟩]])]),
  (["gv"],
    [
      (.few, [[⟨.v, none, false, [(0, 0)]⟩, ⟨.i, (some 100), false, [(0, 0), (20, 20), (40, 40), (60, 60), (80, 80)]⟩]]),
      (.many, [[⟨.v, none, true, [(0, 0)]⟩]]),
      (.one, [[⟨.v, none, false, [(0, 0)]⟩, ⟨.i, (some 10), false, [(1, 1)]⟩]]),
      (.two, [[⟨.v, none, false, [(0, 0)]⟩, ⟨.i, (some 10), false, [(2, 2)]⟩]])]),
  (["kw"],
    [
      (.few, [[⟨.n, (some 100), false, [(3, 3), (23, 23), (43, 43), (63, 63), (83, 83)]⟩]]),
      (.many, [[⟨.n, none, true, [(1, 1)]⟩, ⟨.n, (some 100), false, [(1, 1), (21, 21), (41, 41), (61, 61), (81, 81)]⟩]]),
      (.one, [[⟨.n, none, false, [(1, 1)]⟩]]),
      (.two, [[⟨.n, (some 100), false, [(2, 2), (22, 22), (42, 42), (62, 62), (82, 82)]⟩],
        [⟨.n, (some 1000), false, [(0, 0)]⟩, ⟨.n, (some 100000), false, [(1000, 20000), (40000, 40000), (60000, 60000), (80000, 80000)]⟩],
        [⟨.n, none, true, [(0, 0)]⟩, ⟨.n, (some 1000000), false, [(100000, 100000)]⟩]]),
      (.zero, [[⟨.n, none, false, [(0, 0)]⟩]])])]

/-- The rules by which locales rank. -/
def ordinalRules : List (List String × Rules) := [
  (["ca"],
    [
      (.few, [[⟨.n, none, false, [(4, 4)]⟩]]),
      (.one, [[⟨.n, none, false, [(1, 1), (3, 3)]⟩]]),
      (.two, [[⟨.n, none, false, [(2, 2)]⟩]])]),
  (["cy"],
    [
      (.few, [[⟨.n, none, false, [(3, 3), (4, 4)]⟩]]),
      (.many, [[⟨.n, none, false, [(5, 5), (6, 6)]⟩]]),
      (.one, [[⟨.n, none, false, [(1, 1)]⟩]]),
      (.two, [[⟨.n, none, false, [(2, 2)]⟩]]),
      (.zero, [[⟨.n, none, false, [(0, 0), (7, 7), (8, 8), (9, 9)]⟩]])]),
  (["en"],
    [
      (.few, [[⟨.n, (some 10), false, [(3, 3)]⟩, ⟨.n, (some 100), true, [(13, 13)]⟩]]),
      (.one, [[⟨.n, (some 10), false, [(1, 1)]⟩, ⟨.n, (some 100), true, [(11, 11)]⟩]]),
      (.two, [[⟨.n, (some 10), false, [(2, 2)]⟩, ⟨.n, (some 100), true, [(12, 12)]⟩]])]),
  (["fil", "fr", "ga", "hy", "lo", "ms", "ro", "vi"],
    [
      (.one, [[⟨.n, none, false, [(1, 1)]⟩]])]),
  (["gu", "hi"],
    [
      (.few, [[⟨.n, none, false, [(4, 4)]⟩]]),
      (.many, [[⟨.n, none, false, [(6, 6)]⟩]]),
      (.one, [[⟨.n, none, false, [(1, 1)]⟩]]),
      (.two, [[⟨.n, none, false, [(2, 2), (3, 3)]⟩]])]),
  (["hu"],
    [
      (.one, [[⟨.n, none, false, [(1, 1), (5, 5)]⟩]])]),
  (["it", "sc"],
    [
      (.many, [[⟨.n, none, false, [(11, 11), (8, 8), (80, 80), (800, 800)]⟩]])]),
  (["ka"],
    [
      (.many, [[⟨.i, none, false, [(0, 0)]⟩],
        [⟨.i, (some 100), false, [(2, 20), (40, 40), (60, 60), (80, 80)]⟩]]),
      (.one, [[⟨.i, none, false, [(1, 1)]⟩]])]),
  (["mk"],
    [
      (.many, [[⟨.i, (some 10), false, [(7, 7), (8, 8)]⟩, ⟨.i, (some 100), true, [(17, 17), (18, 18)]⟩]]),
      (.one, [[⟨.i, (some 10), false, [(1, 1)]⟩, ⟨.i, (some 100), true, [(11, 11)]⟩]]),
      (.two, [[⟨.i, (some 10), false, [(2, 2)]⟩, ⟨.i, (some 100), true, [(12, 12)]⟩]])]),
  (["sq"],
    [
      (.many, [[⟨.n, (some 10), false, [(4, 4)]⟩, ⟨.n, (some 100), true, [(14, 14)]⟩]]),
      (.one, [[⟨.n, none, false, [(1, 1)]⟩]])]),
  (["sv"],
    [
      (.one, [[⟨.n, (some 10), false, [(1, 1), (2, 2)]⟩, ⟨.n, (some 100), true, [(11, 11), (12, 12)]⟩]])]),
  (["uk"],
    [
      (.few, [[⟨.n, (some 10), false, [(3, 3)]⟩, ⟨.n, (some 100), true, [(13, 13)]⟩]])]),
  (["ne"],
    [
      (.one, [[⟨.n, none, false, [(1, 4)]⟩]])]),
  (["be"],
    [
      (.few, [[⟨.n, (some 10), false, [(2, 2), (3, 3)]⟩, ⟨.n, (some 100), true, [(12, 12), (13, 13)]⟩]])]),
  (["tk"],
    [
      (.few, [[⟨.n, (some 10), false, [(6, 6), (9, 9)]⟩],
        [⟨.n, none, false, [(10, 10)]⟩]])]),
  (["kk"],
    [
      (.many, [[⟨.n, (some 10), false, [(6, 6)]⟩],
        [⟨.n, (some 10), false, [(9, 9)]⟩],
        [⟨.n, (some 10), false, [(0, 0)]⟩, ⟨.n, none, true, [(0, 0)]⟩]])]),
  (["kw"],
    [
      (.many, [[⟨.n, none, false, [(5, 5)]⟩],
        [⟨.n, (some 100), false, [(5, 5)]⟩]]),
      (.one, [[⟨.n, none, false, [(1, 4)]⟩],
        [⟨.n, (some 100), false, [(1, 4), (21, 24), (41, 44), (61, 64), (81, 84)]⟩]])]),
  (["mr"],
    [
      (.few, [[⟨.n, none, false, [(4, 4)]⟩]]),
      (.one, [[⟨.n, none, false, [(1, 1)]⟩]]),
      (.two, [[⟨.n, none, false, [(2, 2), (3, 3)]⟩]])]),
  (["gd"],
    [
      (.few, [[⟨.n, none, false, [(3, 3), (13, 13)]⟩]]),
      (.one, [[⟨.n, none, false, [(1, 1), (11, 11)]⟩]]),
      (.two, [[⟨.n, none, false, [(2, 2), (12, 12)]⟩]])]),
  (["az"],
    [
      (.few, [[⟨.i, (some 10), false, [(3, 3), (4, 4)]⟩],
        [⟨.i, (some 1000), false, [(100, 100), (200, 200), (300, 300), (400, 400), (500, 500), (600, 600), (700, 700), (800, 800), (900, 900)]⟩]]),
      (.many, [[⟨.i, none, false, [(0, 0)]⟩],
        [⟨.i, (some 10), false, [(6, 6)]⟩],
        [⟨.i, (some 100), false, [(40, 40), (60, 60), (90, 90)]⟩]]),
      (.one, [[⟨.i, (some 10), false, [(1, 1), (2, 2), (5, 5), (7, 7), (8, 8)]⟩],
        [⟨.i, (some 100), false, [(20, 20), (50, 50), (70, 70), (80, 80)]⟩]])]),
  (["as", "bn"],
    [
      (.few, [[⟨.n, none, false, [(4, 4)]⟩]]),
      (.many, [[⟨.n, none, false, [(6, 6)]⟩]]),
      (.one, [[⟨.n, none, false, [(1, 1), (5, 5), (7, 7), (8, 8), (9, 9), (10, 10)]⟩]]),
      (.two, [[⟨.n, none, false, [(2, 2), (3, 3)]⟩]])]),
  (["or"],
    [
      (.few, [[⟨.n, none, false, [(4, 4)]⟩]]),
      (.many, [[⟨.n, none, false, [(6, 6)]⟩]]),
      (.one, [[⟨.n, none, false, [(1, 1), (5, 5), (7, 9)]⟩]]),
      (.two, [[⟨.n, none, false, [(2, 2), (3, 3)]⟩]])])]

end Phrasebook.Plural
