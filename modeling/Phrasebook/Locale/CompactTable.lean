import Phrasebook.Locale.NumberFormats

/-!
# Compact number patterns of the locales
-/

set_option autoImplicit false

namespace Phrasebook

/-- Compact patterns where a locale says nothing else. -/
def rootCompactPatterns : List (String × CompactPatterns) := [
  ("short", [
    ("other", [
      (1000, "0K"), (10000, "00K"), (100000, "000K"), (1000000, "0M"), (10000000, "00M"),
      (100000000, "000M"), (1000000000, "0G"), (10000000000, "00G"), (100000000000, "000G"),
      (1000000000000, "0T"), (10000000000000, "00T"), (100000000000000, "000T")])])]

/-- Patterns for rounded magnitudes by locale, length of the display and plural form. -/
def compactPatterns : List (List String × List (String × CompactPatterns)) := [
  (["de"], [
    ("short", [
      ("other", [
        (1000, "0"), (10000, "0"), (100000, "0"), (1000000, "0\u00a0Mio'.'"),
        (10000000, "00\u00a0Mio'.'"), (100000000, "000\u00a0Mio'.'"), (1000000000, "0\u00a0Mrd'.'"),
        (10000000000, "00\u00a0Mrd'.'"), (100000000000, "000\u00a0Mrd'.'"),
        (1000000000000, "0\u00a0Bio'.'"), (10000000000000, "00\u00a0Bio'.'"),
        (100000000000000, "000\u00a0Bio'.'")]),
      ("one", [
        (1000, "0"), (10000, "0"), (100000, "0"), (1000000, "0\u00a0Mio'.'"),
        (10000000, "00\u00a0Mio'.'"), (100000000, "000\u00a0Mio'.'"), (1000000000, "0\u00a0Mrd'.'"),
        (10000000000, "00\u00a0Mrd'.'"), (100000000000, "000\u00a0Mrd'.'"),
        (1000000000000, "0\u00a0Bio'.'"), (10000000000000, "00\u00a0Bio'.'"),
        (100000000000000, "000\u00a0Bio'.'")])]),
    ("long", [
      ("one", [
        (1000, "0 Tausend"), (10000, "00 Tausend"), (100000, "000 Tausend"), (1000000, "0 Million"),
        (10000000, "00 Millionen"), (100000000, "000 Millionen"), (1000000000, "0 Milliarde"),
        (10000000000, "00 Milliarden"), (100000000000, "000 Milliarden"),
        (1000000000000, "0 Billion"), (10000000000000, "00 Billionen"),
        (100000000000000, "000 Billionen")]),
      ("other", [
        (1000, "0 Tausend"), (10000, "00 Tausend"), (100000, "000 Tausend"),
        (1000000, "0 Millionen"), (10000000, "00 Millionen"), (100000000, "000 Millionen"),
        (1000000000, "0 Milliarden"), (10000000000, "00 Milliarden"),
        (100000000000, "000 Milliarden"), (1000000000000, "0 Billionen"),
        (10000000000000, "00 Billionen"), (100000000000000, "000 Billionen")])])]),
  (["en", "en_GB"], [
    ("short", [
      ("other", [
        (1000, "0K"), (10000, "00K"), (100000, "000K"), (1000000, "0M"), (10000000, "00M"),
        (100000000, "000M"), (1000000000, "0B"), (10000000000, "00B"), (100000000000, "000B"),
        (1000000000000, "0T"), (10000000000000, "00T"), (100000000000000, "000T")]),
      ("one", [
        (1000, "0K"), (10000, "00K"), (100000, "000K"), (1000000, "0M"), (10000000, "00M"),
        (100000000, "000M"), (1000000000, "0B"), (10000000000, "00B"), (100000000000, "000B"),
        (1000000000000, "0T"), (10000000000000, "00T"), (100000000000000, "000T")])]),
    ("long", [
      ("one", [
        (1000, "0 thousand"), (10000, "00 thousand"), (100000, "000 thousand"),
        (1000000, "0 million"), (10000000, "00 million"), (100000000, "000 million"),
        (1000000000, "0 billion"), (10000000000, "00 billion"), (100000000000, "000 billion"),
        (1000000000000, "0 trillion"), (10000000000000, "00 trillion"),
        (100000000000000, "000 trillion")]),
      ("other", [
        (1000, "0 thousand"), (10000, "00 thousand"), (100000, "000 thousand"),
        (1000000, "0 million"), (10000000, "00 million"), (100000000, "000 million"),
        (1000000000, "0 billion"), (10000000000, "00 billion"), (100000000000, "000 billion"),
        (1000000000000, "0 trillion"), (10000000000000, "00 trillion"),
        (100000000000000, "000 trillion")])])]),
  (["es"], [
    ("short", [
      ("other", [
        (1000, "0\u00a0mil"), (10000, "00\u00a0mil"), (100000, "000\u00a0mil"),
        (1000000, "0\u00a0M"), (10000000, "00\u00a0M"), (100000000, "000\u00a0M"),
        (1000000000, "0000\u00a0M"), (10000000000, "00\u00a0mil\u00a0M"),
        (100000000000, "000\u00a0mil\u00a0M"), (1000000000000, "0\u00a0B"),
        (10000000000000, "00\u00a0B"), (100000000000000, "000\u00a0B")]),
      ("one", [
        (1000, "0\u00a0mil"), (10000, "00\u00a0mil"), (100000, "000\u00a0mil"),
        (1000000, "0\u00a0M"), (10000000, "00\u00a0M"), (100000000, "000\u00a0M"),
        (1000000000, "0000\u00a0M"), (10000000000, "00\u00a0mil\u00a0M"),
        (100000000000, "000\u00a0mil\u00a0M"), (1000000000000, "0\u00a0B"),
        (10000000000000, "00\u00a0B"), (100000000000000, "000\u00a0B")])]),
    ("long", [
      ("one", [
        (1000, "0 mil"), (10000, "00 mil"), (100000, "000 mil"), (1000000, "0 millón"),
        (10000000, "00 millones"), (100000000, "000 millones"), (1000000000, "0 mil millones"),
        (10000000000, "00 mil millones"), (100000000000, "000 mil millones"),
        (1000000000000, "0 billón"), (10000000000000, "00 billones"),
        (100000000000000, "000 billones")]),
      ("other", [
        (1000, "0 mil"), (10000, "00 mil"), (100000, "000 mil"), (1000000, "0 millones"),
        (10000000, "00 millones"), (100000000, "000 millones"), (1000000000, "0 mil millones"),
        (10000000000, "00 mil millones"), (100000000000, "000 mil millones"),
        (1000000000000, "0 billones"), (10000000000000, "00 billones"),
        (100000000000000, "000 billones")])])]),
  (["fr"], [
    ("short", [
      ("other", [
        (1000, "0\u00a0k"), (10000, "00\u00a0k"), (100000, "000\u00a0k"), (1000000, "0\u00a0M"),
        (10000000, "00\u00a0M"), (100000000, "000\u00a0M"), (1000000000, "0\u00a0Md"),
        (10000000000, "00\u00a0Md"), (100000000000, "000\u00a0Md"), (1000000000000, "0\u00a0Bn"),
        (10000000000000, "00\u00a0Bn"), (100000000000000, "000\u00a0Bn")]),
      ("one", [
        (1000, "0\u00a0k"), (10000, "00\u00a0k"), (100000, "000\u00a0k"), (1000000, "0\u00a0M"),
        (10000000, "00\u00a0M"), (100000000, "000\u00a0M"), (1000000000, "0\u00a0Md"),
        (10000000000, "00\u00a0Md"), (100000000000, "000\u00a0Md"), (1000000000000, "0\u00a0Bn"),
        (10000000000000, "00\u00a0Bn"), (100000000000000, "000\u00a0Bn")])]),
    ("long", [
      ("1", [
        (1000, "mille")]),
      ("one", [
        (1000, "0 millier"), (10000, "00 mille"), (100000, "000 mille"), (1000000, "0 million"),
        (10000000, "00 million"), (100000000, "000 million"), (1000000000, "0 milliard"),
        (10000000000, "00 milliard"), (100000000000, "000 milliard"), (1000000000000, "0 billion"),
        (10000000000000, "00 billion"), (100000000000000, "000 billion")]),
      ("other", [
        (1000, "0 mille"), (10000, "00 mille"), (100000, "000 mille"), (1000000, "0 millions"),
        (10000000, "00 millions"), (100000000, "000 millions"), (1000000000, "0 milliards"),
        (10000000000, "00 milliards"), (100000000000, "000 milliards"),
        (1000000000000, "0 billions"), (10000000000000, "00 billions"),
        (100000000000000, "000 billions")])])]),
  (["hi"], [
    ("short", [
      ("other", [
        (1000, "0\u00a0हज़ार"), (10000, "00\u00a0हज़ार"), (100000, "0\u00a0लाख"),
        (1000000, "00\u00a0लाख"), (10000000, "0\u00a0क॰"), (100000000, "00\u00a0क॰"),
        (1000000000, "0\u00a0अ॰"), (10000000000, "00\u00a0अ॰"), (100000000000, "0\u00a0ख॰"),
        (1000000000000, "00\u00a0ख॰"), (10000000000000, "0\u00a0नील"),
        (100000000000000, "00\u00a0नील")]),
      ("one", [
        (1000, "0\u00a0हज़ार"), (10000, "00\u00a0हज़ार"), (100000, "0\u00a0लाख"),
        (1000000, "00\u00a0लाख"), (10000000, "0\u00a0क॰"), (100000000, "00\u00a0क॰"),
        (1000000000, "0\u00a0अ॰"), (10000000000, "00\u00a0अ॰"), (100000000000, "0\u00a0ख॰"),
        (1000000000000, "00\u00a0ख॰"), (10000000000000, "0\u00a0नील"),
        (100000000000000, "00\u00a0नील")])]),
    ("long", [
      ("one", [
        (1000, "0 हज़ार"), (10000, "00 हज़ार"), (100000, "0 लाख"), (1000000, "00 लाख"),
        (10000000, "0 करोड़"), (100000000, "00 करोड़"), (1000000000, "0 अरब"),
        (10000000000, "00 अरब"), (100000000000, "0 खरब"), (1000000000000, "00 खरब"),
        (10000000000000, "000 खरब"), (100000000000000, "0000 खरब")]),
      ("other", [
        (1000, "0 हज़ार"), (10000, "00 हज़ार"), (100000, "0 लाख"), (1000000, "00 लाख"),
        (10000000, "0 करोड़"), (100000000, "00 करोड़"), (1000000000, "0 अरब"),
        (10000000000, "00 अरब"), (100000000000, "0 खरब"), (1000000000000, "00 खरब"),
        (10000000000000, "000 खरब"), (100000000000000, "0000 खरब")])])]),
  (["ja"], [
    ("short", [
      ("other", [
        (1000, "0"), (10000, "0万"), (100000, "00万"), (1000000, "000万"), (10000000, "0000万"),
        (100000000, "0億"), (1000000000, "00億"), (10000000000, "000億"), (100000000000, "0000億"),
        (1000000000000, "0兆"), (10000000000000, "00兆"), (100000000000000, "000兆"),
        (1000000000000000, "0000兆"), (10000000000000000, "0京"), (100000000000000000, "00京"),
        (1000000000000000000, "000京"), (10000000000000000000, "0000京")])])]),
  (["ko"], [
    ("short", [
      ("other", [
        (1000, "0천"), (10000, "0만"), (100000, "00만"), (1000000, "000만"), (10000000, "0000만"),
        (100000000, "0억"), (1000000000, "00억"), (10000000000, "000억"), (100000000000, "0000억"),
        (1000000000000, "0조"), (10000000000000, "00조"), (100000000000000, "000조")])])]),
  (["ru"], [
    ("short", [
      ("other", [
        (1000, "0\u00a0тыс'.'"), (10000, "00\u00a0тыс'.'"), (100000, "000\u00a0тыс'.'"),
        (1000000, "0\u00a0млн"), (10000000, "00\u00a0млн"), (100000000, "000\u00a0млн"),
        (1000000000, "0\u00a0млрд"), (10000000000, "00\u00a0млрд"), (100000000000, "000\u00a0млрд"),
        (1000000000000, "0\u00a0трлн"), (10000000000000, "00\u00a0трлн"),
        (100000000000000, "000\u00a0трлн")]),
      ("one", [
        (1000, "0\u00a0тыс'.'"), (10000, "00\u00a0тыс'.'"), (100000, "000\u00a0тыс'.'"),
        (1000000, "0\u00a0млн"), (10000000, "00\u00a0млн"), (100000000, "000\u00a0млн"),
        (1000000000, "0\u00a0млрд"), (10000000000, "00\u00a0млрд"), (100000000000, "000\u00a0млрд"),
        (1000000000000, "0\u00a0трлн"), (10000000000000, "00\u00a0трлн"),
        (100000000000000, "000\u00a0трлн")])]),
    ("long", [
      ("one", [
        (1000, "0 тысяча"), (10000, "00 тысяча"), (100000, "000 тысяча"), (1000000, "0 миллион"),
        (10000000, "00 миллион"), (100000000, "000 миллион"), (1000000000, "0 миллиард"),
        (10000000000, "00 миллиард"), (100000000000, "000 миллиард"), (1000000000000, "0 триллион"),
        (10000000000000, "00 триллион"), (100000000000000, "000 триллион")]),
      ("few", [
        (1000, "0 тысячи"), (10000, "00 тысячи"), (100000, "000 тысячи"), (1000000, "0 миллиона"),
        (10000000, "00 миллиона"), (100000000, "000 миллиона"), (1000000000, "0 миллиарда"),
        (10000000000, "00 миллиарда"), (100000000000, "000 миллиарда"),
        (1000000000000, "0 триллиона"), (10000000000000, "00 триллиона"),
        (100000000000000, "000 триллиона")]),
      ("many", [
        (1000, "0 тысяч"), (10000, "00 тысяч"), (100000, "000 тысяч"), (1000000, "0 миллионов"),
        (10000000, "00 миллионов"), (100000000, "000 миллионов"), (1000000000, "0 миллиардов"),
        (10000000000, "00 миллиардов"), (100000000000, "000 миллиардов"),
        (1000000000000, "0 триллионов"), (10000000000000, "00 триллионов"),
        (100000000000000, "000 триллионов")]),
      ("other", [
        (1000, "0 тысячи"), (10000, "00 тысячи"), (100000, "000 тысячи"), (1000000, "0 миллиона"),
        (10000000, "00 миллиона"), (100000000, "000 миллиона"), (1000000000, "0 миллиарда"),
        (10000000000, "00 миллиарда"), (100000000000, "000 миллиарда"),
        (1000000000000, "0 триллиона"), (10000000000000, "00 триллиона"),
        (100000000000000, "000 триллиона")])])]),
  (["zh_Hant"], [
    ("short", [
      ("other", [
        (1000, "0"), (10000, "0萬"), (100000, "00萬"), (1000000, "000萬"), (10000000, "0000萬"),
        (100000000, "0億"), (1000000000, "00億"), (10000000000, "000億"), (100000000000, "0000億"),
        (1000000000000, "0兆"), (10000000000000, "00兆"), (100000000000000, "000兆")])])]),
  (["zh"], [
    ("short", [
      ("other", [
        (1000, "0"), (10000, "0万"), (100000, "00万"), (1000000, "000万"), (10000000, "0000万"),
        (100000000, "0亿"), (1000000000, "00亿"), (10000000000, "000亿"), (100000000000, "0000亿"),
        (1000000000000, "0万亿"), (10000000000000, "00万亿"), (100000000000000, "000万亿")])])]),
  (["it"], [
    ("short", [
      ("other", [
        (1000, "0K"), (10000, "00K"), (100000, "000K"), (1000000, "0\u00a0Mln"),
        (10000000, "00\u00a0Mln"), (100000000, "000\u00a0Mln"), (1000000000, "0\u00a0Mld"),
        (10000000000, "00\u00a0Mld"), (100000000000, "000\u00a0Mld"), (1000000000000, "0\u00a0Bln"),
        (10000000000000, "00\u00a0Bln"), (100000000000000, "000\u00a0Bln")])]),
    ("long", [
      ("other", [
        (1000, "0 mila"), (10000, "00 mila"), (100000, "000 mila"), (1000000, "0 milioni"),
        (10000000, "00 milioni"), (100000000, "000 milioni"), (1000000000, "0 miliardi"),
        (10000000000, "00 miliardi"), (100000000000, "000 miliardi"),
        (1000000000000, "0 mila miliardi"), (10000000000000, "00 mila miliardi"),
        (100000000000000, "000 mila miliardi")]),
      ("one", [
        (1000, "mille"), (1000000, "0 milione"), (1000000000, "0 miliardo"),
        (1000000000000, "0 mille miliardi")])])]),
  (["pt"], [
    ("short", [
      ("other", [
        (1000, "0\u00a0mil"), (10000, "00\u00a0mil"), (100000, "000\u00a0mil"),
        (1000000, "0\u00a0mi"), (10000000, "00\u00a0mi"), (100000000, "000\u00a0mi"),
        (1000000000, "0\u00a0bi"), (10000000000, "00\u00a0bi"), (100000000000, "000\u00a0bi"),
        (1000000000000, "0\u00a0tri"), (10000000000000, "00\u00a0tri"),
        (100000000000000, "000\u00a0tri")])]),
    ("long", [
      ("other", [
        (1000, "0 mil"), (10000, "00 mil"), (100000, "000 mil"), (1000000, "0 milhões"),
        (10000000, "00 milhões"), (100000000, "000 milhões"), (1000000000, "0 bilhões"),
        (10000000000, "00 bilhões"), (100000000000, "000 bilhões"), (1000000000000, "0 trilhões"),
        (10000000000000, "00 trilhões"), (100000000000000, "000 trilhões")]),
      ("one", [(1000000, "0 milhão"), (1000000000, "0 bilhão"), (1000000000000, "0 trilhão")])])]),
  (["pt_PT"], [
    ("short", [
      ("other", [
        (1000, "0\u00a0mil"), (10000, "00\u00a0mil"), (100000, "000\u00a0mil"),
        (1000000, "0\u00a0M"), (10000000, "00\u00a0M"), (100000000, "000\u00a0M"),
        (1000000000, "0\u00a0mM"), (10000000000, "00\u00a0mM"), (100000000000, "000\u00a0mM"),
        (1000000000000, "0\u00a0Bi"), (10000000000000, "00\u00a0Bi"),
        (100000000000000, "000\u00a0Bi")])]),
    ("long", [
      ("other", [
        (1000, "0 mil"), (10000, "00 mil"), (100000, "000 mil"), (1000000, "0 milhões"),
        (10000000, "00 milhões"), (100000000, "000 milhões"), (1000000000, "0 mil milhões"),
        (10000000000, "00 mil milhões"), (100000000000, "000 mil milhões"),
        (1000000000000, "0 biliões"), (10000000000000, "00 biliões"),
        (100000000000000, "000 biliões")]),
      ("one", [(1000000, "0 milhão"), (1000000000000, "0 bilião")])])]),
  (["nl"], [
    ("short", [
      ("other", [
        (1000, "0K"), (10000, "00K"), (100000, "000K"), (1000000, "0\u00a0mln'.'"),
        (10000000, "00\u00a0mln'.'"), (100000000, "000\u00a0mln'.'"), (1000000000, "0\u00a0mld'.'"),
        (10000000000, "00\u00a0mld'.'"), (100000000000, "000\u00a0mld'.'"),
        (1000000000000, "0\u00a0bln'.'"), (10000000000000, "00\u00a0bln'.'"),
        (100000000000000, "000\u00a0bln'.'")])]),
    ("long", [
      ("other", [
        (1000, "0 duizend"), (10000, "00 duizend"), (100000, "000 duizend"), (1000000, "0 miljoen"),
        (10000000, "00 miljoen"), (100000000, "000 miljoen"), (1000000000, "0 miljard"),
        (10000000000, "00 miljard"), (100000000000, "000 miljard"), (1000000000000, "0 biljoen"),
        (10000000000000, "00 biljoen"), (100000000000000, "000 biljoen")])])]),
  (["pl"], [
    ("short", [
      ("other", [
        (1000, "0\u00a0tys'.'"), (10000, "00\u00a0tys'.'"), (100000, "000\u00a0tys'.'"),
        (1000000, "0\u00a0mln"), (10000000, "00\u00a0mln"), (100000000, "000\u00a0mln"),
        (1000000000, "0\u00a0mld"), (10000000000, "00\u00a0mld"), (100000000000, "000\u00a0mld"),
        (1000000000000, "0\u00a0bln"), (10000000000000, "00\u00a0bln"),
        (100000000000000, "000\u00a0bln")])]),
    ("long", [
      ("other", [
        (1000, "0 tysiąca"), (10000, "00 tysiąca"), (100000, "000 tysiąca"), (1000000, "0 miliona"),
        (10000000, "00 miliona"), (100000000, "000 miliona"), (1000000000, "0 miliarda"),
        (10000000000, "00 miliarda"), (100000000000, "000 miliarda"), (1000000000000, "0 biliona"),
        (10000000000000, "00 biliona"), (100000000000000, "000 biliona")]),
      ("few", [
        (1000, "0 tysiące"), (10000, "00 tysiące"), (100000, "000 tysiące"), (1000000, "0 miliony"),
        (10000000, "00 miliony"), (100000000, "000 miliony"), (1000000000, "0 miliardy"),
        (10000000000, "00 miliardy"), (100000000000, "000 miliardy"), (1000000000000, "0 biliony"),
        (10000000000000, "00 biliony"), (100000000000000, "000 biliony")]),
      ("many", [
        (1000, "0 tysięcy"), (10000, "00 tysięcy"), (100000, "000 tysięcy"),
        (1000000, "0 milionów"), (10000000, "00 milionów"), (100000000, "000 milionów"),
        (1000000000, "0 miliardów"), (10000000000, "00 miliardów"), (100000000000, "000 miliardów"),
        (1000000000000, "0 bilionów"), (10000000000000, "00 bilionów"),
        (100000000000000, "000 bilionów")]),
      ("one", [
        (1000, "0 tysiąc"), (1000000, "0 milion"), (1000000000, "0 miliard"),
        (1000000000000, "0 bilion")])])]),
  (["sv"], [
    ("short", [
      ("other", [
        (1000, "0\u00a0tn"), (10000, "00\u00a0tn"), (100000, "000\u00a0tn"), (1000000, "0\u00a0mn"),
        (10000000, "00\u00a0mn"), (100000000, "000\u00a0mn"), (1000000000, "0\u00a0md"),
        (10000000000, "00\u00a0md"), (100000000000, "000\u00a0md"), (1000000000000, "0\u00a0bn"),
        (10000000000000, "00\u00a0bn"), (100000000000000, "000\u00a0bn")])]),
    ("long", [
      ("other", [
        (1000, "0 tusen"), (10000, "00 tusen"), (100000, "000 tusen"), (1000000, "0 miljoner"),
        (10000000, "00 miljoner"), (100000000, "000 miljoner"), (1000000000, "0 miljarder"),
        (10000000000, "00 miljarder"), (100000000000, "000 miljarder"),
        (1000000000000, "0 biljoner"), (10000000000000, "00 biljoner"),
        (100000000000000, "000 biljoner")]),
      ("one", [(1000000, "0 miljon"), (1000000000, "0 miljard"), (1000000000000, "0 biljon")])])]),
  (["tr"], [
    ("short", [
      ("other", [
        (1000, "0\u00a0B"), (10000, "00\u00a0B"), (100000, "000\u00a0B"), (1000000, "0\u00a0Mn"),
        (10000000, "00\u00a0Mn"), (100000000, "000\u00a0Mn"), (1000000000, "0\u00a0Mr"),
        (10000000000, "00\u00a0Mr"), (100000000000, "000\u00a0Mr"), (1000000000000, "0\u00a0Tn"),
        (10000000000000, "00\u00a0Tn"), (100000000000000, "000\u00a0Tn")])]),
    ("long", [
      ("other", [
        (1000, "0 bin"), (10000, "00 bin"), (100000, "000 bin"), (1000000, "0 milyon"),
        (10000000, "00 milyon"), (100000000, "000 milyon"), (1000000000, "0 milyar"),
        (10000000000, "00 milyar"), (100000000000, "000 milyar"), (1000000000000, "0 trilyon"),
        (10000000000000, "00 trilyon"), (100000000000000, "000 trilyon")])])]),
  (["ar"], [
    ("short", [
      ("other", [
        (1000, "0\u00a0ألف"), (10000, "00\u00a0ألف"), (100000, "000\u00a0ألف"),
        (1000000, "0\u00a0مليون"), (10000000, "00\u00a0مليون"), (100000000, "000\u00a0مليون"),
        (1000000000, "0\u00a0مليار"), (10000000000, "00\u00a0مليار"),
        (100000000000, "000\u00a0مليار"), (1000000000000, "0\u00a0ترليون"),
        (10000000000000, "00\u00a0ترليون"), (100000000000000, "000\u00a0ترليون")]),
      ("few", [(1000, "0\u00a0آلاف")])]),
    ("long", [
      ("other", [
        (1000, "0 ألف"), (10000, "00 ألف"), (100000, "000 ألف"), (1000000, "0 مليون"),
        (10000000, "00 مليون"), (100000000, "000 مليون"), (1000000000, "0 مليار"),
        (10000000000, "00 مليار"), (100000000000, "000 مليار"), (1000000000000, "0 ترليون"),
        (10000000000000, "00 ترليون"), (100000000000000, "000 ترليون")]),
      ("few", [(1000, "0 آلاف"), (1000000, "0 ملايين"), (10000000, "00 ملايين")])])]),
  (["es_419"], [
    ("short", [
      ("other", [
        (1000, "0\u00a0K"), (10000, "00\u00a0k"), (100000, "000\u00a0k"), (1000000, "0\u00a0M"),
        (10000000, "00\u00a0M"), (100000000, "000\u00a0M"), (1000000000, "0000\u00a0M"),
        (10000000000, "00\u00a0mil\u00a0M"), (100000000000, "000\u00a0mil\u00a0M"),
        (1000000000000, "0\u00a0B"), (10000000000000, "00\u00a0B"),
        (100000000000000, "000\u00a0B")])]),
    ("long", [
      ("other", [
        (1000, "0 mil"), (10000, "00 mil"), (100000, "000 mil"), (1000000, "0 millones"),
        (10000000, "00 millones"), (100000000, "000 millones"), (1000000000, "0 mil millones"),
        (10000000000, "00 mil millones"), (100000000000, "000 mil millones"),
        (1000000000000, "0 billones"), (10000000000000, "00 billones"),
        (100000000000000, "000 billones")]),
      ("one", [(1000000, "0 millón"), (1000000000000, "0 billón")])])])]

end Phrasebook
