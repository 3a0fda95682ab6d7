import Phrasebook.Locale.Data

/-!
# Relative-time patterns of the locales
-/

set_option autoImplicit false

namespace Phrasebook

/-- Amount patterns where a locale says nothing else. -/
def rootUnitPatterns : UnitPatterns :=
  [("year", " y"), ("month", " m"), ("week", " w"), ("day", " d"), ("hour", " h"),
    ("minute", " min"), ("second", " s")].map fun u ↦
      (u.1, ⟨[("other", ⟨"+", u.2⟩)], [("other", ⟨"-", u.2⟩)]⟩)

/-- Amount patterns by locale. -/
def relativePatterns : List (List String × UnitPatterns) := [
  (["de"], [
    ("year", ⟨
      [("other", ⟨"in ", " Jahren"⟩), ("one", ⟨"in ", " Jahr"⟩)],
      [("other", ⟨"vor ", " Jahren"⟩), ("one", ⟨"vor ", " Jahr"⟩)]⟩),
    ("month", ⟨
      [("other", ⟨"in ", " Monaten"⟩), ("one", ⟨"in ", " Monat"⟩)],
      [("other", ⟨"vor ", " Monaten"⟩), ("one", ⟨"vor ", " Monat"⟩)]⟩),
    ("month-short", ⟨
      [],
      [("one", ⟨"vor ", " Monat"⟩), ("other", ⟨"vor ", "\u00a0Monaten"⟩)]⟩),
    ("month-narrow", ⟨
      [],
      [("one", ⟨"vor ", "\u00a0Monat"⟩), ("other", ⟨"vor ", " Monaten"⟩)]⟩),
    ("week", ⟨
      [("other", ⟨"in ", " Wochen"⟩), ("one", ⟨"in ", " Woche"⟩)],
      [("other", ⟨"vor ", " Wochen"⟩), ("one", ⟨"vor ", " Woche"⟩)]⟩),
    ("week-narrow", ⟨
      [("one", ⟨"in ", " Wo."⟩), ("other", ⟨"in ", " Wo."⟩)],
      [("one", ⟨"vor ", " Wo."⟩), ("other", ⟨"vor ", " Wo."⟩)]⟩),
    ("day", ⟨
      [("other", ⟨"in ", " Tagen"⟩), ("one", ⟨"in ", " Tag"⟩)],
      [("other", ⟨"vor ", " Tagen"⟩), ("one", ⟨"vor ", " Tag"⟩)]⟩),
    ("hour", ⟨
      [("other", ⟨"in ", " Stunden"⟩), ("one", ⟨"in ", " Stunde"⟩)],
      [("other", ⟨"vor ", " Stunden"⟩), ("one", ⟨"vor ", " Stunde"⟩)]⟩),
    ("hour-short", ⟨
      [("one", ⟨"in ", " Std."⟩), ("other", ⟨"in ", " Std."⟩)],
      [("one", ⟨"vor ", " Std."⟩), ("other", ⟨"vor ", " Std."⟩)]⟩),
    ("minute", ⟨
      [("other", ⟨"in ", " Minuten"⟩), ("one", ⟨"in ", " Minute"⟩)],
      [("other", ⟨"vor ", " Minuten"⟩), ("one", ⟨"vor ", " Minute"⟩)]⟩),
    ("minute-short", ⟨
      [("one", ⟨"in ", " Min."⟩), ("other", ⟨"in ", " Min."⟩)],
      [("one", ⟨"vor ", " Min."⟩), ("other", ⟨"vor ", " Min."⟩)]⟩),
    ("minute-narrow", ⟨
      [("one", ⟨"in ", " m"⟩), ("other", ⟨"in ", " m"⟩)],
      [("one", ⟨"vor ", " m"⟩), ("other", ⟨"vor ", " m"⟩)]⟩),
    ("second", ⟨
      [("other", ⟨"in ", " Sekunden"⟩), ("one", ⟨"in ", " Sekunde"⟩)],
      [("other", ⟨"vor ", " Sekunden"⟩), ("one", ⟨"vor ", " Sekunde"⟩)]⟩),
    ("second-short", ⟨
      [("one", ⟨"in ", " Sek."⟩), ("other", ⟨"in ", " Sek."⟩)],
      [("one", ⟨"vor ", " Sek."⟩), ("other", ⟨"vor ", " Sek."⟩)]⟩),
    ("second-narrow", ⟨
      [("one", ⟨"in ", " s"⟩), ("other", ⟨"in ", " s"⟩)],
      [("one", ⟨"vor ", " s"⟩), ("other", ⟨"vor ", " s"⟩)]⟩)]),
  (["en"], [
    ("year", ⟨
      [("other", ⟨"in ", " years"⟩), ("one", ⟨"in ", " year"⟩)],
      [("other", ⟨"", " years ago"⟩), ("one", ⟨"", " year ago"⟩)]⟩),
    ("year-short", ⟨
      [("one", ⟨"in ", " yr."⟩), ("other", ⟨"in ", " yr."⟩)],
      [("one", ⟨"", " yr. ago"⟩), ("other", ⟨"", " yr. ago"⟩)]⟩),
    ("year-narrow", ⟨
      [("one", ⟨"in ", "y"⟩), ("other", ⟨"in ", "y"⟩)],
      [("one", ⟨"", "y ago"⟩), ("other", ⟨"", "y ago"⟩)]⟩),
    ("month", ⟨
      [("other", ⟨"in ", " months"⟩), ("one", ⟨"in ", " month"⟩)],
      [("other", ⟨"", " months ago"⟩), ("one", ⟨"", " month ago"⟩)]⟩),
    ("month-short", ⟨
      [("one", ⟨"in ", " mo."⟩), ("other", ⟨"in ", " mo."⟩)],
      [("one", ⟨"", " mo. ago"⟩), ("other", ⟨"", " mo. ago"⟩)]⟩),
    ("month-narrow", ⟨
      [("one", ⟨"in ", "mo"⟩), ("other", ⟨"in ", "mo"⟩)],
      [("one", ⟨"", "mo ago"⟩), ("other", ⟨"", "mo ago"⟩)]⟩),
    ("week", ⟨
      [("other", ⟨"in ", " weeks"⟩), ("one", ⟨"in ", " week"⟩)],
      [("other", ⟨"", " weeks ago"⟩), ("one", ⟨"", " week ago"⟩)]⟩),
    ("week-short", ⟨
      [("one", ⟨"in ", " wk."⟩), ("other", ⟨"in ", " wk."⟩)],
      [("one", ⟨"", " wk. ago"⟩), ("other", ⟨"", " wk. ago"⟩)]⟩),
    ("week-narrow", ⟨
      [("one", ⟨"in ", "w"⟩), ("other", ⟨"in ", "w"⟩)],
      [("one", ⟨"", "w ago"⟩), ("other", ⟨"", "w ago"⟩)]⟩),
    ("day", ⟨
      [("other", ⟨"in ", " days"⟩), ("one", ⟨"in ", " day"⟩)],
      [("other", ⟨"", " days ago"⟩), ("one", ⟨"", " day ago"⟩)]⟩),
    ("day-short", ⟨
      [("one", ⟨"in ", " day"⟩), ("other", ⟨"in ", " days"⟩)],
      [("one", ⟨"", " day ago"⟩), ("other", ⟨"", " days ago"⟩)]⟩),
    ("day-narrow", ⟨
      [("one", ⟨"in ", "d"⟩), ("other", ⟨"in ", "d"⟩)],
      [("one", ⟨"", "d ago"⟩), ("other", ⟨"", "d ago"⟩)]⟩),
    ("hour", ⟨
      [("other", ⟨"in ", " hours"⟩), ("one", ⟨"in ", " hour"⟩)],
      [("other", ⟨"", " hours ago"⟩), ("one", ⟨"", " hour ago"⟩)]⟩),
    ("hour-short", ⟨
      [("one", ⟨"in ", " hr."⟩), ("other", ⟨"in ", " hr."⟩)],
      [("one", ⟨"", " hr. ago"⟩), ("other", ⟨"", " hr. ago"⟩)]⟩),
    ("hour-narrow", ⟨
      [("one", ⟨"in ", "h"⟩), ("other", ⟨"in ", "h"⟩)],
      [("one", ⟨"", "h ago"⟩), ("other", ⟨"", "h ago"⟩)]⟩),
    ("minute", ⟨
      [("other", ⟨"in ", " minutes"⟩), ("one", ⟨"in ", " minute"⟩)],
      [("other", ⟨"", " minutes ago"⟩), ("one", ⟨"", " minute ago"⟩)]⟩),
    ("minute-short", ⟨
      [("one", ⟨"in ", " min."⟩), ("other", ⟨"in ", " min."⟩)],
      [("one", ⟨"", " min. ago"⟩), ("other", ⟨"", " min. ago"⟩)]⟩),
    ("minute-narrow", ⟨
      [("one", ⟨"in ", "m"⟩), ("other", ⟨"in ", "m"⟩)],
      [("one", ⟨"", "m ago"⟩), ("other", ⟨"", "m ago"⟩)]⟩),
    ("second", ⟨
      [("other", ⟨"in ", " seconds"⟩), ("one", ⟨"in ", " second"⟩)],
      [("other", ⟨"", " seconds ago"⟩), ("one", ⟨"", " second ago"⟩)]⟩),
    ("second-short", ⟨
      [("one", ⟨"in ", " sec."⟩), ("other", ⟨"in ", " sec."⟩)],
      [("one", ⟨"", " sec. ago"⟩), ("other", ⟨"", " sec. ago"⟩)]⟩),
    ("second-narrow", ⟨
      [("one", ⟨"in ", "s"⟩), ("other", ⟨"in ", "s"⟩)],
      [("one", ⟨"", "s ago"⟩), ("other", ⟨"", "s ago"⟩)]⟩)]),
  (["fr"], [
    ("year", ⟨
      [("other", ⟨"dans ", " ans"⟩), ("one", ⟨"dans ", " an"⟩)],
      [("other", ⟨"il y a ", " ans"⟩), ("one", ⟨"il y a ", " an"⟩)]⟩),
    ("year-short", ⟨
      [("one", ⟨"dans ", " a"⟩), ("other", ⟨"dans ", " a"⟩)],
      [("one", ⟨"il y a ", " a"⟩), ("other", ⟨"il y a ", " a"⟩)]⟩),
    ("year-narrow", ⟨
      [("one", ⟨"+", " a"⟩), ("other", ⟨"+", " a"⟩)],
      [("one", ⟨"-", " a"⟩), ("other", ⟨"-", " a"⟩)]⟩),
    ("month", ⟨
      [("other", ⟨"dans ", " mois"⟩), ("one", ⟨"dans ", " mois"⟩)],
      [("other", ⟨"il y a ", " mois"⟩), ("one", ⟨"il y a ", " mois"⟩)]⟩),
    ("month-short", ⟨
      [("one", ⟨"dans ", " m."⟩), ("other", ⟨"dans ", " m."⟩)],
      [("one", ⟨"il y a ", " m."⟩), ("other", ⟨"il y a ", " m."⟩)]⟩),
    ("month-narrow", ⟨
      [("one", ⟨"+", " m."⟩), ("other", ⟨"+", " m."⟩)],
      [("one", ⟨"-", " m."⟩), ("other", ⟨"-", " m."⟩)]⟩),
    ("week", ⟨
      [("other", ⟨"dans ", " semaines"⟩), ("one", ⟨"dans ", " semaine"⟩)],
      [("other", ⟨"il y a ", " semaines"⟩), ("one", ⟨"il y a ", " semaine"⟩)]⟩),
    ("week-short", ⟨
      [("one", ⟨"dans ", " sem."⟩), ("other", ⟨"dans ", " sem."⟩)],
      [("one", ⟨"il y a ", " sem."⟩), ("other", ⟨"il y a ", " sem."⟩)]⟩),
    ("week-narrow", ⟨
      [("one", ⟨"+", " sem."⟩), ("other", ⟨"+", " sem."⟩)],
      [("one", ⟨"-", " sem."⟩), ("other", ⟨"-", " sem."⟩)]⟩),
    ("day", ⟨
      [("other", ⟨"dans ", " jours"⟩), ("one", ⟨"dans ", " jour"⟩)],
      [("other", ⟨"il y a ", " jours"⟩), ("one", ⟨"il y a ", " jour"⟩)]⟩),
    ("day-short", ⟨
      [("one", ⟨"dans ", "\u00a0j"⟩), ("other", ⟨"dans ", "\u00a0j"⟩)],
      [("one", ⟨"il y a ", "\u00a0j"⟩), ("other", ⟨"il y a ", "\u00a0j"⟩)]⟩),
    ("day-narrow", ⟨
      [("one", ⟨"+", " j"⟩), ("other", ⟨"+", " j"⟩)],
      [("one", ⟨"-", " j"⟩), ("other", ⟨"-", " j"⟩)]⟩),
    ("hour", ⟨
      [("other", ⟨"dans ", " heures"⟩), ("one", ⟨"dans ", " heure"⟩)],
      [("other", ⟨"il y a ", " heures"⟩), ("one", ⟨"il y a ", " heure"⟩)]⟩),
    ("hour-short", ⟨
      [("one", ⟨"dans ", "\u00a0h"⟩), ("other", ⟨"dans ", "\u00a0h"⟩)],
      [("one", ⟨"il y a ", "\u00a0h"⟩), ("other", ⟨"il y a ", "\u00a0h"⟩)]⟩),
    ("hour-narrow", ⟨
      [("one", ⟨"+", " h"⟩), ("other", ⟨"+", " h"⟩)],
      [("one", ⟨"-", " h"⟩), ("other", ⟨"-", " h"⟩)]⟩),
    ("minute", ⟨
      [("other", ⟨"dans ", " minutes"⟩), ("one", ⟨"dans ", " minute"⟩)],
      [("other", ⟨"il y a ", " minutes"⟩), ("one", ⟨"il y a ", " minute"⟩)]⟩),
    ("minute-short", ⟨
      [("one", ⟨"dans ", "\u00a0min"⟩), ("other", ⟨"dans ", "\u00a0min"⟩)],
      [("one", ⟨"il y a ", "\u00a0min"⟩), ("other", ⟨"il y a ", "\u00a0min"⟩)]⟩),
    ("minute-narrow", ⟨
      [("one", ⟨"+", " min"⟩), ("other", ⟨"+", " min"⟩)],
      [("one", ⟨"-", " min"⟩), ("other", ⟨"-", " min"⟩)]⟩),
    ("second", ⟨
      [("other", ⟨"dans ", " secondes"⟩), ("one", ⟨"dans ", " seconde"⟩)],
      [("other", ⟨"il y a ", " secondes"⟩), ("one", ⟨"il y a ", " seconde"⟩)]⟩),
    ("second-short", ⟨
      [("one", ⟨"dans ", "\u00a0s"⟩), ("other", ⟨"dans ", "\u00a0s"⟩)],
      [("one", ⟨"il y a ", "\u00a0s"⟩), ("other", ⟨"il y a ", "\u00a0s"⟩)]⟩),
    ("second-narrow", ⟨
      [("one", ⟨"+", " s"⟩), ("other", ⟨"+", " s"⟩)],
      [("one", ⟨"-", " s"⟩), ("other", ⟨"-", " s"⟩)]⟩)]),
  (["ja"], [
    ("year", ⟨
      [("other", ⟨"", " 年後"⟩)],
      [("other", ⟨"", " 年前"⟩)]⟩),
    ("year-narrow", ⟨
      [("other", ⟨"", "年後"⟩)],
      [("other", ⟨"", "年前"⟩)]⟩),
    ("month", ⟨
      [("other", ⟨"", " か月後"⟩)],
      [("other", ⟨"", " か月前"⟩)]⟩),
    ("month-narrow", ⟨
      [("other", ⟨"", "か月後"⟩)],
      [("other", ⟨"", "か月前"⟩)]⟩),
    ("week", ⟨
      [("other", ⟨"", " 週間後"⟩)],
      [("other", ⟨"", " 週間前"⟩)]⟩),
    ("week-narrow", ⟨
      [("other", ⟨"", "週間後"⟩)],
      [("other", ⟨"", "週間前"⟩)]⟩),
    ("day", ⟨
      [("other", ⟨"", " 日後"⟩)],
      [("other", ⟨"", " 日前"⟩)]⟩),
    ("day-narrow", ⟨
      [("other", ⟨"", "日後"⟩)],
      [("other", ⟨"", "日前"⟩)]⟩),
    ("hour", ⟨
      [("other", ⟨"", " 時間後"⟩)],
      [("other", ⟨"", " 時間前"⟩)]⟩),
    ("hour-narrow", ⟨
      [("other", ⟨"", "時間後"⟩)],
      [("other", ⟨"", "時間前"⟩)]⟩),
    ("minute", ⟨
      [("other", ⟨"", " 分後"⟩)],
      [("other", ⟨"", " 分前"⟩)]⟩),
    ("minute-narrow", ⟨
      [("other", ⟨"", "分後"⟩)],
      [("other", ⟨"", "分前"⟩)]⟩),
    ("second", ⟨
      [("other", ⟨"", " 秒後"⟩)],
      [("other", ⟨"", " 秒前"⟩)]⟩),
    ("second-narrow", ⟨
      [("other", ⟨"", "秒後"⟩)],
      [("other", ⟨"", "秒前"⟩)]⟩)]),
  (["ko"], [
    ("year", ⟨
      [("other", ⟨"", "년 후"⟩)],
      [("other", ⟨"", "년 전"⟩)]⟩),
    ("month", ⟨
      [("other", ⟨"", "개월 후"⟩)],
      [("other", ⟨"", "개월 전"⟩)]⟩),
    ("week", ⟨
      [("other", ⟨"", "주 후"⟩)],
      [("other", ⟨"", "주 전"⟩)]⟩),
    ("day", ⟨
      [("other", ⟨"", "일 후"⟩)],
      [("other", ⟨"", "일 전"⟩)]⟩),
    ("hour", ⟨
      [("other", ⟨"", "시간 후"⟩)],
      [("other", ⟨"", "시간 전"⟩)]⟩),
    ("minute", ⟨
      [("other", ⟨"", "분 후"⟩)],
      [("other", ⟨"", "분 전"⟩)]⟩),
    ("second", ⟨
      [("other", ⟨"", "초 후"⟩)],
      [("other", ⟨"", "초 전"⟩)]⟩)]),
  (["ru"], [
    ("year", ⟨
      [("other", ⟨"через ", " года"⟩), ("one", ⟨"через ", " год"⟩), ("few", ⟨"через ", " года"⟩), ("many", ⟨"через ", " лет"⟩)],
      [("other", ⟨"", " года назад"⟩), ("one", ⟨"", " год назад"⟩), ("few", ⟨"", " года назад"⟩), ("many", ⟨"", " лет назад"⟩)]⟩),
    ("year-short", ⟨
      [("one", ⟨"через ", " г."⟩), ("few", ⟨"через ", " г."⟩), ("many", ⟨"через ", " л."⟩), ("other", ⟨"через ", " г."⟩)],
      [("one", ⟨"", " г. назад"⟩), ("few", ⟨"", " г. назад"⟩), ("many", ⟨"", " л. назад"⟩), ("other", ⟨"", " г. назад"⟩)]⟩),
    ("year-narrow", ⟨
      [("one", ⟨"+", " г."⟩), ("few", ⟨"+", " г."⟩), ("many", ⟨"+", " л."⟩), ("other", ⟨"+", " г."⟩)],
      [("one", ⟨"-", " г."⟩), ("few", ⟨"-", " г."⟩), ("many", ⟨"-", " л."⟩), ("other", ⟨"-", " г."⟩)]⟩),
    ("month", ⟨
      [("other", ⟨"через ", " месяца"⟩), ("one", ⟨"через ", " месяц"⟩), ("few", ⟨"через ", " месяца"⟩), ("many", ⟨"через ", " месяцев"⟩)],
      [("other", ⟨"", " месяца назад"⟩), ("one", ⟨"", " месяц назад"⟩), ("few", ⟨"", " месяца назад"⟩), ("many", ⟨"", " месяцев назад"⟩)]⟩),
    ("month-short", ⟨
      [("one", ⟨"через ", " мес."⟩), ("few", ⟨"через ", " мес."⟩), ("many", ⟨"через ", " мес."⟩), ("other", ⟨"через ", " мес."⟩)],
      [("one", ⟨"", " мес. назад"⟩), ("few", ⟨"", " мес. назад"⟩), ("many", ⟨"", " мес. назад"⟩), ("other", ⟨"", " мес. назад"⟩)]⟩),
    ("month-narrow", ⟨
      [("one", ⟨"+", " мес."⟩), ("few", ⟨"+", " мес."⟩), ("many", ⟨"+", " мес."⟩), ("other", ⟨"+", " мес."⟩)],
      [("one", ⟨"-", " мес."⟩), ("few", ⟨"-", " мес."⟩), ("many", ⟨"-", " мес."⟩), ("other", ⟨"-", " мес."⟩)]⟩),
    ("week", ⟨
      [("other", ⟨"через ", " недели"⟩), ("one", ⟨"через ", " неделю"⟩), ("few", ⟨"через ", " недели"⟩), ("many", ⟨"через ", " недель"⟩)],
      [("other", ⟨"", " недели назад"⟩), ("one", ⟨"", " неделю назад"⟩), ("few", ⟨"", " недели назад"⟩), ("many", ⟨"", " недель назад"⟩)]⟩),
    ("week-short", ⟨
      [("one", ⟨"через ", " нед."⟩), ("few", ⟨"через ", " нед."⟩), ("many", ⟨"через ", " нед."⟩), ("other", ⟨"через ", " нед."⟩)],
      [("one", ⟨"", " нед. назад"⟩), ("few", ⟨"", " нед. назад"⟩), ("many", ⟨"", " нед. назад"⟩), ("other", ⟨"", " нед. назад"⟩)]⟩),
    ("week-narrow", ⟨
      [("one", ⟨"+", " нед."⟩), ("few", ⟨"+", " нед."⟩), ("many", ⟨"+", " нед."⟩), ("other", ⟨"+", " нед."⟩)],
      [("one", ⟨"-", " нед."⟩), ("few", ⟨"-", " нед."⟩), ("many", ⟨"-", " нед."⟩), ("other", ⟨"-", " нед."⟩)]⟩),
    ("day", ⟨
      [("other", ⟨"через ", " дня"⟩), ("one", ⟨"через ", " день"⟩), ("few", ⟨"через ", " дня"⟩), ("many", ⟨"через ", " дней"⟩)],
      [("other", ⟨"", " дня назад"⟩), ("one", ⟨"", " день назад"⟩), ("few", ⟨"", " дня назад"⟩), ("many", ⟨"", " дней назад"⟩)]⟩),
    ("day-short", ⟨
      [("one", ⟨"через ", " дн."⟩), ("few", ⟨"через ", " дн."⟩), ("many", ⟨"через ", " дн."⟩), ("other", ⟨"через ", " дн."⟩)],
      [("one", ⟨"", " дн. назад"⟩), ("few", ⟨"", " дн. назад"⟩), ("many", ⟨"", " дн. назад"⟩), ("other", ⟨"", " дн. назад"⟩)]⟩),
    ("day-narrow", ⟨
      [("one", ⟨"+", " дн."⟩), ("few", ⟨"+", " дн."⟩), ("many", ⟨"+", " дн."⟩), ("other", ⟨"+", " дн."⟩)],
      [("one", ⟨"-", " дн."⟩), ("few", ⟨"-", " дн."⟩), ("many", ⟨"-", " дн."⟩), ("other", ⟨"-", " дн."⟩)]⟩),
    ("hour", ⟨
      [("other", ⟨"через ", " часа"⟩), ("one", ⟨"через ", " час"⟩), ("few", ⟨"через ", " часа"⟩), ("many", ⟨"через ", " часов"⟩)],
      [("other", ⟨"", " часа назад"⟩), ("one", ⟨"", " час назад"⟩), ("few", ⟨"", " часа назад"⟩), ("many", ⟨"", " часов назад"⟩)]⟩),
    ("hour-short", ⟨
      [("one", ⟨"через ", " ч"⟩), ("few", ⟨"через ", " ч"⟩), ("many", ⟨"через ", " ч"⟩), ("other", ⟨"через ", " ч"⟩)],
      [("one", ⟨"", " ч назад"⟩), ("few", ⟨"", " ч назад"⟩), ("many", ⟨"", " ч назад"⟩), ("other", ⟨"", " ч назад"⟩)]⟩),
    ("hour-narrow", ⟨
      [("one", ⟨"+", " ч"⟩), ("few", ⟨"+", " ч"⟩), ("many", ⟨"+", " ч"⟩), ("other", ⟨"+", " ч"⟩)],
      [("one", ⟨"-", " ч"⟩), ("few", ⟨"-", " ч"⟩), ("many", ⟨"-", " ч"⟩), ("other", ⟨"-", " ч"⟩)]⟩),
    ("minute", ⟨
      [("other", ⟨"через ", " минуты"⟩), ("one", ⟨"через ", " минуту"⟩), ("few", ⟨"через ", " минуты"⟩), ("many", ⟨"через ", " минут"⟩)],
      [("other", ⟨"", " минуты назад"⟩), ("one", ⟨"", " минуту назад"⟩), ("few", ⟨"", " минуты назад"⟩), ("many", ⟨"", " минут назад"⟩)]⟩),
    ("minute-short", ⟨
      [("one", ⟨"через ", " мин."⟩), ("few", ⟨"через ", " мин."⟩), ("many", ⟨"через ", " мин."⟩), ("other", ⟨"через ", " мин."⟩)],
      [("one", ⟨"", " мин. назад"⟩), ("few", ⟨"", " мин. назад"⟩), ("many", ⟨"", " мин. назад"⟩), ("other", ⟨"", " мин. назад"⟩)]⟩),
    ("minute-narrow", ⟨
      [("one", ⟨"+", " мин"⟩), ("few", ⟨"+", " мин"⟩), ("many", ⟨"+", " мин"⟩), ("other", ⟨"+", " мин"⟩)],
      [("one", ⟨"-", " мин"⟩), ("few", ⟨"-", " мин"⟩), ("many", ⟨"-", " мин"⟩), ("other", ⟨"-", " мин"⟩)]⟩),
    ("second", ⟨
      [("other", ⟨"через ", " секунды"⟩), ("one", ⟨"через ", " секунду"⟩), ("few", ⟨"через ", " секунды"⟩), ("many", ⟨"через ", " секунд"⟩)],
      [("other", ⟨"", " секунды назад"⟩), ("one", ⟨"", " секунду назад"⟩), ("few", ⟨"", " секунды назад"⟩), ("many", ⟨"", " секунд назад"⟩)]⟩),
    ("second-short", ⟨
      [("one", ⟨"через ", "\u00a0сек."⟩), ("few", ⟨"через ", "\u00a0сек."⟩), ("many", ⟨"через ", "\u00a0сек."⟩), ("other", ⟨"через ", "\u00a0сек."⟩)],
      [("one", ⟨"", " сек. назад"⟩), ("few", ⟨"", " сек. назад"⟩), ("many", ⟨"", " сек. назад"⟩), ("other", ⟨"", " сек. назад"⟩)]⟩),
    ("second-narrow", ⟨
      [("one", ⟨"+", " с"⟩), ("few", ⟨"+", " с"⟩), ("many", ⟨"+", " с"⟩), ("other", ⟨"+", " с"⟩)],
      [("one", ⟨"-", " с"⟩), ("few", ⟨"-", " с"⟩), ("many", ⟨"-", " с"⟩), ("other", ⟨"-", " с"⟩)]⟩)])]

end Phrasebook
