import Phrasebook.Locale.CalendarNames

/-!
# Calendar names and patterns of the locales
-/

set_option autoImplicit false

namespace Phrasebook

/-- Date patterns and calendar names where a locale says nothing else. -/
def CalendarNames.root : CalendarNames where
  datePatterns := [
    ("short", "y-MM-dd"), ("medium", "y MMM d"), ("long", "y MMMM d"), ("full", "y MMMM d, EEEE")]
  timePatterns := [
    ("short", "HH:mm"), ("medium", "HH:mm:ss"), ("long", "HH:mm:ss z"), ("full", "HH:mm:ss zzzz")]
  skeletons := [
    ("Bh", "h B"), ("Bhm", "h:mm B"), ("Bhms", "h:mm:ss B"), ("d", "d"), ("E", "ccc"),
    ("EBhm", "E h:mm B"), ("EBhms", "E h:mm:ss B"), ("Ed", "d, E"), ("Ehm", "E h:mm\u202fa"),
    ("EHm", "E HH:mm"), ("Ehms", "E h:mm:ss\u202fa"), ("EHms", "E HH:mm:ss"), ("Gy", "G y"),
    ("GyMd", "GGGGG y-MM-dd"), ("GyMMM", "G y MMM"), ("GyMMMd", "G y MMM d"),
    ("GyMMMEd", "G y MMM d, E"), ("h", "h\u202fa"), ("H", "HH"), ("hm", "h:mm\u202fa"),
    ("Hm", "HH:mm"), ("hms", "h:mm:ss\u202fa"), ("Hms", "HH:mm:ss"), ("hmsv", "h:mm:ss\u202fa v"),
    ("Hmsv", "HH:mm:ss v"), ("hmv", "h:mm\u202fa v"), ("Hmv", "HH:mm v"), ("M", "L"),
    ("Md", "MM-dd"), ("MEd", "MM-dd, E"), ("MMM", "LLL"), ("MMMd", "MMM d"), ("MMMEd", "MMM d, E"),
    ("MMMMd", "MMMM d"), ("MMMMW", "'week' W 'of' MMMM"), ("ms", "mm:ss"), ("y", "y"),
    ("yM", "y-MM"), ("yMd", "y-MM-dd"), ("yMEd", "y-MM-dd, E"), ("yMMM", "y MMM"),
    ("yMMMd", "y MMM d"), ("yMMMEd", "y MMM d, E"), ("yMMMM", "y MMMM"), ("yQQQ", "y QQQ"),
    ("yQQQQ", "y QQQQ"), ("yw", "'week' w 'of' Y")]
  months :=
    let named := ["M01", "M02", "M03", "M04", "M05", "M06", "M07", "M08", "M09", "M10", "M11", "M12"]
    let numbered := ["1", "2", "3", "4", "5", "6", "7", "8", "9", "10", "11", "12"]
    [((.format, .abbreviated), named), ((.format, .narrow), numbered), ((.format, .wide), named),
      ((.standAlone, .abbreviated), named), ((.standAlone, .narrow), numbered),
      ((.standAlone, .wide), named)]
  days :=
    let named := ["Mon", "Tue", "Wed", "Thu", "Fri", "Sat", "Sun"]
    let short := ["M", "T", "W", "T", "F", "S", "S"]
    [((.format, .abbreviated), named), ((.format, .narrow), short), ((.format, .short), named),
      ((.format, .wide), named), ((.standAlone, .abbreviated), named),
      ((.standAlone, .narrow), short), ((.standAlone, .short), named), ((.standAlone, .wide), named)]
  quarters :=
    let named := ["Q1", "Q2", "Q3", "Q4"]
    let numbered := ["1", "2", "3", "4"]
    [((.format, .abbreviated), named), ((.format, .narrow), numbered), ((.format, .wide), named),
      ((.standAlone, .abbreviated), named), ((.standAlone, .narrow), numbered),
      ((.standAlone, .wide), named)]
  eras := [.abbreviated, .narrow, .wide].map fun width ↦ (width, ["BCE", "CE"])
  dayPeriods :=
    [.format, .standAlone].flatMap fun context ↦
      [.abbreviated, .narrow, .wide].map fun width ↦ ((context, width), [("am", "AM"), ("pm", "PM")])

/-- Date patterns and calendar names by locale. -/
def calendarNames : List (List String × CalendarNames) := [
  (["de"],
    { datePatterns := [
        ("short", "dd.MM.yy"), ("medium", "dd.MM.y"), ("long", "d. MMMM y"),
        ("full", "EEEE, d. MMMM y")]
      timePatterns := [
        ("short", "HH:mm"), ("medium", "HH:mm:ss"), ("long", "HH:mm:ss z"),
        ("full", "HH:mm:ss zzzz")]
      skeletons := [
        ("Bh", "h B"), ("Bhm", "h:mm B"), ("Bhms", "h:mm:ss B"), ("d", "d"), ("E", "ccc"),
        ("EBhm", "E h:mm B"), ("EBhms", "E h:mm:ss B"), ("Ed", "E, d."), ("Ehm", "E h:mm\u202fa"),
        ("EHm", "E, HH:mm"), ("Ehms", "E, h:mm:ss\u202fa"), ("EHms", "E, HH:mm:ss"), ("Gy", "y G"),
        ("GyMd", "dd.MM.y G"), ("GyMMM", "MMM y G"), ("GyMMMd", "d. MMM y G"),
        ("GyMMMEd", "E, d. MMM y G"), ("h", "h 'Uhr' a"), ("H", "HH 'Uhr'"), ("hm", "h:mm\u202fa"),
        ("Hm", "HH:mm"), ("hms", "h:mm:ss\u202fa"), ("Hms", "HH:mm:ss"),
        ("hmsv", "h:mm:ss\u202fa v"), ("Hmsv", "HH:mm:ss v"), ("hmv", "h:mm\u202fa v"),
        ("Hmv", "HH:mm v"), ("M", "L"), ("Md", "d.M."), ("MEd", "E, d.M."), ("MMM", "LLL"),
        ("MMMd", "d. MMM"), ("MMMEd", "E, d. MMM"), ("MMMMd", "d. MMMM"),
        ("MMMMW", "'Woche' W 'im' MMMM"), ("ms", "mm:ss"), ("y", "y"), ("yM", "M/y"),
        ("yMd", "d.M.y"), ("yMEd", "E, d.M.y"), ("yMMM", "MMM y"), ("yMMMd", "d. MMM y"),
        ("yMMMEd", "E, d. MMM y"), ("yMMMM", "MMMM y"), ("yQQQ", "QQQ y"), ("yQQQQ", "QQQQ y"),
        ("yw", "'Woche' w 'des' 'Jahres' Y"), ("MMd", "d.MM."), ("MMdd", "dd.MM."),
        ("MMMMEd", "E, d. MMMM"), ("yMM", "MM.y"), ("yMMdd", "dd.MM.y")]
      months := [
        ((.format, .abbreviated), [
          "Jan.", "Feb.", "März", "Apr.", "Mai", "Juni", "Juli", "Aug.", "Sept.", "Okt.", "Nov.",
          "Dez."]),
        ((.format, .narrow), [
          "J", "F", "M", "A", "M", "J", "J", "A", "S", "O", "N", "D"]),
        ((.format, .wide), [
          "Januar", "Februar", "März", "April", "Mai", "Juni", "Juli", "August", "September",
          "Oktober", "November", "Dezember"]),
        ((.standAlone, .abbreviated), [
          "Jan", "Feb", "Mär", "Apr", "Mai", "Jun", "Jul", "Aug", "Sep", "Okt", "Nov", "Dez"]),
        ((.standAlone, .narrow), [
          "J", "F", "M", "A", "M", "J", "J", "A", "S", "O", "N", "D"]),
        ((.standAlone, .wide), [
          "Januar", "Februar", "März", "April", "Mai", "Juni", "Juli", "August", "September",
          "Oktober", "November", "Dezember"])]
      days := [
        ((.format, .abbreviated), [
          "Mo.", "Di.", "Mi.", "Do.", "Fr.", "Sa.", "So."]),
        ((.format, .narrow), [
          "M", "D", "M", "D", "F", "S", "S"]),
        ((.format, .short), [
          "Mo.", "Di.", "Mi.", "Do.", "Fr.", "Sa.", "So."]),
        ((.format, .wide), [
          "Montag", "Dienstag", "Mittwoch", "Donnerstag", "Freitag", "Samstag", "Sonntag"]),
        ((.standAlone, .abbreviated), [
          "Mo", "Di", "Mi", "Do", "Fr", "Sa", "So"]),
        ((.standAlone, .narrow), [
          "M", "D", "M", "D", "F", "S", "S"]),
        ((.standAlone, .short), [
          "Mo.", "Di.", "Mi.", "Do.", "Fr.", "Sa.", "So."]),
        ((.standAlone, .wide), [
          "Montag", "Dienstag", "Mittwoch", "Donnerstag", "Freitag", "Samstag", "Sonntag"])] }),
  (["en"],
    { datePatterns := [
        ("short", "M/d/yy"), ("medium", "MMM d, y"), ("long", "MMMM d, y"),
        ("full", "EEEE, MMMM d, y")]
      timePatterns := [
        ("short", "h:mm\u202fa"), ("medium", "h:mm:ss\u202fa"), ("long", "h:mm:ss\u202fa z"),
        ("full", "h:mm:ss\u202fa zzzz")]
      skeletons := [
        ("Bh", "h B"), ("Bhm", "h:mm B"), ("Bhms", "h:mm:ss B"), ("d", "d"), ("E", "ccc"),
        ("EBhm", "E h:mm B"), ("EBhms", "E h:mm:ss B"), ("Ed", "d E"), ("Ehm", "E h:mm a"),
        ("EHm", "E HH:mm"), ("Ehms", "E h:mm:ss a"), ("EHms", "E HH:mm:ss"), ("Gy", "y G"),
        ("GyMd", "M/d/y G"), ("GyMMM", "MMM y G"), ("GyMMMd", "MMM d, y G"),
        ("GyMMMEd", "E, MMM d, y G"), ("h", "h a"), ("H", "HH"), ("hm", "h:mm a"), ("Hm", "HH:mm"),
        ("hms", "h:mm:ss a"), ("Hms", "HH:mm:ss"), ("hmsv", "h:mm:ss a v"), ("Hmsv", "HH:mm:ss v"),
        ("hmv", "h:mm a v"), ("Hmv", "HH:mm v"), ("M", "L"), ("Md", "M/d"), ("MEd", "E, M/d"),
        ("MMM", "LLL"), ("MMMd", "MMM d"), ("MMMEd", "E, MMM d"), ("MMMMd", "MMMM d"),
        ("MMMMW", "'week' W 'of' MMMM"), ("ms", "mm:ss"), ("y", "y"), ("yM", "M/y"),
        ("yMd", "M/d/y"), ("yMEd", "E, M/d/y"), ("yMMM", "MMM y"), ("yMMMd", "MMM d, y"),
        ("yMMMEd", "E, MMM d, y"), ("yMMMM", "MMMM y"), ("yQQQ", "QQQ y"), ("yQQQQ", "QQQQ y"),
        ("yw", "'week' w 'of' Y")]
      months := [
        ((.format, .abbreviated), [
          "Jan", "Feb", "Mar", "Apr", "May", "Jun", "Jul", "Aug", "Sep", "Oct", "Nov", "Dec"]),
        ((.format, .narrow), [
          "J", "F", "M", "A", "M", "J", "J", "A", "S", "O", "N", "D"]),
        ((.format, .wide), [
          "January", "February", "March", "April", "May", "June", "July", "August", "September",
          "October", "November", "December"]),
        ((.standAlone, .abbreviated), [
          "Jan", "Feb", "Mar", "Apr", "May", "Jun", "Jul", "Aug", "Sep", "Oct", "Nov", "Dec"]),
        ((.standAlone, .narrow), [
          "J", "F", "M", "A", "M", "J", "J", "A", "S", "O", "N", "D"]),
        ((.standAlone, .wide), [
          "January", "February", "March", "April", "May", "June", "July", "August", "September",
          "October", "November", "December"])]
      days := [
        ((.format, .abbreviated), [
          "Mon", "Tue", "Wed", "Thu", "Fri", "Sat", "Sun"]),
        ((.format, .narrow), [
          "M", "T", "W", "T", "F", "S", "S"]),
        ((.format, .short), [
          "Mo", "Tu", "We", "Th", "Fr", "Sa", "Su"]),
        ((.format, .wide), [
          "Monday", "Tuesday", "Wednesday", "Thursday", "Friday", "Saturday", "Sunday"]),
        ((.standAlone, .abbreviated), [
          "Mon", "Tue", "Wed", "Thu", "Fri", "Sat", "Sun"]),
        ((.standAlone, .narrow), [
          "M", "T", "W", "T", "F", "S", "S"]),
        ((.standAlone, .short), [
          "Mo", "Tu", "We", "Th", "Fr", "Sa", "Su"]),
        ((.standAlone, .wide), [
          "Monday", "Tuesday", "Wednesday", "Thursday", "Friday", "Saturday", "Sunday"])]
      quarters := [
        ((.format, .abbreviated), [
          "Q1", "Q2", "Q3", "Q4"]),
        ((.format, .narrow), [
          "1", "2", "3", "4"]),
        ((.format, .wide), [
          "1st quarter", "2nd quarter", "3rd quarter", "4th quarter"]),
        ((.standAlone, .abbreviated), [
          "Q1", "Q2", "Q3", "Q4"]),
        ((.standAlone, .narrow), [
          "1", "2", "3", "4"]),
        ((.standAlone, .wide), [
          "1st quarter", "2nd quarter", "3rd quarter", "4th quarter"])]
      eras := [
        (.wide, ["Before Christ", "Anno Domini"]),
        (.abbreviated, ["BC", "AD"]),
        (.narrow, ["B", "A"])]
      dayPeriods := [
        ((.format, .abbreviated), [
          ("am", "AM"), ("pm", "PM"), ("midnight", "midnight"), ("noon", "noon"),
          ("morning1", "in the morning"), ("afternoon1", "in the afternoon"),
          ("evening1", "in the evening"), ("night1", "at night")]),
        ((.format, .narrow), [
          ("midnight", "mi"), ("am", "a"), ("noon", "n"), ("pm", "p"),
          ("morning1", "in the morning"), ("afternoon1", "in the afternoon"),
          ("evening1", "in the evening"), ("night1", "at night")]),
        ((.format, .wide), [
          ("midnight", "midnight"), ("am", "AM"), ("noon", "noon"), ("pm", "PM"),
          ("morning1", "in the morning"), ("afternoon1", "in the afternoon"),
          ("evening1", "in the evening"), ("night1", "at night")]),
        ((.standAlone, .abbreviated), [
          ("midnight", "midnight"), ("am", "AM"), ("noon", "noon"), ("pm", "PM"),
          ("morning1", "morning"), ("afternoon1", "afternoon"), ("evening1", "evening"),
          ("night1", "night")]),
        ((.standAlone, .narrow), [
          ("midnight", "midnight"), ("am", "AM"), ("noon", "noon"), ("pm", "PM"),
          ("morning1", "morning"), ("afternoon1", "afternoon"), ("evening1", "evening"),
          ("night1", "night")]),
        ((.standAlone, .wide), [
          ("midnight", "midnight"), ("am", "AM"), ("noon", "noon"), ("pm", "PM"),
          ("morning1", "morning"), ("afternoon1", "afternoon"), ("evening1", "evening"),
          ("night1", "night")])]
      dayPeriodRules := [
        ⟨"midnight", .at 0⟩, ⟨"noon", .at 43200⟩, ⟨"morning1", .span 0 43200⟩,
        ⟨"afternoon1", .span 43200 64800⟩, ⟨"evening1", .span 64800 75600⟩,
        ⟨"night1", .span 75600 86400⟩] }),
  (["en_GB"],
    { datePatterns := [
        ("short", "dd/MM/y"), ("medium", "d MMM y"), ("long", "d MMMM y"),
        ("full", "EEEE, d MMMM y")]
      timePatterns := [
        ("short", "HH:mm"), ("medium", "HH:mm:ss"), ("long", "HH:mm:ss z"),
        ("full", "HH:mm:ss zzzz")]
      skeletons := [
        ("Bh", "h B"), ("Bhm", "h:mm B"), ("Bhms", "h:mm:ss B"), ("d", "d"), ("E", "ccc"),
        ("EBhm", "E h:mm B"), ("EBhms", "E h:mm:ss B"), ("Ed", "E d"), ("Ehm", "E h:mm a"),
        ("EHm", "E HH:mm"), ("Ehms", "E h:mm:ss a"), ("EHms", "E HH:mm:ss"), ("Gy", "y G"),
        ("GyMd", "dd/MM/y G"), ("GyMMM", "MMM y G"), ("GyMMMd", "d MMM y G"),
        ("GyMMMEd", "E, d MMM y G"), ("h", "h a"), ("H", "HH"), ("hm", "h:mm a"), ("Hm", "HH:mm"),
        ("hms", "h:mm:ss a"), ("Hms", "HH:mm:ss"), ("hmsv", "h:mm:ss a v"), ("Hmsv", "HH:mm:ss v"),
        ("hmv", "h:mm a v"), ("Hmv", "HH:mm v"), ("M", "L"), ("Md", "dd/MM"), ("MEd", "E dd/MM"),
        ("MMM", "LLL"), ("MMMd", "d MMM"), ("MMMEd", "E d MMM"), ("MMMMd", "d MMMM"),
        ("MMMMW", "'week' W 'of' MMMM"), ("ms", "mm:ss"), ("y", "y"), ("yM", "MM/y"),
        ("yMd", "dd/MM/y"), ("yMEd", "E, dd/MM/y"), ("yMMM", "MMM y"), ("yMMMd", "d MMM y"),
        ("yMMMEd", "E, d MMM y"), ("yMMMM", "MMMM y"), ("yQQQ", "QQQ y"), ("yQQQQ", "QQQQ y"),
        ("yw", "'week' w 'of' Y"), ("MMdd", "dd/MM"), ("GyMMMEEEEd", "EEEE, d MMM y G"),
        ("MMMEEEEd", "EEEE d MMM"), ("MMMMEEEEd", "EEEE d MMMM"), ("yMMMEEEEd", "EEEE, d MMM y"),
        ("yMMMMEEEEd", "EEEE, d MMMM y")]
      months := [
        ((.format, .abbreviated), [
          "Jan", "Feb", "Mar", "Apr", "May", "Jun", "Jul", "Aug", "Sept", "Oct", "Nov", "Dec"]),
        ((.format, .narrow), [
          "J", "F", "M", "A", "M", "J", "J", "A", "S", "O", "N", "D"]),
        ((.format, .wide), [
          "January", "February", "March", "April", "May", "June", "July", "August", "September",
          "October", "November", "December"]),
        ((.standAlone, .abbreviated), [
          "Jan", "Feb", "Mar", "Apr", "May", "Jun", "Jul", "Aug", "Sept", "Oct", "Nov", "Dec"]),
        ((.standAlone, .narrow), [
          "J", "F", "M", "A", "M", "J", "J", "A", "S", "O", "N", "D"]),
        ((.standAlone, .wide), [
          "January", "February", "March", "April", "May", "June", "July", "August", "September",
          "October", "November", "December"])]
      days := [
        ((.format, .abbreviated), [
          "Mon", "Tue", "Wed", "Thu", "Fri", "Sat", "Sun"]),
        ((.format, .narrow), [
          "M", "T", "W", "T", "F", "S", "S"]),
        ((.format, .short), [
          "Mo", "Tu", "We", "Th", "Fr", "Sa", "Su"]),
        ((.format, .wide), [
          "Monday", "Tuesday", "Wednesday", "Thursday", "Friday", "Saturday", "Sunday"]),
        ((.standAlone, .abbreviated), [
          "Mon", "Tue", "Wed", "Thu", "Fri", "Sat", "Sun"]),
        ((.standAlone, .narrow), [
          "M", "T", "W", "T", "F", "S", "S"]),
        ((.standAlone, .short), [
          "Mo", "Tu", "We", "Th", "Fr", "Sa", "Su"]),
        ((.standAlone, .wide), [
          "Monday", "Tuesday", "Wednesday", "Thursday", "Friday", "Saturday", "Sunday"])]
      quarters := [
        ((.format, .abbreviated), [
          "Q1", "Q2", "Q3", "Q4"]),
        ((.format, .narrow), [
          "1", "2", "3", "4"]),
        ((.format, .wide), [
          "1st quarter", "2nd quarter", "3rd quarter", "4th quarter"]),
        ((.standAlone, .abbreviated), [
          "Q1", "Q2", "Q3", "Q4"]),
        ((.standAlone, .narrow), [
          "1", "2", "3", "4"]),
        ((.standAlone, .wide), [
          "1st quarter", "2nd quarter", "3rd quarter", "4th quarter"])]
      eras := [
        (.wide, ["Before Christ", "Anno Domini"]),
        (.abbreviated, ["BC", "AD"]),
        (.narrow, ["B", "A"])]
      dayPeriods := [
        ((.format, .abbreviated), [
          ("am", "am"), ("pm", "pm"), ("midnight", "midnight"), ("noon", "noon"),
          ("morning1", "in the morning"), ("afternoon1", "in the afternoon"),
          ("evening1", "in the evening"), ("night1", "at night")]),
        ((.format, .narrow), [
          ("midnight", "mi"), ("am", "a"), ("noon", "n"), ("pm", "p"),
          ("morning1", "in the morning"), ("afternoon1", "in the afternoon"),
          ("evening1", "in the evening"), ("night1", "at night")]),
        ((.format, .wide), [
          ("midnight", "midnight"), ("am", "am"), ("noon", "noon"), ("pm", "pm"),
          ("morning1", "in the morning"), ("afternoon1", "in the afternoon"),
          ("evening1", "in the evening"), ("night1", "at night")]),
        ((.standAlone, .abbreviated), [
          ("midnight", "midnight"), ("am", "am"), ("noon", "noon"), ("pm", "pm"),
          ("morning1", "morning"), ("afternoon1", "afternoon"), ("evening1", "evening"),
          ("night1", "night")]),
        ((.standAlone, .narrow), [
          ("midnight", "midnight"), ("am", "am"), ("noon", "noon"), ("pm", "pm"),
          ("morning1", "morning"), ("afternoon1", "afternoon"), ("evening1", "evening"),
          ("night1", "night")]),
        ((.standAlone, .wide), [
          ("midnight", "midnight"), ("am", "am"), ("noon", "noon"), ("pm", "pm"),
          ("morning1", "morning"), ("afternoon1", "afternoon"), ("evening1", "evening"),
          ("night1", "night")])]
      dayPeriodRules := [
        ⟨"midnight", .at 0⟩, ⟨"noon", .at 43200⟩, ⟨"morning1", .span 0 43200⟩,
        ⟨"afternoon1", .span 43200 64800⟩, ⟨"evening1", .span 64800 75600⟩,
        ⟨"night1", .span 75600 86400⟩] }),
  (["fr"],
    { datePatterns := [
        ("short", "dd/MM/y"), ("medium", "d MMM y"), ("long", "d MMMM y"), ("full", "EEEE d MMMM y")]
      timePatterns := [
        ("short", "HH:mm"), ("medium", "HH:mm:ss"), ("long", "HH:mm:ss z"),
        ("full", "HH:mm:ss zzzz")]
      skeletons := [
        ("Bh", "h B"), ("Bhm", "h:mm B"), ("Bhms", "h:mm:ss B"), ("d", "d"), ("E", "E"),
        ("EBhm", "E h:mm B"), ("EBhms", "E h:mm:ss B"), ("Ed", "E d"), ("Ehm", "E h:mm\u202fa"),
        ("EHm", "E HH:mm"), ("Ehms", "E h:mm:ss\u202fa"), ("EHms", "E HH:mm:ss"), ("Gy", "y G"),
        ("GyMd", "dd/MM/y GGGGG"), ("GyMMM", "MMM y G"), ("GyMMMd", "d MMM y G"),
        ("GyMMMEd", "E d MMM y G"), ("h", "h\u202fa"), ("H", "HH 'h'"), ("hm", "h:mm\u202fa"),
        ("Hm", "HH:mm"), ("hms", "h:mm:ss\u202fa"), ("Hms", "HH:mm:ss"),
        ("hmsv", "h:mm:ss\u202fa v"), ("Hmsv", "HH:mm:ss v"), ("hmv", "h:mm\u202fa v"),
        ("Hmv", "HH:mm v"), ("M", "L"), ("Md", "dd/MM"), ("MEd", "E dd/MM"), ("MMM", "LLL"),
        ("MMMd", "d MMM"), ("MMMEd", "E d MMM"), ("MMMMd", "d MMMM"),
        ("MMMMW", "'semaine' W (MMMM)"), ("ms", "mm:ss"), ("y", "y"), ("yM", "MM/y"),
        ("yMd", "dd/MM/y"), ("yMEd", "E dd/MM/y"), ("yMMM", "MMM y"), ("yMMMd", "d MMM y"),
        ("yMMMEd", "E d MMM y"), ("yMMMM", "MMMM y"), ("yQQQ", "QQQ y"), ("yQQQQ", "QQQQ y"),
        ("yw", "'semaine' w 'de' Y")]
      months := [
        ((.format, .abbreviated), [
          "janv.", "févr.", "mars", "avr.", "mai", "juin", "juil.", "août", "sept.", "oct.", "nov.",
          "déc."]),
        ((.format, .narrow), [
          "J", "F", "M", "A", "M", "J", "J", "A", "S", "O", "N", "D"]),
        ((.format, .wide), [
          "janvier", "février", "mars", "avril", "mai", "juin", "juillet", "août", "septembre",
          "octobre", "novembre", "décembre"]),
        ((.standAlone, .abbreviated), [
          "janv.", "févr.", "mars", "avr.", "mai", "juin", "juil.", "août", "sept.", "oct.", "nov.",
          "déc."]),
        ((.standAlone, .narrow), [
          "J", "F", "M", "A", "M", "J", "J", "A", "S", "O", "N", "D"]),
        ((.standAlone, .wide), [
          "janvier", "février", "mars", "avril", "mai", "juin", "juillet", "août", "septembre",
          "octobre", "novembre", "décembre"])]
      days := [
        ((.format, .abbreviated), [
          "lun.", "mar.", "mer.", "jeu.", "ven.", "sam.", "dim."]),
        ((.format, .narrow), [
          "L", "M", "M", "J", "V", "S", "D"]),
        ((.format, .short), [
          "lu", "ma", "me", "je", "ve", "sa", "di"]),
        ((.format, .wide), [
          "lundi", "mardi", "mercredi", "jeudi", "vendredi", "samedi", "dimanche"]),
        ((.standAlone, .abbreviated), [
          "lun.", "mar.", "mer.", "jeu.", "ven.", "sam.", "dim."]),
        ((.standAlone, .narrow), [
          "L", "M", "M", "J", "V", "S", "D"]),
        ((.standAlone, .short), [
          "lu", "ma", "me", "je", "ve", "sa", "di"]),
        ((.standAlone, .wide), [
          "lundi", "mardi", "mercredi", "jeudi", "vendredi", "samedi", "dimanche"])] }),
  (["ja"],
    { datePatterns := [
        ("short", "y/MM/dd"), ("medium", "y/MM/dd"), ("long", "y年M月d日"), ("full", "y年M月d日EEEE")]
      timePatterns := [
        ("short", "H:mm"), ("medium", "H:mm:ss"), ("long", "H:mm:ss z"), ("full", "H時mm分ss秒 zzzz")]
      skeletons := [
        ("Bh", "BK時"), ("Bhm", "BK:mm"), ("Bhms", "BK:mm:ss"), ("d", "d日"), ("E", "ccc"),
        ("EBhm", "BK:mm (E)"), ("EBhms", "BK:mm:ss (E)"), ("Ed", "d日(E)"), ("Ehm", "aK:mm (E)"),
        ("EHm", "H:mm (E)"), ("Ehms", "aK:mm:ss (E)"), ("EHms", "H:mm:ss (E)"), ("Gy", "Gy年"),
        ("GyMd", "Gy/M/d"), ("GyMMM", "Gy年M月"), ("GyMMMd", "Gy年M月d日"), ("GyMMMEd", "Gy年M月d日(E)"),
        ("h", "aK時"), ("H", "H時"), ("hm", "aK:mm"), ("Hm", "H:mm"), ("hms", "aK:mm:ss"),
        ("Hms", "H:mm:ss"), ("hmsv", "aK:mm:ss v"), ("Hmsv", "H:mm:ss v"), ("hmv", "aK:mm v"),
        ("Hmv", "H:mm v"), ("M", "M月"), ("Md", "M/d"), ("MEd", "M/d(E)"), ("MMM", "M月"),
        ("MMMd", "M月d日"), ("MMMEd", "M月d日(E)"), ("MMMMd", "M月d日"), ("MMMMW", "M月第W週"),
        ("ms", "mm:ss"), ("y", "y年"), ("yM", "y/M"), ("yMd", "y/M/d"), ("yMEd", "y/M/d(E)"),
        ("yMMM", "y年M月"), ("yMMMd", "y年M月d日"), ("yMMMEd", "y年M月d日(E)"), ("yMMMM", "y年M月"),
        ("yQQQ", "y/QQQ"), ("yQQQQ", "y年QQQQ"), ("yw", "Y年第w週"), ("EEEEd", "d日EEEE"),
        ("GyMMMEEEEd", "Gy年M月d日EEEE"), ("MEEEEd", "M/dEEEE"), ("MMMEEEEd", "M月d日EEEE"),
        ("yMEEEEd", "y/M/dEEEE"), ("yMM", "y/MM"), ("yMMMEEEEd", "y年M月d日EEEE")]
      days := [
        ((.format, .abbreviated), [
          "月", "火", "水", "木", "金", "土", "日"]),
        ((.format, .narrow), [
          "月", "火", "水", "木", "金", "土", "日"]),
        ((.format, .short), [
          "月", "火", "水", "木", "金", "土", "日"]),
        ((.format, .wide), [
          "月曜日", "火曜日", "水曜日", "木曜日", "金曜日", "土曜日", "日曜日"]),
        ((.standAlone, .abbreviated), [
          "月", "火", "水", "木", "金", "土", "日"]),
        ((.standAlone, .narrow), [
          "月", "火", "水", "木", "金", "土", "日"]),
        ((.standAlone, .short), [
          "月", "火", "水", "木", "金", "土", "日"]),
        ((.standAlone, .wide), [
          "月曜日", "火曜日", "水曜日", "木曜日", "金曜日", "土曜日", "日曜日"])]
      dayPeriods := [
        ((.format, .abbreviated), [
          ("am", "午前"), ("pm", "午後"), ("midnight", "真夜中"), ("noon", "正午"), ("morning1", "朝"),
          ("afternoon1", "昼"), ("evening1", "夕方"), ("night1", "夜"), ("night2", "夜中")]),
        ((.format, .narrow), []),
        ((.format, .wide), []),
        ((.standAlone, .abbreviated), []),
        ((.standAlone, .narrow), []),
        ((.standAlone, .wide), [])]
      dayPeriodRules := [
        ⟨"midnight", .at 0⟩, ⟨"noon", .at 43200⟩, ⟨"morning1", .span 14400 43200⟩,
        ⟨"afternoon1", .span 43200 57600⟩, ⟨"evening1", .span 57600 68400⟩,
        ⟨"night1", .span 68400 82800⟩, ⟨"night2", .span 82800 86400⟩, ⟨"night2", .span 0 14400⟩] }),
  (["ko"],
    { datePatterns := [
        ("short", "yy. M. d."), ("medium", "y. M. d."), ("long", "y년 MMMM d일"),
        ("full", "y년 MMMM d일 EEEE")]
      timePatterns := [
        ("short", "a h:mm"), ("medium", "a h:mm:ss"), ("long", "a h시 m분 s초 z"),
        ("full", "a h시 m분 s초 zzzz")]
      months := [
        ((.format, .abbreviated), [
          "1월", "2월", "3월", "4월", "5월", "6월", "7월", "8월", "9월", "10월", "11월", "12월"]),
        ((.format, .narrow), [
          "1월", "2월", "3월", "4월", "5월", "6월", "7월", "8월", "9월", "10월", "11월", "12월"]),
        ((.format, .wide), [
          "1월", "2월", "3월", "4월", "5월", "6월", "7월", "8월", "9월", "10월", "11월", "12월"]),
        ((.standAlone, .abbreviated), [
          "1월", "2월", "3월", "4월", "5월", "6월", "7월", "8월", "9월", "10월", "11월", "12월"]),
        ((.standAlone, .narrow), [
          "1월", "2월", "3월", "4월", "5월", "6월", "7월", "8월", "9월", "10월", "11월", "12월"]),
        ((.standAlone, .wide), [
          "1월", "2월", "3월", "4월", "5월", "6월", "7월", "8월", "9월", "10월", "11월", "12월"])]
      days := [
        ((.format, .abbreviated), [
          "월", "화", "수", "목", "금", "토", "일"]),
        ((.format, .narrow), [
          "월", "화", "수", "목", "금", "토", "일"]),
        ((.format, .short), [
          "월", "화", "수", "목", "금", "토", "일"]),
        ((.format, .wide), [
          "월요일", "화요일", "수요일", "목요일", "금요일", "토요일", "일요일"]),
        ((.standAlone, .abbreviated), [
          "월", "화", "수", "목", "금", "토", "일"]),
        ((.standAlone, .narrow), [
          "월", "화", "수", "목", "금", "토", "일"]),
        ((.standAlone, .short), [
          "월", "화", "수", "목", "금", "토", "일"]),
        ((.standAlone, .wide), [
          "월요일", "화요일", "수요일", "목요일", "금요일", "토요일", "일요일"])]
      dayPeriods := [
        ((.format, .abbreviated), [
          ("am", "AM"), ("pm", "PM"), ("midnight", "자정"), ("noon", "정오"), ("morning1", "아침"),
          ("morning2", "오전"), ("afternoon1", "오후"), ("evening1", "저녁"), ("night1", "밤")]),
        ((.format, .narrow), [
          ("midnight", "자정"), ("noon", "정오"), ("morning1", "아침"), ("morning2", "오전"),
          ("afternoon1", "오후"), ("evening1", "저녁"), ("night1", "밤")]),
        ((.format, .wide), [
          ("midnight", "자정"), ("am", "오전"), ("noon", "정오"), ("pm", "오후"), ("morning1", "아침"),
          ("morning2", "오전"), ("afternoon1", "오후"), ("evening1", "저녁"), ("night1", "밤")]),
        ((.standAlone, .abbreviated), [
          ("morning1", "아침"), ("morning2", "오전"), ("afternoon1", "오후"), ("evening1", "저녁"),
          ("night1", "밤")]),
        ((.standAlone, .narrow), [
          ("morning1", "아침"), ("morning2", "오전"), ("afternoon1", "오후"), ("evening1", "저녁"),
          ("night1", "밤")]),
        ((.standAlone, .wide), [
          ("am", "오전"), ("pm", "오후"), ("morning1", "아침"), ("morning2", "오전"), ("afternoon1", "오후"),
          ("evening1", "저녁"), ("night1", "밤")])]
      dayPeriodRules := [
        ⟨"midnight", .at 0⟩, ⟨"noon", .at 43200⟩, ⟨"night1", .span 0 10800⟩,
        ⟨"night1", .span 75600 86400⟩, ⟨"morning1", .span 10800 21600⟩,
        ⟨"morning2", .span 21600 43200⟩, ⟨"afternoon1", .span 43200 64800⟩,
        ⟨"evening1", .span 64800 75600⟩] })]

end Phrasebook
