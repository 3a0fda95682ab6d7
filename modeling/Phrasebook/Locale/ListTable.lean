import Phrasebook.Locale.Data

/-!
# List patterns of the locales
-/

set_option autoImplicit false

namespace Phrasebook

/-- Join patterns where a locale says nothing else. -/
def rootListPatterns : ListPatterns :=
  ["standard", "or", "unit"].map fun style ↦
    (style, ["start", "middle", "end", "2"].map fun place ↦ (place, ⟨"", ", ", ""⟩))

/-- Join patterns by locale. -/
def listPatterns : List (List String × ListPatterns) := [
  (["de"], [
    ("standard", [
      ("start", ⟨"", ", ", ""⟩), ("middle", ⟨"", ", ", ""⟩), ("end", ⟨"", " und ", ""⟩),
      ("2", ⟨"", " und ", ""⟩)]),
    ("or", [
      ("start", ⟨"", ", ", ""⟩), ("middle", ⟨"", ", ", ""⟩), ("end", ⟨"", " oder ", ""⟩),
      ("2", ⟨"", " oder ", ""⟩)]),
    ("unit-short", [
      ("2", ⟨"", ", ", ""⟩)])]),
  (["en"], [
    ("standard", [
      ("start", ⟨"", ", ", ""⟩), ("middle", ⟨"", ", ", ""⟩), ("end", ⟨"", ", and ", ""⟩),
      ("2", ⟨"", " and ", ""⟩)]),
    ("or", [
      ("start", ⟨"", ", ", ""⟩), ("middle", ⟨"", ", ", ""⟩), ("end", ⟨"", ", or ", ""⟩),
      ("2", ⟨"", " or ", ""⟩)]),
    ("or-narrow", [
      ("start", ⟨"", ", ", ""⟩), ("middle", ⟨"", ", ", ""⟩), ("end", ⟨"", ", or ", ""⟩),
      ("2", ⟨"", " or ", ""⟩)]),
    ("or-short", [
      ("start", ⟨"", ", ", ""⟩), ("middle", ⟨"", ", ", ""⟩), ("end", ⟨"", ", or ", ""⟩),
      ("2", ⟨"", " or ", ""⟩)]),
    ("standard-narrow", [
      ("start", ⟨"", ", ", ""⟩), ("middle", ⟨"", ", ", ""⟩), ("end", ⟨"", ", ", ""⟩),
      ("2", ⟨"", ", ", ""⟩)]),
    ("standard-short", [
      ("start", ⟨"", ", ", ""⟩), ("middle", ⟨"", ", ", ""⟩), ("end", ⟨"", ", & ", ""⟩),
      ("2", ⟨"", " & ", ""⟩)]),
    ("unit", [
      ("start", ⟨"", ", ", ""⟩), ("middle", ⟨"", ", ", ""⟩), ("end", ⟨"", ", ", ""⟩),
      ("2", ⟨"", ", ", ""⟩)]),
    ("unit-narrow", [
      ("start", ⟨"", " ", ""⟩), ("middle", ⟨"", " ", ""⟩), ("end", ⟨"", " ", ""⟩),
      ("2", ⟨"", " ", ""⟩)]),
    ("unit-short", [
      ("start", ⟨"", ", ", ""⟩), ("middle", ⟨"", ", ", ""⟩), ("end", ⟨"", ", ", ""⟩),
      ("2", ⟨"", ", ", ""⟩)])]),
  (["en_GB"], [
    ("standard", [
      ("start", ⟨"", ", ", ""⟩), ("middle", ⟨"", ", ", ""⟩), ("end", ⟨"", " and ", ""⟩),
      ("2", ⟨"", " and ", ""⟩)]),
    ("or", [
      ("start", ⟨"", ", ", ""⟩), ("middle", ⟨"", ", ", ""⟩), ("end", ⟨"", " or ", ""⟩),
      ("2", ⟨"", " or ", ""⟩)]),
    ("or-narrow", [
      ("start", ⟨"", ", ", ""⟩), ("middle", ⟨"", ", ", ""⟩), ("end", ⟨"", " or ", ""⟩),
      ("2", ⟨"", " or ", ""⟩)]),
    ("or-short", [
      ("start", ⟨"", ", ", ""⟩), ("middle", ⟨"", ", ", ""⟩), ("end", ⟨"", " or ", ""⟩),
      ("2", ⟨"", " or ", ""⟩)]),
    ("standard-narrow", [
      ("start", ⟨"", ", ", ""⟩), ("middle", ⟨"", ", ", ""⟩), ("end", ⟨"", ", ", ""⟩),
      ("2", ⟨"", ", ", ""⟩)]),
    ("standard-short", [
      ("start", ⟨"", ", ", ""⟩), ("middle", ⟨"", ", ", ""⟩), ("end", ⟨"", " and ", ""⟩),
      ("2", ⟨"", " and ", ""⟩)]),
    ("unit", [
      ("start", ⟨"", ", ", ""⟩), ("middle", ⟨"", ", ", ""⟩), ("end", ⟨"", ", ", ""⟩),
      ("2", ⟨"", ", ", ""⟩)]),
    ("unit-narrow", [
      ("start", ⟨"", " ", ""⟩), ("middle", ⟨"", " ", ""⟩), ("end", ⟨"", " ", ""⟩),
      ("2", ⟨"", " ", ""⟩)]),
    ("unit-short", [
      ("start", ⟨"", ", ", ""⟩), ("middle", ⟨"", ", ", ""⟩), ("end", ⟨"", ", ", ""⟩),
      ("2", ⟨"", ", ", ""⟩)])]),
  (["es"], [
    ("standard", [
      ("start", ⟨"", ", ", ""⟩), ("middle", ⟨"", ", ", ""⟩), ("end", ⟨"", " y ", ""⟩),
      ("2", ⟨"", " y ", ""⟩)]),
    ("or", [
      ("start", ⟨"", ", ", ""⟩), ("middle", ⟨"", ", ", ""⟩), ("end", ⟨"", " o ", ""⟩),
      ("2", ⟨"", " o ", ""⟩)]),
    ("unit", [
      ("end", ⟨"", " y ", ""⟩)]),
    ("unit-narrow", [
      ("start", ⟨"", " ", ""⟩), ("middle", ⟨"", " ", ""⟩), ("end", ⟨"", " ", ""⟩),
      ("2", ⟨"", " ", ""⟩)]),
    ("unit-short", [
      ("end", ⟨"", ", ", ""⟩)])]),
  (["fr"], [
    ("standard", [
      ("start", ⟨"", ", ", ""⟩), ("middle", ⟨"", ", ", ""⟩), ("end", ⟨"", " et ", ""⟩),
      ("2", ⟨"", " et ", ""⟩)]),
    ("or", [
      ("start", ⟨"", ", ", ""⟩), ("middle", ⟨"", ", ", ""⟩), ("end", ⟨"", " ou ", ""⟩),
      ("2", ⟨"", " ou ", ""⟩)]),
    ("standard-narrow", [
      ("end", ⟨"", ", ", ""⟩), ("2", ⟨"", ", ", ""⟩)]),
    ("unit-narrow", [
      ("start", ⟨"", " ", ""⟩), ("middle", ⟨"", " ", ""⟩), ("end", ⟨"", " ", ""⟩),
      ("2", ⟨"", " ", ""⟩)])]),
  (["ja"], [
    ("standard", [
      ("start", ⟨"", "、", ""⟩), ("middle", ⟨"", "、", ""⟩), ("end", ⟨"", "、", ""⟩),
      ("2", ⟨"", "、", ""⟩)]),
    ("or", [
      ("start", ⟨"", "、", ""⟩), ("middle", ⟨"", "、", ""⟩), ("end", ⟨"", "、または", ""⟩),
      ("2", ⟨"", "または", ""⟩)]),
    ("unit-narrow", [
      ("start", ⟨"", "", ""⟩), ("middle", ⟨"", "", ""⟩), ("end", ⟨"", "", ""⟩), ("2", ⟨"", "", ""⟩)]),
    ("unit-short", [
      ("start", ⟨"", " ", ""⟩), ("middle", ⟨"", " ", ""⟩), ("end", ⟨"", " ", ""⟩),
      ("2", ⟨"", " ", ""⟩)])]),
  (["ko"], [
    ("standard", [
      ("start", ⟨"", ", ", ""⟩), ("middle", ⟨"", ", ", ""⟩), ("end", ⟨"", " 및 ", ""⟩),
      ("2", ⟨"", " 및 ", ""⟩)]),
    ("or", [
      ("start", ⟨"", ", ", ""⟩), ("middle", ⟨"", ", ", ""⟩), ("end", ⟨"", " 또는 ", ""⟩),
      ("2", ⟨"", " 또는 ", ""⟩)]),
    ("unit-short", [
      ("start", ⟨"", " ", ""⟩), ("middle", ⟨"", " ", ""⟩), ("end", ⟨"", " ", ""⟩),
      ("2", ⟨"", " ", ""⟩)])]),
  (["ru"], [
    ("standard", [
      ("start", ⟨"", ", ", ""⟩), ("middle", ⟨"", ", ", ""⟩), ("end", ⟨"", " и ", ""⟩),
      ("2", ⟨"", " и ", ""⟩)]),
    ("or", [
      ("start", ⟨"", ", ", ""⟩), ("middle", ⟨"", ", ", ""⟩), ("end", ⟨"", " или ", ""⟩),
      ("2", ⟨"", " или ", ""⟩)]),
    ("standard-narrow", [
      ("end", ⟨"", ", ", ""⟩), ("2", ⟨"", ", ", ""⟩)]),
    ("unit-short", [
      ("start", ⟨"", " ", ""⟩), ("middle", ⟨"", " ", ""⟩), ("end", ⟨"", " ", ""⟩),
      ("2", ⟨"", " ", ""⟩)])]),
  (["zh"], [
    ("standard", [
      ("start", ⟨"", "、", ""⟩), ("middle", ⟨"", "、", ""⟩), ("end", ⟨"", "和", ""⟩),
      ("2", ⟨"", "和", ""⟩)]),
    ("or", [
      ("start", ⟨"", "、", ""⟩), ("middle", ⟨"", "、", ""⟩), ("end", ⟨"", "或", ""⟩),
      ("2", ⟨"", "或", ""⟩)]),
    ("standard-narrow", [
      ("end", ⟨"", "、", ""⟩), ("2", ⟨"", "、", ""⟩)]),
    ("unit-short", [
      ("start", ⟨"", "", ""⟩), ("middle", ⟨"", "", ""⟩), ("end", ⟨"", "", ""⟩), ("2", ⟨"", "", ""⟩)])])]

end Phrasebook
