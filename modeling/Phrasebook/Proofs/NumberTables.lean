import Phrasebook.Format.Number

/-!
The tables of the locales.

What a locale has in a table stands in a row for a locale that it takes after
(`Locale.exists_mem_of_row?`), so a fact that every row has holds in every locale. The locales that
tags mean are all known (`Locale.isKnownLocale_of_ofTag?`), and what only one language has can be
looked up in their list.
-/

set_option autoImplicit false

namespace Phrasebook

namespace Locale

theorem exists_mem_of_row? {α : Type} {locale : Locale} {table : List (List String × α)} {a : α}
    (h : locale.row? table = some a) :
    ∃ names, (names, a) ∈ table ∧ ∃ name ∈ locale.lineage, name ∈ names := by
  obtain ⟨name, hname, h⟩ := List.exists_of_findSome?_eq_some h
  obtain ⟨r, hr, rfl⟩ := Option.map_eq_some_iff.1 h
  exact ⟨r.1, List.mem_of_find?_eq_some hr, name, hname, by simpa using List.find?_some hr⟩

/-- What holds of every row and of the root holds of every locale. -/
theorem forall_row? {α : Type} {P : α → Prop} {table : List (List String × α)} {root : α}
    (hrows : ∀ r ∈ table, P r.2) (hroot : P root) (locale : Locale) :
    P ((locale.row? table).getD root) := by
  cases h : locale.row? table with
  | none => exact hroot
  | some a =>
    obtain ⟨names, hmem, -⟩ := exists_mem_of_row? h
    exact hrows _ hmem

theorem ofTag?_of_language {name : String} (h : name ∈ ["en", "ko"]) :
    ofTag? name = some ⟨name⟩ := by
  simp only [List.mem_cons, List.not_mem_nil, or_false] at h
  rcases h with rfl | rfl <;> decide +kernel

/-! ### Known locales -/

theorem isKnownLocale_of_known? {t : Subtags} {name : String} (h : t.known? = some name) :
    isKnownLocale name = true := by
  unfold Subtags.known? at h
  dsimp only at h
  split at h
  · rename_i hknown
    rwa [← Option.some.inj h]
  · split at h
    · rename_i hknown
      rwa [← Option.some.inj h]
    · cases h

theorem isKnownLocale_of_complete? {t : Subtags} {name : String} (h : t.complete? = some name) :
    isKnownLocale name = true := by
  unfold Subtags.complete? at h
  rcases Option.or_eq_some_iff.1 h with h | ⟨-, h⟩
  · split at h
    · obtain ⟨l, -, h⟩ := Option.bind_eq_some_iff.1 h
      exact isKnownLocale_of_known? h
    · cases h
  · obtain ⟨l, -, h⟩ := Option.bind_eq_some_iff.1 h
    exact isKnownLocale_of_known? h

/-- A tag means a locale that exists. -/
theorem isKnownLocale_of_ofTag? {tag : String} {locale : Locale} (h : ofTag? tag = some locale) :
    isKnownLocale locale.name = true := by
  obtain ⟨t, -, h⟩ := Option.bind_eq_some_iff.1 h
  dsimp only at h
  split at h
  · rename_i hknown
    rwa [← Option.some.inj h]
  · obtain ⟨name, hname, h⟩ := Option.bind_eq_some_iff.1 h
    rw [← Option.some.inj h]
    exact isKnownLocale_of_complete? hname

/-- The names of the locales that exist. -/
def knownNames : List String :=
  localeFamilies.flatMap fun r ↦ r.1 :: r.2.map (r.1 ++ "_" ++ ·)

theorem mem_knownNames {name : String} (h : isKnownLocale name = true) : name ∈ knownNames := by
  obtain ⟨r, hr, hname⟩ := List.any_eq_true.1 h
  refine List.mem_flatMap.2 ⟨r, hr, ?_⟩
  rcases Bool.or_eq_true_iff.1 hname with hname | hname
  · exact List.mem_cons.2 (.inl (eq_of_beq hname))
  · obtain ⟨subtag, hsubtag, hname⟩ := List.any_eq_true.1 hname
    exact List.mem_cons_of_mem _ (List.mem_map.2 ⟨subtag, hsubtag, (eq_of_beq hname).symm⟩)

/-- Only names that begin as the Italian one take after it. -/
theorem prefix_of_parent {name : String} (h : ['i', 't'] <+: (parent name).toList) :
    ['i', 't'] <+: name.toList := by
  unfold parent at h
  split at h
  · rename_i r hr
    have hnone : ∀ r ∈ namedParents, ¬ ['i', 't'] <+: r.1.toList := by decide +kernel
    exact absurd h (hnone r (List.mem_of_find?_eq_some hr))
  · dsimp only at h
    split at h
    · exact absurd h (by decide)
    · rw [String.toList_ofList, ← List.reverse_suffix, List.reverse_reverse] at h
      have hsuffix := (h.trans (List.tail_suffix _)).trans (List.dropWhile_suffix _)
      rwa [← List.reverse_suffix]

theorem prefix_of_mem_ancestors {steps : Nat} {name : String} (h : "it" ∈ ancestors steps name) :
    ['i', 't'] <+: name.toList := by
  induction steps generalizing name with
  | zero => exact List.mem_singleton.1 h ▸ by decide
  | succ steps ih =>
    unfold ancestors at h
    split at h
    · exact List.mem_singleton.1 h ▸ by decide
    · rcases List.mem_cons.1 h with rfl | h
      · decide
      · exact prefix_of_parent (ih h)

/-- All Italian locales count alike. -/
theorem rules_of_italian {locale : Locale} (hknown : isKnownLocale locale.name = true)
    (h : "it" ∈ locale.lineage) :
    locale.rules Plural.cardinalRules = Locale.rules ⟨"it"⟩ Plural.cardinalRules := by
  have hrules : ∀ name ∈ knownNames, ['i', 't'] <+: name.toList →
      Locale.rules ⟨name⟩ Plural.cardinalRules = Locale.rules ⟨"it"⟩ Plural.cardinalRules := by
    decide +kernel
  exact hrules _ (mem_knownNames hknown) (prefix_of_mem_ancestors h)

end Locale

end Phrasebook
