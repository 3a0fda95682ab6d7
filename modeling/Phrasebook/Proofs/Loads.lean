import Mathlib.Data.List.Induction
import Phrasebook.Catalog
import Phrasebook.Proofs.Merging
import Phrasebook.Proofs.Registration

/-!
What a sequence of loads leaves in a catalog.

The dictionary of a locale is the dictionaries that were loaded for it, merged one after the other
(`Catalog.dictionary_loadParts`), and loads for other locales do not matter to it. So a key leads
to the phrase of the last dictionary that has one there and that no later one touches
(`Catalog.phrase_afterLoads_iff`).
-/

set_option autoImplicit false

namespace Phrasebook

namespace Catalog

/-- What a program loads: a dictionary for a locale, or dictionaries for several locales. -/
inductive Load
  | dictionary (locale : String) (d : Dictionary)
  | dictionaries (parts : List (String × Dictionary))

/-- The dictionaries of a load, each with its locale. -/
def Load.parts : Load → List (String × Dictionary)
  | .dictionary locale d => [(locale, d)]
  | .dictionaries parts => parts

/-- The catalog after a load. -/
def afterLoad (c : Catalog) : Load → Catalog
  | .dictionary locale d => c.load locale d
  | .dictionaries parts => (c.loadAll (parts.map fun p ↦ (p.1, .branch p.2))).1

/-- The catalog after several loads. -/
def afterLoads (c : Catalog) (loads : List Load) : Catalog :=
  loads.foldl afterLoad c

/-- The dictionaries that are loaded for a locale, in order. -/
def Load.dictionariesFor (locale : String) (loads : List Load) : List Dictionary :=
  ((loads.flatMap Load.parts).filter fun p ↦ p.1 = locale).map Prod.snd

variable (c : Catalog) (locale : String) (d : Dictionary)

/-! ### One dictionary after the other -/

/-- Merges dictionaries into those of their locales. -/
def loadParts (c : Catalog) (parts : List (String × Dictionary)) : Catalog :=
  parts.foldl (fun c p ↦ c.load p.1 p.2) c

/-- Dictionaries are loaded one after the other, and none of them is refused. -/
theorem loadAll_branches (parts : List (String × Dictionary)) :
    c.loadAll (parts.map fun p ↦ (p.1, .branch p.2)) = (c.loadParts parts, none) := by
  induction parts generalizing c with
  | nil => rfl
  | cons p parts ih =>
    rw [List.map_cons, loadAll, loadEntry]
    exact ih (c.load p.1 p.2)

theorem afterLoad_eq (load : Load) : c.afterLoad load = c.loadParts load.parts := by
  cases load with
  | dictionary locale d => rfl
  | dictionaries parts => rw [afterLoad, loadAll_branches, Load.parts]

theorem afterLoads_eq (loads : List Load) :
    c.afterLoads loads = c.loadParts (loads.flatMap Load.parts) := by
  induction loads generalizing c with
  | nil => rfl
  | cons load loads ih =>
    rw [afterLoads, List.foldl_cons, ← afterLoads, ih, afterLoad_eq, List.flatMap_cons, loadParts,
      loadParts, loadParts, List.foldl_append]

/-! ### The dictionary of a locale -/

theorem dictionary?_load_self :
    (c.load locale d).dictionary? locale =
      some (Dictionary.merge ((c.dictionary? locale).getD []) d) :=
  Table.lookup_put_self _ _ _

theorem dictionary?_load_of_ne {other : String} (h : other ≠ locale) :
    (c.load locale d).dictionary? other = c.dictionary? other :=
  Table.lookup_put_of_ne h _ _

/-- Loads for other locales leave the dictionary of a locale as it is. -/
theorem dictionary?_loadParts_of_ne {parts : List (String × Dictionary)}
    (h : ∀ p ∈ parts, p.1 ≠ locale) :
    (c.loadParts parts).dictionary? locale = c.dictionary? locale := by
  induction parts generalizing c with
  | nil => rfl
  | cons p parts ih =>
    obtain ⟨hp, hparts⟩ := List.forall_mem_cons.1 h
    rw [loadParts, List.foldl_cons, ← loadParts, ih (c.load p.1 p.2) hparts,
      dictionary?_load_of_ne c p.1 p.2 hp.symm]

/-- The dictionary of a locale is what merging those that are loaded for it makes. -/
theorem dictionary_loadParts (parts : List (String × Dictionary)) :
    ((c.loadParts parts).dictionary? locale).getD [] =
      ((parts.filter fun p ↦ p.1 = locale).map Prod.snd).foldl Dictionary.merge
        ((c.dictionary? locale).getD []) := by
  induction parts generalizing c with
  | nil => rfl
  | cons p parts ih =>
    rw [loadParts, List.foldl_cons, ← loadParts, ih (c.load p.1 p.2)]
    by_cases hp : p.1 = locale
    · have hself := dictionary?_load_self c p.1 p.2
      rw [hp] at hself
      rw [List.filter_cons_of_pos (by simpa using hp), List.map_cons, List.foldl_cons, hp, hself]
      rfl
    · rw [List.filter_cons_of_neg (by simpa using hp),
        dictionary?_load_of_ne c p.1 p.2 (Ne.symm hp)]

/-- A key leads where it leads in the dictionary of the locale, or nowhere if there is none. -/
theorem bind_find?_eq (key : String) :
    ((c.dictionary? locale).bind fun d ↦ d.find? key) =
      Dictionary.find? ((c.dictionary? locale).getD []) key := by
  cases c.dictionary? locale with
  | some d => rfl
  | none =>
    obtain ⟨name, path, hpath⟩ := List.exists_cons_of_ne_nil (Dictionary.path_ne_nil key)
    rw [Option.getD_none, Dictionary.find?, hpath, Dictionary.follow_cons]
    rfl

/-! ### The locales with a dictionary -/

theorem locales_load :
    (c.load locale d).locales =
      if locale ∈ c.locales then c.locales else c.locales ++ [locale] :=
  Table.keys_put _ _ _

theorem locales_loadParts_append (parts : List (String × Dictionary)) (p : String × Dictionary) :
    (c.loadParts (parts ++ [p])).locales = ((c.loadParts parts).load p.1 p.2).locales := by
  rw [loadParts, List.foldl_append]
  rfl

theorem exists_of_loadEntry {c c' : Catalog} {locale : String} {e : Entry}
    (h : c.loadEntry locale e = .ok c') : ∃ d, e = .branch d ∧ c' = c.load locale d := by
  unfold loadEntry at h
  split at h
  · cases h
    exact ⟨_, rfl, rfl⟩
  · cases h

/-- A new catalog has at most one dictionary, the one for the locale of calls that name none. -/
theorem locales_of_start {renderer : Renderer} {defaultLocale : Option String} {files : Files}
    {given : Entry} {c : Catalog} (h : start renderer defaultLocale files given = .ok c) :
    c.locales = [] ∨ c.locales = [c.locale] := by
  let new : Catalog := { renderer, defaultLocale }
  have hload (d : Dictionary) : (new.load new.locale d).locales = [new.locale] := locales_load _ _ _
  unfold start at h
  split at h
  · rename_i name
    rw [loadFile] at h
    cases hfile : files.load (Files.plainName name) with
    | error f =>
      rw [hfile] at h
      cases h
    | ok e =>
      rw [hfile] at h
      obtain ⟨d, -, rfl⟩ := exists_of_loadEntry h
      exact .inr (hload d)
  · cases h
    exact .inr (hload _)
  · cases h
    exact .inl rfl

/-- Locales are listed in the order in which they first came. -/
theorem locales_loadParts (hc : c.dictionaries = []) (parts : List (String × Dictionary)) :
    (c.loadParts parts).locales = (parts.map Prod.fst).eraseDups := by
  induction parts using List.reverseRecOn with
  | nil =>
    rw [loadParts, List.foldl_nil, locales, hc]
    rfl
  | append_singleton parts p ih =>
    rw [locales_loadParts_append, locales_load, ih, List.map_append, List.eraseDups_append]
    by_cases hp : p.1 ∈ parts.map Prod.fst
    · rw [if_pos (List.mem_eraseDups.2 hp)]
      simp [List.removeAll, hp]
    · rw [if_neg (fun h ↦ hp (List.mem_eraseDups.1 h))]
      simp [List.removeAll, hp, List.eraseDups_cons]

theorem nodup_locales_loadParts (hc : c.dictionaries = []) (parts : List (String × Dictionary)) :
    (c.loadParts parts).locales.Nodup := by
  induction parts using List.reverseRecOn with
  | nil =>
    rw [loadParts, List.foldl_nil, locales, hc]
    exact .nil
  | append_singleton parts p ih =>
    rw [locales_loadParts_append]
    exact Table.nodup_keys_put ih

/-! ### Sequences of loads -/

/-- After any loads into a catalog without dictionaries, a key leads to a phrase just when one of
the dictionaries loaded for the locale has the phrase there and no later one touches the key. Loads
for other locales leave the dictionary of a locale as it is, and each locale is listed once, in the
order in which they first came. -/
theorem phrase_afterLoads_iff (c : Catalog) (loads : List Load) (hc : c.dictionaries = [])
    (hloads : ∀ load ∈ loads, ∀ p ∈ load.parts, p.2.OnlyPhrases) :
    (∀ locale key s,
      ((c.afterLoads loads).dictionary? locale).bind (fun d ↦ d.find? key) = some (.text s) ↔
        ∃ before d after, Load.dictionariesFor locale loads = before ++ d :: after ∧
          d.find? key = some (.text s) ∧
          ∀ later ∈ after, ¬ later.Touches (Dictionary.path key)) ∧
    (∀ locale load, (∀ p ∈ load.parts, p.1 ≠ locale) →
      ((c.afterLoads loads).afterLoad load).dictionary? locale =
        (c.afterLoads loads).dictionary? locale) ∧
    (c.afterLoads loads).locales = ((loads.flatMap Load.parts).map Prod.fst).eraseDups ∧
    (c.afterLoads loads).locales.Nodup := by
  rw [afterLoads_eq]
  refine ⟨fun locale key s ↦ ?_, fun locale load hother ↦ ?_, locales_loadParts c hc _,
    nodup_locales_loadParts c hc _⟩
  · have hds : ∀ d ∈ Load.dictionariesFor locale loads, d.OnlyPhrases := by
      intro d hd
      obtain ⟨p, hp, rfl⟩ := List.mem_map.1 hd
      obtain ⟨load, hload, hpart⟩ := List.mem_flatMap.1 (List.mem_filter.1 hp).1
      exact hloads load hload p hpart
    have hempty : (c.dictionary? locale).getD [] = [] := by
      rw [dictionary?, hc]
      rfl
    have hnone : Entry.follow (.branch []) (Dictionary.path key) = none := by
      obtain ⟨name, path, hpath⟩ := List.exists_cons_of_ne_nil (Dictionary.path_ne_nil key)
      rw [hpath, Dictionary.follow_cons]
      rfl
    rw [bind_find?_eq, dictionary_loadParts, hempty, Dictionary.find?, ← Load.dictionariesFor,
      Dictionary.phrase_foldl_merge_iff hds [] (Dictionary.path_ne_nil key), hnone]
    simp [Dictionary.find?]
  · rw [afterLoad_eq]
    exact dictionary?_loadParts_of_ne _ locale hother

/-- Two loads for English, and one for German and English between them. -/
def pages : List Load :=
  [.dictionary "en" [(.text "home", .branch [(.text "title", .text "Welcome"),
      (.text "lead", .text "Hello")])],
    .dictionaries [("de", [(.text "home", .text "Start")]),
      ("en", [(.text "home", .branch [(.text "title", .text "Home")])])],
    .dictionary "en" [(.text "home", .branch [(.text "lead", .branch
      [(.text "short", .text "Hi")])])]]

theorem onlyPhrases_pages : ∀ load ∈ pages, ∀ p ∈ load.parts, p.2.OnlyPhrases := by
  have hkeys : (Key.text "title" == Key.text "lead") = false := by decide
  simp only [pages, List.forall_mem_cons, Load.parts, Dictionary.OnlyPhrases, Entry.OnlyPhrases,
    Entry.AllOnlyPhrases, List.pairwise_cons, List.not_mem_nil]
  simp [hkeys]

/-- The title is the later of the two, and the branch that came last hides the lead. -/
theorem phrase_afterLoads_pages :
    let c : Catalog := { renderer := .ofSettings {} {} }
    (∀ load ∈ pages, ∀ p ∈ load.parts, p.2.OnlyPhrases) ∧
      ((c.afterLoads pages).dictionary? "en").bind (fun d ↦ d.find? "home.title") =
        some (.text "Home") ∧
      (∀ s, ((c.afterLoads pages).dictionary? "en").bind (fun d ↦ d.find? "home.lead") ≠
        some (.text s)) ∧
      (c.afterLoads pages).locales = ["en", "de"] := by
  intro c
  obtain ⟨hfind, -, hlocales, -⟩ := phrase_afterLoads_iff c pages rfl onlyPhrases_pages
  have hfor : Load.dictionariesFor "en" pages =
      [[(.text "home",
          .branch [(.text "title", .text "Welcome"), (.text "lead", .text "Hello")])]] ++
        [(.text "home", .branch [(.text "title", .text "Home")])] ::
        [[(.text "home", .branch [(.text "lead", .branch [(.text "short", .text "Hi")])])]] := by
    simp [Load.dictionariesFor, pages, Load.parts]
  have htitle : Dictionary.path "home.title" = ["home", "title"] := by decide
  have hlead : ((c.afterLoads pages).dictionary? "en").bind (fun d ↦ d.find? "home.lead") =
      some (.branch [(.text "short", .text "Hi")]) := by
    rfl
  refine ⟨onlyPhrases_pages, (hfind "en" "home.title" "Home").2 ⟨_, _, _, hfor, ?_, ?_⟩, ?_, ?_⟩
  · rw [Dictionary.find?, htitle]
    rfl
  · rw [htitle, List.forall_mem_singleton, Dictionary.touches_cons_iff rfl]
    exact Dictionary.not_touches_of_lookup_eq_none rfl []
  · rw [hlead]
    simp
  · rw [hlocales]
    decide

end Catalog

end Phrasebook
