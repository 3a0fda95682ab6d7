import Mathlib.Data.List.Forall2
import Phrasebook.Proofs.Loads

/-!
Loading several files at once.

All files are read before any is merged, so a file that cannot be read leaves the catalog as it is.
Whether a file holds a dictionary is seen only when its turn to be merged comes. A batch that stops
there has merged the dictionaries before it (`loadFiles_breaksOff`), so it is all or nothing unless
these change something (`same_loadFiles_iff`).
-/

set_option autoImplicit false

namespace Phrasebook

namespace Catalog

/-- The files of the names hold the dictionaries, each for the locale it was named with. -/
def Holds (files : Files) (names : List (String × String)) (parts : List (String × Dictionary)) :
    Prop :=
  List.Forall₂ (fun n p ↦ files.load n.1 = .ok (.branch p.2) ∧ n.2 = p.1) names parts

/-- All files can be read, and the first that holds no dictionary comes behind those that hold the
dictionaries. -/
structure BreaksOff (files : Files) (names : List (String × String))
    (parts : List (String × Dictionary)) : Prop where
  readable : ∀ n ∈ names, ∃ e, files.load n.1 = .ok e
  first : ∃ before n after, names = before ++ n :: after ∧ Holds files before parts ∧
    ∀ d, files.load n.1 ≠ .ok (.branch d)

/-- There is somebody to load files. -/
def Staffed (workers : Option Int) : Prop :=
  ∀ n ∈ workers, 0 < n

theorem staffed_none : Staffed none :=
  nofun

/-- All locales have the same dictionaries, and the same locales have one. -/
def SameDictionaries (c c' : Catalog) : Prop :=
  (∀ locale, c.dictionary? locale = c'.dictionary? locale) ∧ c.locales = c'.locales

theorem SameDictionaries.refl (c : Catalog) : c.SameDictionaries c :=
  ⟨fun _ ↦ rfl, rfl⟩

/-! ### Reading -/

section Reading

variable {α β ε : Type} {g : α → Except ε β} {xs : List α}

theorem mapM_eq_ok_iff {ys : List β} :
    xs.mapM g = .ok ys ↔ List.Forall₂ (fun x y ↦ g x = .ok y) xs ys := by
  induction xs generalizing ys with
  | nil =>
    rw [List.mapM_nil, List.forall₂_nil_left_iff]
    exact ⟨fun h ↦ (Except.ok.inj h).symm, fun h ↦ congrArg _ h.symm⟩
  | cons x xs ih =>
    rw [List.mapM_cons, List.forall₂_cons_left_iff]
    constructor
    · intro h
      cases hx : g x with
      | error f =>
        rw [hx] at h
        cases h
      | ok y =>
        cases hrest : xs.mapM g with
        | error f =>
          rw [hx, hrest] at h
          cases h
        | ok ys =>
          rw [hx, hrest] at h
          exact ⟨y, ys, rfl, ih.1 hrest, (Except.ok.inj h).symm⟩
    · rintro ⟨y, ys, hx, hrest, rfl⟩
      rw [hx, ih.2 hrest]
      rfl

theorem exists_of_mapM_eq_error {f : ε} (h : xs.mapM g = .error f) : ∃ x ∈ xs, g x = .error f := by
  induction xs with
  | nil => cases h
  | cons x xs ih =>
    rw [List.mapM_cons] at h
    cases hx : g x with
    | error f' =>
      rw [hx] at h
      obtain rfl := Except.error.inj h
      exact ⟨x, List.mem_cons_self, hx⟩
    | ok y =>
      cases hrest : xs.mapM g with
      | error f' =>
        rw [hx, hrest] at h
        obtain rfl := Except.error.inj h
        obtain ⟨z, hz, hf⟩ := ih hrest
        exact ⟨z, List.mem_cons_of_mem x hz, hf⟩
      | ok ys =>
        rw [hx, hrest] at h
        cases h

end Reading

variable {c : Catalog} {files : Files} {names : List (String × String)} {workers : Option Int}
  {parts : List (String × Dictionary)}

/-- Reads files in order, each for its locale. -/
def readAll (files : Files) (names : List (String × String)) :
    Except LoadFault (List (String × Entry)) :=
  names.mapM fun n ↦ (files.load n.1).map fun e ↦ (n.2, e)

theorem readAll_eq_ok_iff {entries : List (String × Entry)} : readAll files names = .ok entries ↔
    List.Forall₂ (fun n e ↦ files.load n.1 = .ok e.2 ∧ n.2 = e.1) names entries := by
  rw [readAll, mapM_eq_ok_iff]
  have hpart (n : String × String) (e : String × Entry) :
      ((files.load n.1).map fun e ↦ (n.2, e)) = .ok e ↔ files.load n.1 = .ok e.2 ∧ n.2 = e.1 := by
    cases files.load n.1 with
    | error f => exact ⟨nofun, fun h ↦ nomatch h.1⟩
    | ok d => simp [Except.map, Prod.ext_iff, and_comm]
  simp only [hpart]

theorem exists_of_readAll_eq_error {f : LoadFault} (h : readAll files names = .error f) :
    ∃ n ∈ names, files.load n.1 = .error f := by
  obtain ⟨n, hn, hf⟩ := exists_of_mapM_eq_error h
  refine ⟨n, hn, ?_⟩
  cases hload : files.load n.1 with
  | error f' =>
    rw [hload] at hf
    exact congrArg _ (Except.error.inj hf)
  | ok e =>
    rw [hload] at hf
    cases hf

theorem loadFiles_eq (hworkers : Staffed workers) : c.loadFiles files names workers =
    match readAll files names with
    | .ok entries => c.loadAll entries
    | .error f => (c, some f) := by
  have hnone : workers.any (· ≤ 0) = false := by
    cases workers with
    | none => rfl
    | some n => simpa using hworkers n rfl
  rw [loadFiles, hnone, if_neg Bool.false_ne_true]
  rfl

theorem loadFiles_of_not_staffed (hworkers : ¬ Staffed workers) :
    c.loadFiles files names workers = (c, some .noWorkers) := by
  have hany : workers.any (· ≤ 0) = true := by
    cases workers with
    | none => exact absurd nofun hworkers
    | some n =>
      rw [Option.any_some, decide_eq_true_eq]
      by_contra hn
      refine hworkers fun m hm ↦ ?_
      rw [← Option.mem_some.1 hm]
      omega
  rw [loadFiles, if_pos hany]

/-! ### Merging -/

/-- Merging goes on up to the first entry that is no dictionary. -/
theorem loadAll_append (c : Catalog) (parts : List (String × Dictionary))
    (rest : List (String × Entry)) :
    c.loadAll (parts.map (fun p ↦ (p.1, .branch p.2)) ++ rest) =
      (c.loadParts parts).loadAll rest := by
  induction parts generalizing c with
  | nil => rfl
  | cons p parts ih =>
    rw [List.map_cons, List.cons_append, loadAll, loadEntry]
    exact ih (c.load p.1 p.2)

/-- All entries are dictionaries, or there is a first one that is none. -/
theorem dictionaries_or_exists (entries : List (String × Entry)) :
    (∃ parts : List (String × Dictionary), entries = parts.map fun p ↦ (p.1, .branch p.2)) ∨
      ∃ (parts : List (String × Dictionary)) (e : String × Entry) (rest : List (String × Entry)),
        entries = parts.map (fun p ↦ (p.1, .branch p.2)) ++ e :: rest ∧ ∀ d, e.2 ≠ .branch d := by
  induction entries with
  | nil => exact .inl ⟨[], rfl⟩
  | cons e entries ih =>
    by_cases hbranch : ∃ d, e.2 = .branch d
    · obtain ⟨locale, e⟩ := e
      obtain ⟨d, rfl⟩ := hbranch
      rcases ih with ⟨parts, rfl⟩ | ⟨parts, e, rest, rfl, he⟩
      · exact .inl ⟨(locale, d) :: parts, rfl⟩
      · exact .inr ⟨(locale, d) :: parts, e, rest, rfl, he⟩
    · exact .inr ⟨[], e, entries, rfl, fun d hd ↦ hbranch ⟨d, hd⟩⟩

theorem loadEntry_of_ne {locale : String} {e : Entry} (h : ∀ d, e ≠ .branch d) :
    c.loadEntry locale e = .error .notADictionary := by
  cases e with
  | branch d => exact absurd rfl (h d)
  | _ => rfl

theorem holds_iff : Holds files names parts ↔
    readAll files names = .ok (parts.map fun p ↦ (p.1, .branch p.2)) := by
  rw [readAll_eq_ok_iff, List.forall₂_map_right_iff]
  rfl

theorem Holds.locales (h : Holds files names parts) : names.map Prod.snd = parts.map Prod.fst := by
  induction h with
  | nil => rfl
  | cons hn _ ih => rw [List.map_cons, List.map_cons, ih, hn.2]

/-- A batch of dictionaries is merged. -/
theorem loadFiles_of_holds (hworkers : Staffed workers) (h : Holds files names parts) :
    c.loadFiles files names workers = (c.loadParts parts, none) := by
  rw [loadFiles_eq hworkers, holds_iff.1 h]
  exact loadAll_branches c parts

theorem readable_of_readAll {entries : List (String × Entry)}
    (h : readAll files names = .ok entries) : ∀ n ∈ names, ∃ e, files.load n.1 = .ok e := by
  have hall := readAll_eq_ok_iff.1 h
  clear h
  induction hall with
  | nil => simp
  | cons hn _ ih => exact List.forall_mem_cons.2 ⟨⟨_, hn.1⟩, ih⟩

theorem exists_readAll (h : ∀ n ∈ names, ∃ e, files.load n.1 = .ok e) :
    ∃ entries, readAll files names = .ok entries := by
  cases hread : readAll files names with
  | ok entries => exact ⟨entries, rfl⟩
  | error f =>
    obtain ⟨n, hn, hf⟩ := exists_of_readAll_eq_error hread
    obtain ⟨e, he⟩ := h n hn
    rw [he] at hf
    cases hf

/-- A batch breaks off where an entry that is no dictionary comes behind dictionaries. -/
theorem breaksOff_iff : BreaksOff files names parts ↔ ∃ e rest,
    readAll files names = .ok (parts.map (fun p ↦ (p.1, .branch p.2)) ++ e :: rest) ∧
      ∀ d, e.2 ≠ .branch d := by
  constructor
  · rintro ⟨hreadable, before, n, after, rfl, hbefore, hn⟩
    obtain ⟨-, hreadable⟩ := List.forall_mem_append.1 hreadable
    obtain ⟨⟨e, he⟩, hafter⟩ := List.forall_mem_cons.1 hreadable
    obtain ⟨rest, hrest⟩ := exists_readAll hafter
    have hbefore := readAll_eq_ok_iff.1 (holds_iff.1 hbefore)
    refine ⟨(n.2, e), rest, readAll_eq_ok_iff.2 ?_, fun d hd ↦ hn d (by rw [he, ← hd])⟩
    exact List.rel_append hbefore (.cons ⟨he, rfl⟩ (readAll_eq_ok_iff.1 hrest))
  · rintro ⟨e, rest, hread, he⟩
    have hall := readAll_eq_ok_iff.1 hread
    obtain ⟨n, after, ⟨hn, -⟩, -, hnames⟩ :=
      List.forall₂_cons_right_iff.1 (List.forall₂_drop_append _ _ _ hall)
    refine ⟨readable_of_readAll hread, _, n, after, ?_,
      holds_iff.2 (readAll_eq_ok_iff.2 (List.forall₂_take_append _ _ _ hall)), fun d hd ↦ ?_⟩
    · rw [← hnames, List.take_append_drop]
    · rw [hn] at hd
      exact he d (Except.ok.inj hd)

/-- A batch that breaks off leaves what it has merged. -/
theorem loadFiles_of_breaksOff (hworkers : Staffed workers) (h : BreaksOff files names parts) :
    c.loadFiles files names workers = (c.loadParts parts, some .notADictionary) := by
  obtain ⟨e, rest, hread, he⟩ := breaksOff_iff.1 h
  rw [loadFiles_eq hworkers, hread]
  dsimp only
  rw [loadAll_append, loadAll, loadEntry_of_ne he]

/-- A batch is refused, or it breaks off, or all of it is merged. -/
theorem loadFiles_cases (c : Catalog) (files : Files) (names : List (String × String))
    (workers : Option Int) :
    (∃ f, c.loadFiles files names workers = (c, some f) ∧
      (¬ Staffed workers ∨ ∃ n ∈ names, files.load n.1 = .error f)) ∨
    (Staffed workers ∧ ∃ parts, BreaksOff files names parts) ∨
    (Staffed workers ∧ ∃ parts, Holds files names parts) := by
  by_cases hworkers : Staffed workers
  · cases hread : readAll files names with
    | error f =>
      refine .inl ⟨f, ?_, .inr (exists_of_readAll_eq_error hread)⟩
      rw [loadFiles_eq hworkers, hread]
    | ok entries =>
      rcases dictionaries_or_exists entries with ⟨parts, rfl⟩ | ⟨parts, e, rest, rfl, he⟩
      · exact .inr (.inr ⟨hworkers, parts, holds_iff.2 hread⟩)
      · exact .inr (.inl ⟨hworkers, parts, breaksOff_iff.2 ⟨e, rest, hread, he⟩⟩)
  · exact .inl ⟨_, loadFiles_of_not_staffed hworkers, .inl hworkers⟩

/-! ### What a batch leaves -/

theorem mem_locales_load {locale other : String} {d : Dictionary} :
    other ∈ (c.load locale d).locales ↔ other ∈ c.locales ∨ other = locale := by
  rw [locales_load]
  split
  · rename_i hmem
    refine ⟨.inl, ?_⟩
    rintro (h | rfl)
    · exact h
    · exact hmem
  · rw [List.mem_append, List.mem_singleton]

theorem mem_locales_loadParts {locale : String} :
    locale ∈ (c.loadParts parts).locales ↔ locale ∈ c.locales ∨ locale ∈ parts.map Prod.fst := by
  induction parts generalizing c with
  | nil => simp [loadParts]
  | cons p parts ih =>
    rw [loadParts, List.foldl_cons, ← loadParts, ih, mem_locales_load, List.map_cons,
      List.mem_cons, or_assoc]

/-- A dictionary for a new locale is never without a trace. -/
theorem not_same_loadParts {p : String × Dictionary} (hp : p ∈ parts) (hnew : p.1 ∉ c.locales) :
    ¬ (c.loadParts parts).SameDictionaries c := by
  intro hsame
  have hmem : p.1 ∈ (c.loadParts parts).locales :=
    mem_locales_loadParts.2 (.inr (List.mem_map_of_mem hp))
  rw [hsame.2] at hmem
  exact hnew hmem

/-- A batch succeeds just when there is somebody to load it and every file can be read and holds a
dictionary, and then all of them are merged in order. A batch that fails leaves the dictionaries as
they were, unless all of its files can be read and one that holds no dictionary comes behind
dictionaries that change something, as they do if one of them is for a new locale: these stay
merged. -/
theorem same_loadFiles_iff (c : Catalog) (files : Files) (names : List (String × String))
    (workers : Option Int) :
    let outcome := c.loadFiles files names workers
    (outcome.2 = none ↔ Staffed workers ∧ ∃ parts, Holds files names parts) ∧
    (∀ parts, outcome.2 = none → Holds files names parts → ∀ locale,
      (outcome.1.dictionary? locale).getD [] =
        ((parts.filter fun p ↦ p.1 = locale).map Prod.snd).foldl Dictionary.merge
          ((c.dictionary? locale).getD []) ∧
      (locale ∈ outcome.1.locales ↔ locale ∈ c.locales ∨ locale ∈ names.map Prod.snd)) ∧
    (outcome.2 ≠ none → (¬ outcome.1.SameDictionaries c ↔
      Staffed workers ∧ ∃ parts, BreaksOff files names parts ∧
        ¬ (c.loadParts parts).SameDictionaries c)) ∧
    ∀ parts, (∃ p ∈ parts, p.1 ∉ c.locales) → ¬ (c.loadParts parts).SameDictionaries c := by
  intro outcome
  have hnone : outcome.2 = none ↔ Staffed workers ∧ ∃ parts, Holds files names parts := by
    constructor
    · intro hfault
      rcases loadFiles_cases c files names workers with ⟨f, hf, -⟩ | ⟨hworkers, parts, hbreaks⟩ | h
      · cases hfault.symm.trans (congrArg Prod.snd hf)
      · cases hfault.symm.trans (congrArg Prod.snd (loadFiles_of_breaksOff hworkers hbreaks))
      · exact h
    · rintro ⟨hworkers, parts, hholds⟩
      exact congrArg Prod.snd (loadFiles_of_holds hworkers hholds)
  refine ⟨hnone, fun parts hfault hholds locale ↦ ?_, fun hfault ↦ ⟨fun hchanged ↦ ?_, ?_⟩,
    fun parts ⟨p, hp, hnew⟩ ↦ not_same_loadParts hp hnew⟩
  · have hmerged : outcome.1 = c.loadParts parts :=
      congrArg Prod.fst (loadFiles_of_holds (hnone.1 hfault).1 hholds)
    rw [hmerged, hholds.locales]
    exact ⟨dictionary_loadParts c locale parts, mem_locales_loadParts⟩
  · rcases loadFiles_cases c files names workers with ⟨f, hf, -⟩ | ⟨hworkers, parts, hbreaks⟩ | h
    · exact absurd (congrArg Prod.fst hf ▸ .refl c) hchanged
    · have hbroken : outcome.1 = c.loadParts parts :=
        congrArg Prod.fst (loadFiles_of_breaksOff hworkers hbreaks)
      exact ⟨hworkers, parts, hbreaks, hbroken ▸ hchanged⟩
    · exact absurd (hnone.2 h) hfault
  · rintro ⟨hworkers, parts, hbreaks, hchanged⟩
    have hbroken : outcome.1 = c.loadParts parts :=
      congrArg Prod.fst (loadFiles_of_breaksOff hworkers hbreaks)
    rwa [hbroken]

/-- A file with an empty dictionary, and one with a list. -/
def twoFiles : Files := fun name ↦
  if name = "en.json" then some "\x7b\x7d".toUTF8
  else if name = "de.json" then some "[]".toUTF8
  else none

theorem breaksOff_twoFiles : BreaksOff twoFiles [("en.json", "en"), ("de.json", "de")]
    [("en", [])] := by
  have hen : twoFiles.load "en.json" = .ok (.branch []) := rfl
  have hde : twoFiles.load "de.json" = .ok (.list []) := rfl
  refine ⟨List.forall_mem_cons.2 ⟨⟨_, hen⟩, List.forall_mem_singleton.2 ⟨_, hde⟩⟩,
    [("en.json", "en")], ("de.json", "de"), [], rfl, .cons ⟨hen, rfl⟩ .nil, fun d hd ↦ ?_⟩
  rw [hde] at hd
  cases hd

/-- The list is refused, and the dictionary before it stays. -/
theorem loadFiles_twoFiles :
    let c : Catalog := { renderer := .ofSettings {} {} }
    let outcome := c.loadFiles twoFiles [("en.json", "en"), ("de.json", "de")] none
    outcome.2 = some .notADictionary ∧ ¬ outcome.1.SameDictionaries c := by
  intro c outcome
  obtain ⟨-, -, hchanged, hnew⟩ :=
    same_loadFiles_iff c twoFiles [("en.json", "en"), ("de.json", "de")] none
  have hfault : outcome.2 = some .notADictionary :=
    congrArg Prod.snd (loadFiles_of_breaksOff staffed_none breaksOff_twoFiles)
  refine ⟨hfault, (hchanged (by rw [hfault]; nofun)).2 ⟨staffed_none, _, breaksOff_twoFiles, ?_⟩⟩
  exact hnew _ ⟨_, List.mem_cons_self, List.not_mem_nil⟩

end Catalog

end Phrasebook
