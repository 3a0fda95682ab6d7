import Phrasebook.Proofs.Words
import Phrasebook.Rendering.Settings

/-!
The chain of locales in which a phrase is looked for.

Falling back goes on from a locale to its parent, to the parent of that and so on, until there is
none or it was met before (`Settings.Climbs`). A parent has no hyphen, so it has no parent, and the
climb ends after one step from every text (`Settings.climbs_iff`). Hence a chain that is not given
is the locale, its parent and the last resort, each at most once and in this order
(`Settings.chain_wellFormed`).
-/

set_option autoImplicit false

namespace Phrasebook.Settings

open Text

/-- The text `p` is what stands before the first hyphen of a locale. -/
def Stem (p locale : String) : Prop :=
  '-' ∉ p.toList ∧ ∃ rest, locale.toList = p.toList ++ '-' :: rest

/-- How a chain grows upward: the parent of the last locale is put behind the locales that were
tried, unless there is none or it is one of them. -/
inductive Climbs : List String → String → List String → Prop
  | top {tried : List String} {locale : String} (h : parent? locale = none) :
      Climbs tried locale tried
  | known {tried : List String} {locale p : String} (h : parent? locale = some p)
      (hp : p ∈ tried) : Climbs tried locale tried
  | next {tried chain : List String} {locale p : String} (h : parent? locale = some p)
      (hp : p ∉ tried) (hnext : Climbs (tried ++ [p]) p chain) : Climbs tried locale chain

/-! ### Parents -/

variable {locale p q : String}

theorem Stem.takeWhile_eq (h : Stem p locale) :
    locale.toList.takeWhile (fun c ↦ decide (c ≠ '-')) = p.toList := by
  obtain ⟨hp, rest, hrest⟩ := h
  rw [hrest]
  exact takeWhile_append_stop (fun c hc ↦ decide_eq_true fun heq ↦ hp (heq ▸ hc))
    fun c hc ↦ by cases hc; rfl

theorem Stem.unique (h : Stem p locale) (h' : Stem q locale) : p = q := by
  rw [← String.toList_inj, ← h.takeWhile_eq, h'.takeWhile_eq]

/-- The first hyphen of a text has something before it, be it nothing. -/
theorem exists_stem (h : '-' ∈ locale.toList) : ∃ p, Stem p locale := by
  obtain ⟨before, rest, hlocale, hbefore⟩ := List.eq_append_cons_of_mem h
  exact ⟨String.ofList before, by simpa using hbefore, rest, by simpa using hlocale⟩

theorem Stem.ne (h : Stem p locale) : p ≠ locale := by
  rintro rfl
  obtain ⟨hp, rest, hrest⟩ := h
  exact hp (hrest ▸ List.mem_append_right _ List.mem_cons_self)

theorem parent?_of_stem (h : Stem p locale) :
    parent? locale = if p = "" then none else some p := by
  have hlength : p.toList.length ≠ locale.toList.length := by
    obtain ⟨-, rest, hrest⟩ := h
    rw [hrest]
    simp
  unfold parent?
  dsimp only
  rw [h.takeWhile_eq]
  by_cases hempty : p = ""
  · simp [hempty]
  · have hne : p.toList ≠ [] := fun hnil ↦ hempty (String.toList_eq_nil_iff.1 hnil)
    simp [hempty, hne, hlength]

theorem parent?_of_notMem (h : '-' ∉ locale.toList) : parent? locale = none := by
  have hwhile : locale.toList.takeWhile (fun c ↦ decide (c ≠ '-')) = locale.toList :=
    List.takeWhile_eq_self_iff.2 fun c hc ↦ decide_eq_true fun heq ↦ h (heq ▸ hc)
  unfold parent?
  dsimp only
  rw [hwhile]
  simp

/-- The parent of a locale is the text before its first hyphen, if this is one. -/
theorem parent?_eq_some_iff : parent? locale = some p ↔ Stem p locale ∧ p ≠ "" := by
  by_cases hmem : '-' ∈ locale.toList
  · obtain ⟨q, hq⟩ := exists_stem hmem
    rw [parent?_of_stem hq]
    constructor
    · intro h
      split at h
      · cases h
      · rename_i hne
        cases h
        exact ⟨hq, hne⟩
    · rintro ⟨hp, hne⟩
      obtain rfl := hp.unique hq
      rw [if_neg hne]
  · rw [parent?_of_notMem hmem]
    refine iff_of_false (by simp) fun ⟨⟨_, rest, hrest⟩, _⟩ ↦ hmem ?_
    exact hrest ▸ List.mem_append_right _ List.mem_cons_self

/-- A parent has no parent. -/
theorem parent?_of_parent (h : parent? locale = some p) : parent? p = none :=
  parent?_of_notMem (parent?_eq_some_iff.1 h).1.1

theorem climbs_iff_of_none {tried chain : List String} (h : parent? locale = none) :
    Climbs tried locale chain ↔ chain = tried := by
  constructor
  · intro hclimb
    cases hclimb with
    | top _ => rfl
    | known hp _ | next hp _ _ => cases h.symm.trans hp
  · rintro rfl
    exact .top h

/-- The climb from any locale ends, and in one way: after its parent. -/
theorem climbs_iff {tried chain : List String} : Climbs tried locale chain ↔
    chain = tried ++ (parent? locale).toList.filter fun p ↦ decide (p ∉ tried) := by
  cases hparent : parent? locale with
  | none => simp [climbs_iff_of_none hparent]
  | some p =>
    have hend : Climbs (tried ++ [p]) p chain ↔ chain = tried ++ [p] :=
      climbs_iff_of_none (parent?_of_parent hparent)
    by_cases hp : p ∈ tried
    · constructor
      · intro h
        cases h with
        | top h => cases hparent.symm.trans h
        | known _ _ => simp [hp]
        | next h hp' _ =>
          cases hparent.symm.trans h
          exact absurd hp hp'
      · rintro rfl
        simpa [hp] using Climbs.known hparent hp
    · constructor
      · intro h
        cases h with
        | top h => cases hparent.symm.trans h
        | known h hp' =>
          cases hparent.symm.trans h
          exact absurd hp' hp
        | next h _ hnext =>
          cases hparent.symm.trans h
          simpa [hp] using hend.1 hnext
      · rintro rfl
        exact .next hparent hp (hend.2 (by simp [hp]))

/-! ### Chains -/

variable {c : Settings}

theorem mem_parents_iff :
    p ∈ c.parents locale ↔ c.parentLocales = true ∧ Stem p locale ∧ p ≠ "" := by
  rw [parents, ← parent?_eq_some_iff]
  split
  · simp [*]
  · simp [*]

theorem nodup_start : (locale :: c.parents locale).Nodup := by
  have hne : locale ∉ c.parents locale := fun h ↦ (mem_parents_iff.1 h).2.1.ne rfl
  refine List.nodup_cons.2 ⟨hne, ?_⟩
  unfold parents
  split
  · cases parent? locale <;> simp
  · exact List.nodup_nil

section NotGiven

variable (h : c.chains.lookup locale = none)

include h

/-- A chain that is not given is the locale with its parent, and the last resort if it is another
locale. -/
theorem chain_of_lookup_eq_none : c.chain locale = (locale :: c.parents locale) ++
    c.fallbackLocale.toList.filter fun l ↦ decide (l ≠ "" ∧ l ∉ locale :: c.parents locale) := by
  unfold chain
  rw [h]
  dsimp only
  cases c.fallbackLocale with
  | none => simp
  | some last =>
    dsimp only
    generalize locale :: c.parents locale = start
    by_cases hempty : last = ""
    · simp [hempty]
    · by_cases hmem : last ∈ start <;> simp [hempty, hmem]

theorem mem_chain_iff {l : String} : l ∈ c.chain locale ↔
    l = locale ∨ l ∈ c.parents locale ∨ c.fallbackLocale = some l ∧ l ≠ "" := by
  rw [chain_of_lookup_eq_none h]
  simp only [List.mem_append, List.mem_cons, List.mem_filter, Option.mem_toList,
    decide_eq_true_eq]
  tauto

theorem nodup_chain : (c.chain locale).Nodup := by
  rw [chain_of_lookup_eq_none h, List.nodup_append]
  refine ⟨nodup_start, List.Nodup.sublist List.filter_sublist ?_, fun l hl l' hl' heq ↦ ?_⟩
  · cases c.fallbackLocale <;> simp
  · have hnotMem := (of_decide_eq_true (List.mem_filter.1 hl').2).2
    exact hnotMem (heq ▸ hl)

theorem length_chain_le : (c.chain locale).length ≤ 3 := by
  have hparents : (c.parents locale).length ≤ 1 := by
    unfold parents
    split
    · cases parent? locale <;> simp
    · simp
  have hlast : c.fallbackLocale.toList.length ≤ 1 := by
    cases c.fallbackLocale <;> simp
  rw [chain_of_lookup_eq_none h, List.length_append, List.length_cons]
  have := (List.length_filter_le
    (fun l ↦ decide (l ≠ "" ∧ l ∉ locale :: c.parents locale)) c.fallbackLocale.toList)
  omega

/-- The parent stands before the last resort, if these and the locale are three. -/
theorem chain_eq_of_ne {last : String} (hp : p ∈ c.parents locale)
    (hlast : c.fallbackLocale = some last) (hempty : last ≠ "") (hne : last ≠ locale)
    (hnep : last ≠ p) : c.chain locale = [locale, p, last] := by
  have hparents : c.parents locale = [p] := by
    have hon := (mem_parents_iff.1 hp).1
    have hparent := parent?_eq_some_iff.2 (mem_parents_iff.1 hp).2
    rw [parents, if_pos hon, hparent]
    rfl
  rw [chain_of_lookup_eq_none h, hparents, hlast]
  simp [hempty, hne, hnep]

/-- Falling back again and again leads to no locale but those at the start of the chain. -/
theorem climbs_prefix_chain (hon : c.parentLocales = true) {climbed : List String}
    (hclimb : Climbs [locale] locale climbed) : climbed <+: c.chain locale := by
  have hstart : climbed = locale :: c.parents locale := by
    rw [climbs_iff.1 hclimb, parents, if_pos hon]
    cases hparent : parent? locale with
    | none => rfl
    | some p =>
      have hne := (parent?_eq_some_iff.1 hparent).1.ne
      simp [hne]
  rw [hstart, chain_of_lookup_eq_none h]
  exact List.prefix_append _ _

end NotGiven

/-- A chain depends on the one that is given, and else on the parents and the last resort alone. -/
theorem chain_congr {c' : Settings} (hchains : c'.chains.lookup locale = c.chains.lookup locale)
    (hother : c.chains.lookup locale = none →
      c'.parentLocales = c.parentLocales ∧ c'.fallbackLocale = c.fallbackLocale) :
    c'.chain locale = c.chain locale := by
  cases hlookup : c.chains.lookup locale with
  | some given => rw [chain, chain, hchains, hlookup]
  | none =>
    obtain ⟨hparents, hlast⟩ := hother hlookup
    rw [chain_of_lookup_eq_none hlookup, chain_of_lookup_eq_none (hchains.trans hlookup), hlast,
      parents, parents, hparents]

/-- A chain that is not given has no locale twice and begins with the one it is for. The last resort
is in it, and what else is in it is the text before the first hyphen of the locale: just if locales
fall back to their parents and the text is not empty, and in front of the last resort. That is all
that falling back again and again leads to. A given chain is what follows the locale, whatever the
other settings are. -/
theorem chain_wellFormed (c : Settings) (locale : String) :
    (c.chains.lookup locale = none →
      (∃ climbed, (∀ l, Climbs [locale] locale l ↔ l = climbed) ∧
        (c.parentLocales = true → climbed <+: c.chain locale)) ∧
      (c.chain locale).Nodup ∧ (c.chain locale).head? = some locale ∧
      (∀ last, c.fallbackLocale = some last → last ≠ "" → last ∈ c.chain locale) ∧
      (∀ l ∈ c.chain locale, l ≠ locale →
        l ≠ "" ∧ (c.fallbackLocale ≠ some l → Stem l locale)) ∧
      (∀ p, Stem p locale → c.fallbackLocale ≠ some p →
        (p ∈ c.chain locale ↔ c.parentLocales = true ∧ p ≠ "")) ∧
      (∀ p last, Stem p locale → p ≠ "" → c.parentLocales = true →
        c.fallbackLocale = some last → last ≠ "" → last ≠ locale → last ≠ p →
        c.chain locale = [locale, p, last]) ∧
      (c.chain locale).length ≤ 3) ∧
    (∀ given, c.chains.lookup locale = some given → c.chain locale = locale :: given) ∧
    ∀ c' : Settings, c'.chains.lookup locale = c.chains.lookup locale →
      (c.chains.lookup locale = none →
        c'.parentLocales = c.parentLocales ∧ c'.fallbackLocale = c.fallbackLocale) →
      c'.chain locale = c.chain locale := by
  refine ⟨fun h ↦ ⟨?_, nodup_chain h, ?_, fun last hlast hempty ↦ ?_, fun l hl hne ↦ ?_,
    fun p hp hlast ↦ ?_, fun p last hp hne hon ↦ ?_, length_chain_le h⟩,
    fun given hgiven ↦ by rw [chain, hgiven], fun c' ↦ chain_congr⟩
  · exact ⟨_, fun l ↦ climbs_iff, fun hon ↦ climbs_prefix_chain h hon (climbs_iff.2 rfl)⟩
  · rw [chain_of_lookup_eq_none h]
    rfl
  · exact (mem_chain_iff h).2 (.inr (.inr ⟨hlast, hempty⟩))
  · rcases (mem_chain_iff h).1 hl with heq | hparent | ⟨heq, hempty⟩
    · exact absurd heq hne
    · obtain ⟨-, hstem, hempty⟩ := mem_parents_iff.1 hparent
      exact ⟨hempty, fun _ ↦ hstem⟩
    · exact ⟨hempty, fun hlast ↦ absurd heq hlast⟩
  · rw [mem_chain_iff h, mem_parents_iff]
    constructor
    · rintro (heq | ⟨hon, -, hne⟩ | ⟨heq, -⟩)
      · exact absurd heq hp.ne
      · exact ⟨hon, hne⟩
      · exact absurd heq hlast
    · rintro ⟨hon, hne⟩
      exact .inr (.inl ⟨hon, hp, hne⟩)
  · exact chain_eq_of_ne h (mem_parents_iff.2 ⟨hon, hp, hne⟩)

/-- Settings with a chain that is given and a last resort that is not the usual one. -/
def mixed : Settings where
  fallbackLocale := some "ko"
  chains := [("pt-BR", ["pt", "es"])]

/-- The parent of a locale with three parts comes before the last resort; a given chain has neither
unless it says so. -/
theorem chain_wellFormed_mixed :
    mixed.chain "zh-Hant-TW" = ["zh-Hant-TW", "zh", "ko"] ∧
      mixed.chain "pt-BR" = ["pt-BR", "pt", "es"] ∧
      ({ mixed with debug := true }).chain "-" = mixed.chain "-" := by
  obtain ⟨hderived, -, -⟩ := chain_wellFormed mixed "zh-Hant-TW"
  obtain ⟨-, -, -, -, -, -, hthree, -⟩ := hderived (by decide)
  obtain ⟨-, hgiven, -⟩ := chain_wellFormed mixed "pt-BR"
  obtain ⟨-, -, hother⟩ := chain_wellFormed mixed "-"
  refine ⟨hthree "zh" "ko" ⟨by decide, _, rfl⟩ ?_ rfl rfl ?_ ?_ ?_, hgiven _ rfl,
    hother _ rfl fun _ ↦ ⟨rfl, rfl⟩⟩ <;> decide

end Phrasebook.Settings
