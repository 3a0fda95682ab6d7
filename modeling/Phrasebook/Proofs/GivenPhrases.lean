import Phrasebook.Proofs.ServedPhrases

/-!
Phrases that are given on the spot, beside those of the dictionaries.

Both are chosen along the chain of the locale that was asked for. Where the phrases that are given
are those that the dictionaries have under a key, and none of them is empty, the same one is chosen
(`Catalog.choose_eq`), and it is shown alike (`Catalog.phrase_eq_pick`).
-/

set_option autoImplicit false

namespace Phrasebook

namespace Catalog

/-- The phrases are those that the dictionaries have under the key, each for its locale. -/
def Gives (c : Catalog) (key : String) (phrases : Table String Value) : Prop :=
  ∀ l, phrases.lookup l = ((c.dictionary? l).bind fun d ↦ d.phrase? key).map .text

section Choose

variable {c : Catalog} {key : String} {phrases : Table String Value}

theorem Gives.lookup_eq (h : c.Gives key phrases) {l : String} {template? : Option String}
    (htext : c.textIn? key none l = .ok template?) : phrases.lookup l = template?.map .text := by
  rw [textIn?_none] at htext
  rw [h l, Except.ok.inj htext]

/-- A chain has a first text if a phrase is given for one of its locales. -/
theorem Gives.exists_serves (h : c.Gives key phrases) {chain : List String}
    (hmeets : ∃ l ∈ chain, (phrases.lookup l).isSome) :
    ∃ used template, c.Serves key none chain used template := by
  rcases c.search_cases key none chain with hserves | ⟨fault, hstops⟩ | hnone
  · exact hserves
  · exact absurd hstops (not_stops_none fault)
  · obtain ⟨l, hl, hsome⟩ := hmeets
    rw [h.lookup_eq (hnone l hl)] at hsome
    cases hsome

/-- Of phrases that are not empty, the first one along a chain is chosen. -/
theorem choose_eq (h : c.Gives key phrases) (hne : ∀ l, phrases.lookup l ≠ some (.text ""))
    {chain : List String} {used template : String} (hserves : c.Serves key none chain used template)
    (first : String × Value) : choose chain first phrases = (used, .text template) := by
  obtain ⟨⟨before, after, hchain, hbefore⟩, htext⟩ := hserves
  have hlookup : phrases.lookup used = some (.text template) := h.lookup_eq htext
  have hfull : template ≠ "" := by
    rintro rfl
    exact hne used hlookup
  have hfound : (chain.findSome? fun candidate ↦
      ((phrases.lookup candidate).filter fun phrase ↦ !phrase.isNothing).map (candidate, ·)) =
        some (used, .text template) := by
    refine List.findSome?_eq_some_iff.2 ⟨before, used, after, hchain, ?_, fun l hl ↦ ?_⟩
    · rw [hlookup]
      simp [Value.isNothing, hfull]
    · rw [h.lookup_eq (hbefore l hl)]
      rfl
  rw [choose, hfound]
  rfl

theorem pick_of_serves (h : c.Gives key phrases) (hne : ∀ l, phrases.lookup l ≠ some (.text ""))
    {locale : Option String} {used template : String}
    (hserves : c.Serves key none (c.settings.chain (c.localeOr locale)) used template)
    (clock : Calendar.Moment) (values : Values) : c.pick clock phrases values locale =
      c.serve clock (c.localeOr locale) used template values
        { requested := c.localeOr locale, available := phrases.keys, fallback := some used } := by
  cases phrases with
  | nil =>
    cases h.lookup_eq hserves.2
  | cons first rest =>
    simp only [pick, choose_eq h hne hserves first]

end Choose

/-- The catalog with another cache of messages. -/
def withCache (c : Catalog) (cache : MessageCache) : Catalog :=
  { c with renderer := { c.renderer with cache } }

/-- What is shown does not depend on what was read before. -/
theorem result_render_withCache (c : Catalog) (cache : MessageCache) (clock : Calendar.Moment)
    (template : String) (values : Values) (locale : Option String) :
    ((c.withCache cache).renderer.render clock template values locale).2.result =
      (c.renderer.render clock template values locale).2.result := by
  simp only [Renderer.result_render, Renderer.result_tryRender, Renderer.result_outline]
  rfl

/-- Without a count, a key is answered like the phrases that the dictionaries have under it, given
on the spot in any order, if none of them is empty and the chain comes to one of them: the same one
is shown, with the same mark or with none, and there is a warning from both or from neither, about
the same locales. What the cache holds at the time of either call does not matter. -/
theorem phrase_eq_pick (c : Catalog) (cache : MessageCache) (clock : Calendar.Moment) (key : String)
    (value : String → Value) (locale : Option String) (phrases : Table String Value)
    (hcount : (value "count").number? = none) (h : c.Gives key phrases)
    (hne : ∀ l, phrases.lookup l ≠ some (.text ""))
    (hmeets : ∃ l ∈ c.settings.chain (c.localeOr locale), (phrases.lookup l).isSome) :
    let requested := c.localeOr locale
    let looked := (c.phrase clock key (.named value) locale).2
    let picked := ((c.withCache cache).pick clock phrases (.named value) locale).2
    looked.result = picked.result ∧
    (∃ used template, c.Serves key none (c.settings.chain requested) used template ∧
      let shown := (c.renderer.render clock template (.named value) (some used)).2
      let shown' := ((c.withCache cache).renderer.render clock template (.named value)
        (some used)).2
      let warned (w : MissingPhrase) : List Event :=
        if used ≠ requested ∧ shown.result.isOk then warn c.settings w else []
      looked.events = shown.events ++
        warned { requested, available := c.locales, key := some key, fallback := some used } ∧
      picked.events = shown'.events ++
        warned { requested, available := phrases.keys, fallback := some used }) ∧
    (HandsOn c.settings → looked.warnings.map (fun w ↦ (w.requested, w.fallback)) =
      picked.warnings.map fun w ↦ (w.requested, w.fallback)) := by
  intro requested looked picked
  obtain ⟨used, template, hserves⟩ := h.exists_serves hmeets
  let w : MissingPhrase :=
    { requested, available := c.locales, key := some key, fallback := some used }
  let w' : MissingPhrase := { requested, available := phrases.keys, fallback := some used }
  have hlooked : looked = (c.serve clock requested used template (.named value) w).2 :=
    congrArg Prod.snd (phrase_of_serves (hcount ▸ hserves) clock)
  have hpicked : picked =
      ((c.withCache cache).serve clock requested used template (.named value) w').2 :=
    congrArg Prod.snd (pick_of_serves (c := c.withCache cache) h hne hserves clock (.named value))
  have hshown := c.result_render_withCache cache clock template (.named value) (some used)
  refine ⟨?_, ⟨used, template, hserves, ?_, ?_⟩, fun hhands ↦ ?_⟩
  · rw [hlooked, hpicked, serve_eq, serve_eq]
    dsimp only
    rw [hshown]
    rfl
  · rw [hlooked, serve_eq]
  · rw [hpicked, serve_eq]
    dsimp only
    rw [hshown]
    rfl
  · rw [hlooked, hpicked, c.warnings_serve clock requested used template (.named value) w hhands,
      (c.withCache cache).warnings_serve clock requested used template (.named value) w' hhands,
      hshown]
    split <;> rfl

/-- The phrases for things, in another order than the dictionaries. -/
def things : Table String Value :=
  [("ko", .text "\x7bcount\x7d개"), ("en", .text "\x7bcount\x7d items")]

theorem gives_things : shelf.Gives "items" things := by
  intro l
  by_cases hko : l = "ko"
  · subst hko
    rfl
  · by_cases hen : l = "en"
    · subst hen
      rfl
    · have hko := beq_false_of_ne hko
      have hen := beq_false_of_ne hen
      simp [things, dictionary?, shelf, List.lookup_cons, hko, hen]

theorem lookup_things_ne (l : String) : things.lookup l ≠ some (.text "") := by
  intro h
  have hmem : (l, Value.text "") ∈ things := Table.mem_of_lookup h
  simp [things] at hmem

/-- Without a number of them, things are shown in the parent of the locale from the dictionaries
as from the phrases that are given. -/
theorem phrase_eq_pick_things :
    let values : Values := .ofList [("count", .text "두")]
    let looked := (shelf.phrase default "items" values (some "ko-KR")).2
    let picked := ((shelf.withCache (.empty 0)).pick default things values (some "ko-KR")).2
    shelf.Gives "items" things ∧ looked.result = .ok "[ko-KR -> ko] 두개" ∧
      looked.result = picked.result ∧
      looked.warnings.map (fun w ↦ (w.requested, w.fallback)) =
        picked.warnings.map fun w ↦ (w.requested, w.fallback) := by
  intro values looked picked
  have h := phrase_eq_pick shelf (.empty 0) default "items"
    (fun name ↦ ([("count", Value.text "두")].lookup name).getD .absent) (some "ko-KR") things
    (by decide +kernel) gives_things lookup_things_ne ⟨"ko", by decide +kernel, by decide +kernel⟩
  refine ⟨gives_things, ?_, h.1, h.2.2 ⟨rfl, rfl⟩⟩
  decide +kernel

end Catalog

end Phrasebook
