import Phrasebook.Catalog
import Phrasebook.Proofs.NumberFaults
import Phrasebook.Proofs.Sessions

/-!
Which phrase is served, and from which locale.

A key leads to the first text along the chain of the locale that was asked for, where a locale with
a text for the plural category of the count gives that one before the one under the key itself
(`Catalog.Serves`). There is such a text, or a count without a category stops the search for one, or
there is none (`Catalog.search_cases`). Serving a text renders it, and adds a mark and a warning if
it comes from another locale (`Catalog.serve_eq`).
-/

set_option autoImplicit false

namespace Phrasebook

/-- The warning that an event hands to the program. -/
def Event.warning? : Event → Option MissingPhrase
  | .warning w => some w
  | .notice _ => none

/-- The warnings that a call hands to the program. -/
def Answer.warnings {α : Type} (a : Answer α) : List MissingPhrase :=
  a.events.filterMap Event.warning?

/-! ### Rendering gives no warnings -/

/-- Nothing is handed to the program but lines for the log. -/
def OnlyNotices (events : List Event) : Prop :=
  ∀ e ∈ events, e.warning? = none

section OnlyNotices

variable {events more : List Event}

theorem OnlyNotices.nil : OnlyNotices [] :=
  fun _ h ↦ absurd h List.not_mem_nil

theorem OnlyNotices.append (h : OnlyNotices events) (hmore : OnlyNotices more) :
    OnlyNotices (events ++ more) := by
  intro e he
  rcases List.mem_append.1 he with he | he
  · exact h e he
  · exact hmore e he

theorem onlyNotices_notice (n : Notice) : OnlyNotices [.notice n] := by
  intro e he
  rw [List.mem_singleton.1 he]
  rfl

theorem OnlyNotices.filterMap (h : OnlyNotices events) : events.filterMap Event.warning? = [] :=
  List.filterMap_eq_nil_iff.2 h

end OnlyNotices

theorem onlyNotices_fill (missing : String → Except CallFault String) (o : Outline) :
    OnlyNotices (o.fill missing).events := by
  induction o with
  | nil => exact .nil
  | cons segment o ih =>
    cases segment with
    | text origin s => exact ih
    | hole name =>
      rw [Outline.fill]
      split
      · exact ih
      · exact .nil
    | notice n => exact (onlyNotices_notice n).append ih
    | fault f => exact .nil

namespace Renderer

variable (r : Renderer) (clock : Calendar.Moment) (template : String) (values : Values)

theorem onlyNotices_outline (locale : String) :
    OnlyNotices (r.outline clock template values locale).2.events := by
  unfold outline
  dsimp only
  split
  · exact .nil
  · intro e he
    obtain ⟨w, -, rfl⟩ := List.mem_map.1 he
    rfl

theorem onlyNotices_tryRender (locale : Option String) :
    OnlyNotices (r.tryRender clock template values locale).2.events := by
  have h := r.onlyNotices_outline clock template values (r.settings.localeOr locale)
  unfold tryRender
  dsimp only
  split
  · exact h
  · exact h.append (onlyNotices_fill _ _)

theorem onlyNotices_render (locale : Option String) :
    OnlyNotices (r.render clock template values locale).2.events := by
  have h := r.onlyNotices_tryRender clock template values locale
  unfold render
  dsimp only
  split
  · exact h.append (onlyNotices_notice _)
  · exact h

end Renderer

namespace Catalog

/-! ### The text of a locale -/

/-- The text that a locale has under a key. If there is a count, the text for its plural category
comes before the one under the key itself; a count need not have a category. -/
def textIn? (c : Catalog) (key : String) (count : Option Number) (locale : String) :
    Except Number.Fault (Option String) :=
  match c.dictionary? locale with
  | none => .ok none
  | some d =>
    match count with
    | none => .ok (d.phrase? key)
    | some n => (Plural.ofNumber n locale .cardinal c.renderer.book).map fun category ↦
      (d.phrase? (key ++ "_" ++ category.word)).or (d.phrase? key)

/-- No locale of the chain before this one has a text. -/
def Tries (c : Catalog) (key : String) (count : Option Number) (chain : List String)
    (locale : String) : Prop :=
  ∃ before after, chain = before ++ locale :: after ∧
    ∀ l ∈ before, c.textIn? key count l = .ok none

/-- The first text along the chain is this one, and this locale has it. -/
def Serves (c : Catalog) (key : String) (count : Option Number) (chain : List String)
    (locale template : String) : Prop :=
  c.Tries key count chain locale ∧ c.textIn? key count locale = .ok (some template)

/-- Before there is a text, a locale is tried where the count has no plural category. -/
def Stops (c : Catalog) (key : String) (count : Option Number) (chain : List String)
    (fault : Number.Fault) : Prop :=
  ∃ locale, c.Tries key count chain locale ∧ c.textIn? key count locale = .error fault

section Find

variable {c : Catalog} {key : String} {count : Option Number} {chain : List String}
  {value : String → Value}

theorem Tries.cons {locale l : String} (hnone : c.textIn? key count locale = .ok none)
    (h : c.Tries key count chain l) : c.Tries key count (locale :: chain) l := by
  obtain ⟨before, after, rfl, hbefore⟩ := h
  exact ⟨locale :: before, after, rfl, List.forall_mem_cons.2 ⟨hnone, hbefore⟩⟩

/-- Along a chain there is a first text, or the count stops the search for one, or there is
none. -/
theorem search_cases (c : Catalog) (key : String) (count : Option Number) (chain : List String) :
    (∃ used template, c.Serves key count chain used template) ∨
      (∃ fault, c.Stops key count chain fault) ∨ ∀ l ∈ chain, c.textIn? key count l = .ok none := by
  induction chain with
  | nil => exact .inr (.inr (by simp))
  | cons locale chain ih =>
    have hfirst : c.Tries key count (locale :: chain) locale := ⟨[], chain, rfl, by simp⟩
    cases htext : c.textIn? key count locale with
    | error f => exact .inr (.inl ⟨f, locale, hfirst, htext⟩)
    | ok template? =>
      cases template? with
      | some template => exact .inl ⟨locale, template, hfirst, htext⟩
      | none =>
        rcases ih with ⟨used, template, htries, hused⟩ | ⟨f, l, htries, hl⟩ | hnone
        · exact .inl ⟨used, template, htries.cons htext, hused⟩
        · exact .inr (.inl ⟨f, l, htries.cons htext, hl⟩)
        · exact .inr (.inr (List.forall_mem_cons.2 ⟨htext, hnone⟩))

theorem textIn?_none (c : Catalog) (key locale : String) :
    c.textIn? key none locale = .ok ((c.dictionary? locale).bind fun d ↦ d.phrase? key) := by
  rw [textIn?]
  cases c.dictionary? locale <;> rfl

/-- Without a count nothing stops the search. -/
theorem not_stops_none (fault : Number.Fault) : ¬ c.Stops key none chain fault := by
  rintro ⟨l, -, hl⟩
  rw [textIn?_none] at hl
  cases hl

/-- What a dictionary has under a key is the text of its locale. -/
theorem template?_eq {d : Dictionary} {locale : String} (hd : c.dictionary? locale = some d) :
    template? d key (.named value) locale c.renderer.book =
      (c.textIn? key (value "count").number? locale).mapError .number := by
  rw [textIn?, hd, template?]
  cases (value "count").number? with
  | none => rfl
  | some n =>
    dsimp only
    cases Plural.ofNumber n locale .cardinal c.renderer.book <;> rfl

theorem find?_cons (locale : String) (chain : List String) :
    c.find? key (.named value) (locale :: chain) =
      match c.textIn? key (value "count").number? locale with
      | .error f => .error (.number f)
      | .ok (some template) => .ok (some (locale, template))
      | .ok none => c.find? key (.named value) chain := by
  rw [find?]
  cases hd : c.dictionary? locale with
  | none => simp [textIn?, hd]
  | some d =>
    dsimp only
    rw [template?_eq hd]
    rcases c.textIn? key (value "count").number? locale with f | template | template <;> rfl

/-- Locales without a text are passed over. -/
theorem find?_append {before : List String} (rest : List String)
    (h : ∀ l ∈ before, c.textIn? key (value "count").number? l = .ok none) :
    c.find? key (.named value) (before ++ rest) = c.find? key (.named value) rest := by
  induction before with
  | nil => rfl
  | cons l before ih =>
    obtain ⟨hl, hbefore⟩ := List.forall_mem_cons.1 h
    rw [List.cons_append, find?_cons, hl]
    exact ih hbefore

theorem Serves.find?_eq {used template : String}
    (h : c.Serves key (value "count").number? chain used template) :
    c.find? key (.named value) chain = .ok (some (used, template)) := by
  obtain ⟨⟨before, after, rfl, hbefore⟩, htext⟩ := h
  rw [find?_append _ hbefore, find?_cons, htext]

theorem Stops.find?_eq {fault : Number.Fault}
    (h : c.Stops key (value "count").number? chain fault) :
    c.find? key (.named value) chain = .error (.number fault) := by
  obtain ⟨locale, ⟨before, after, rfl, hbefore⟩, htext⟩ := h
  rw [find?_append _ hbefore, find?_cons, htext]

theorem find?_eq_none (h : ∀ l ∈ chain, c.textIn? key (value "count").number? l = .ok none) :
    c.find? key (.named value) chain = .ok none := by
  have hfind := find?_append [] h
  rwa [List.append_nil] at hfind

end Find

/-! ### Serving a text -/

section Serve

variable (c : Catalog) (clock : Calendar.Moment) (requested used template : String)
  (values : Values) (w : MissingPhrase)

/-- A text as it is shown: with a mark while debugging, if it comes from another locale. -/
def marked (settings : Settings) (requested used text : String) : String :=
  if used ≠ requested ∧ settings.debug then settings.fallbackMark requested used ++ text else text

/-- The text is rendered and marked. If it comes from another locale there is one warning, unless
rendering fails. -/
theorem serve_eq :
    let shown := (c.renderer.render clock template values (some used)).2
    (c.serve clock requested used template values w).2 =
      ⟨shown.result.map (marked c.settings requested used), shown.events ++
        if used ≠ requested ∧ shown.result.isOk then warn c.settings w else []⟩ := by
  have hsettings := (c.renderer.alike_render clock template values (some used)).settings
  rcases hrender : c.renderer.render clock template values (some used) with ⟨r, result, events⟩
  replace hsettings : r.settings = c.renderer.settings := by rwa [hrender] at hsettings
  cases result with
  | error f => simp [serve, hrender, Except.map, Except.isOk, Except.toBool]
  | ok text =>
    by_cases hused : used = requested
    · subst hused
      simp [serve, hrender, Except.map, marked]
    · simp [serve, hrender, Except.map, Except.isOk, Except.toBool, marked, hused, settings,
        hsettings]

end Serve

/-! ### Warnings -/

/-- Warnings are on, and the program has them handed to it. -/
structure HandsOn (settings : Settings) : Prop where
  on : settings.warnOnMissing = true
  handler : settings.onMissing = some fun w ↦ .ok [.warning w]

theorem warn_of_handsOn {settings : Settings} (h : HandsOn settings) (w : MissingPhrase) :
    warn settings w = [.warning w] := by
  simp [warn, h.on, h.handler]

/-- A program that has warnings handed to it gets at most one of them. -/
theorem warnings_serve (c : Catalog) (clock : Calendar.Moment) (requested used template : String)
    (values : Values) (w : MissingPhrase) (h : HandsOn c.settings) :
    (c.serve clock requested used template values w).2.warnings =
      if used ≠ requested ∧ (c.renderer.render clock template values (some used)).2.result.isOk then
        [w]
      else [] := by
  have hshown := (c.renderer.onlyNotices_render clock template values (some used)).filterMap
  rw [Answer.warnings, serve_eq, List.filterMap_append, hshown, warn_of_handsOn h, List.nil_append]
  split <;> rfl

/-- The catalog with another way to deal with warnings. -/
def withHandler (c : Catalog) (on : Bool)
    (handler : Option (MissingPhrase → Except CallFault (List Event))) : Catalog :=
  { c with renderer := { c.renderer with
      settings := { c.settings with warnOnMissing := on, onMissing := handler } } }

section Handler

variable (c : Catalog) (on : Bool)
  (handler : Option (MissingPhrase → Except CallFault (List Event)))

theorem find?_withHandler (key : String) (values : Values) (chain : List String) :
    (c.withHandler on handler).find? key values chain = c.find? key values chain := by
  induction chain with
  | nil => rfl
  | cons locale chain ih =>
    rw [find?, find?, ih]
    rfl

theorem result_render_withHandler (clock : Calendar.Moment) (template : String) (values : Values)
    (locale : Option String) :
    ((c.withHandler on handler).renderer.render clock template values locale).2.result =
      (c.renderer.render clock template values locale).2.result := by
  simp only [Renderer.result_render, Renderer.result_tryRender, Renderer.result_outline]
  rfl

/-- What is shown does not depend on what happens to warnings. -/
theorem result_phrase_withHandler (clock : Calendar.Moment) (key : String) (values : Values)
    (locale : Option String) :
    ((c.withHandler on handler).phrase clock key values locale).2.result =
      (c.phrase clock key values locale).2.result := by
  have hfind := c.find?_withHandler on handler key values (c.settings.chain (c.localeOr locale))
  have hchain : (c.withHandler on handler).settings.chain
      ((c.withHandler on handler).localeOr locale) = c.settings.chain (c.localeOr locale) := rfl
  rw [phrase, phrase, hchain, hfind]
  cases c.find? key values (c.settings.chain (c.localeOr locale)) with
  | error f => rfl
  | ok found =>
    cases found with
    | none => rfl
    | some found =>
      dsimp only
      rw [serve_eq, serve_eq]
      dsimp only
      rw [result_render_withHandler]
      rfl

end Handler

/-! ### Phrases -/

/-- A chain begins with the locale it is for. -/
theorem exists_chain_eq_cons (settings : Settings) (locale : String) :
    ∃ rest, settings.chain locale = locale :: rest := by
  unfold Settings.chain
  split
  · exact ⟨_, rfl⟩
  · dsimp only
    split
    · split
      · exact ⟨_, rfl⟩
      · exact ⟨_, rfl⟩
    · exact ⟨_, rfl⟩

section Phrase

variable {c : Catalog} {key : String} {value : String → Value} {locale : Option String}

/-- The first text along the chain is served. -/
theorem phrase_of_serves {used template : String}
    (h : c.Serves key (value "count").number? (c.settings.chain (c.localeOr locale)) used template)
    (clock : Calendar.Moment) :
    c.phrase clock key (.named value) locale =
      c.serve clock (c.localeOr locale) used template (.named value)
        { requested := c.localeOr locale, available := c.locales, key := some key,
          fallback := some used } := by
  simp only [phrase, h.find?_eq]

theorem phrase_of_stops {fault : Number.Fault}
    (h : c.Stops key (value "count").number? (c.settings.chain (c.localeOr locale)) fault)
    (clock : Calendar.Moment) :
    c.phrase clock key (.named value) locale = (c, ⟨.error (.number fault), []⟩) := by
  simp only [phrase, h.find?_eq]

theorem phrase_of_none
    (h : ∀ l ∈ c.settings.chain (c.localeOr locale),
      c.textIn? key (value "count").number? l = .ok none) (clock : Calendar.Moment) :
    (c.phrase clock key (.named value) locale).2 =
      ⟨.ok (if c.settings.debug then c.settings.missingMark (c.localeOr locale) ++ key else key),
        warn c.settings
          { requested := c.localeOr locale, available := c.locales, key := some key }⟩ := by
  simp only [phrase, find?_eq_none h]

end Phrase

/-- A key is answered with the first text along the chain of the locale that was asked for: rendered
for its locale, and with a mark and one warning if that is another locale and rendering does not
fail. A count that has no plural category where one is needed fails. Without a text the answer is
the key, with one warning. What is shown does not depend on what happens to warnings. Without a
count, the locale itself serves the key just if it has a phrase. -/
theorem phrase_eq_first (c : Catalog) (clock : Calendar.Moment) (key : String)
    (value : String → Value) (locale : Option String) :
    let requested := c.localeOr locale
    let count := (value "count").number?
    let chain := c.settings.chain requested
    let answer := (c.phrase clock key (.named value) locale).2
    (∀ used template, c.Serves key count chain used template →
      let shown := (c.renderer.render clock template (.named value) (some used)).2
      let w : MissingPhrase :=
        { requested, available := c.locales, key := some key, fallback := some used }
      answer.result = shown.result.map (fun text ↦
        if used ≠ requested ∧ c.settings.debug then c.settings.fallbackMark requested used ++ text
        else text) ∧
      answer.events = shown.events ++
        (if used ≠ requested ∧ shown.result.isOk then warn c.settings w else []) ∧
      (HandsOn c.settings →
        answer.warnings = if used ≠ requested ∧ shown.result.isOk then [w] else [])) ∧
    (∀ fault, c.Stops key count chain fault →
      answer.result = .error (.number fault) ∧ answer.events = []) ∧
    ((∀ used template, ¬ c.Serves key count chain used template) →
      (∀ fault, ¬ c.Stops key count chain fault) →
      let w : MissingPhrase := { requested, available := c.locales, key := some key }
      answer.result =
        .ok (if c.settings.debug then c.settings.missingMark requested ++ key else key) ∧
      answer.events = warn c.settings w ∧ (HandsOn c.settings → answer.warnings = [w])) ∧
    (∀ on handler, ((c.withHandler on handler).phrase clock key (.named value) locale).2.result =
      answer.result) ∧
    (count = none →
      ((∃ template, c.Serves key count chain requested template) ↔ c.hasPhrase key locale)) := by
  intro requested count chain answer
  refine ⟨fun used template hserves ↦ ?_, fun fault hstops ↦ ?_, fun hserves hstops ↦ ?_,
    fun on handler ↦ c.result_phrase_withHandler on handler clock key (.named value) locale,
    fun hcount ↦ ?_⟩
  · intro shown w
    have hanswer : answer = (c.serve clock requested used template (.named value) w).2 :=
      congrArg Prod.snd (phrase_of_serves hserves clock)
    refine ⟨?_, ?_, fun hhands ↦ ?_⟩
    · rw [hanswer, serve_eq]
      rfl
    · rw [hanswer, serve_eq]
    · rw [hanswer, c.warnings_serve clock requested used template (.named value) w hhands]
  · have hanswer : answer = ⟨.error (.number fault), []⟩ :=
      congrArg Prod.snd (phrase_of_stops hstops clock)
    rw [hanswer]
    exact ⟨rfl, rfl⟩
  · intro w
    have hnone : ∀ l ∈ chain, c.textIn? key count l = .ok none := by
      rcases c.search_cases key count chain with ⟨used, template, h⟩ | ⟨fault, h⟩ | h
      · exact absurd h (hserves used template)
      · exact absurd h (hstops fault)
      · exact h
    have hanswer : answer = ⟨.ok (if c.settings.debug then c.settings.missingMark requested ++ key
        else key), warn c.settings w⟩ := phrase_of_none hnone clock
    rw [hanswer]
    refine ⟨rfl, rfl, fun hhands ↦ ?_⟩
    rw [Answer.warnings, warn_of_handsOn hhands]
    rfl
  · obtain ⟨rest, hrest⟩ := exists_chain_eq_cons c.settings requested
    have htext : c.textIn? key count requested =
        .ok ((c.dictionary? requested).bind fun d ↦ d.phrase? key) := by
      rw [hcount, textIn?_none]
    rw [hasPhrase, Option.isSome_iff_exists]
    refine exists_congr fun template ↦ ⟨fun h ↦ ?_, fun h ↦ ⟨⟨[], rest, hrest, by simp⟩, ?_⟩⟩
    · exact Except.ok.inj (htext.symm.trans h.2)
    · exact htext.trans (congrArg _ h)

/-- A catalog in two locales, with marks, whose program is handed the warnings. -/
def shelf : Catalog where
  renderer := .ofSettings { debug := true, onMissing := some fun w ↦ .ok [.warning w] } {}
  dictionaries := [
    ("en", [(.text "items", .text "\x7bcount\x7d items"),
      (.text "items_one", .text "\x7bcount\x7d item"), (.text "farewell", .text "Goodbye")]),
    ("ko", [(.text "items", .text "\x7bcount\x7d개")])]

theorem serves_shelf :
    shelf.Serves "items" (some (.integer 1)) ["ko-KR", "ko", "en"] "ko" "\x7bcount\x7d개" := by
  refine ⟨⟨["ko-KR"], ["en"], rfl, List.forall_mem_singleton.2 rfl⟩, ?_⟩
  obtain ⟨p, hp⟩ : ∃ p,
      Plural.ofNumber (.integer 1) "ko" .cardinal shelf.renderer.book = .ok p := by
    rcases Plural.ofNumber_integer 1 "ko" .cardinal shelf.renderer.book with ⟨hlarge, -⟩ | ⟨-, h⟩
    · exact absurd hlarge (by decide +kernel)
    · exact h
  have hnone : Dictionary.phrase? [(.text "items", .text "\x7bcount\x7d개")]
      ("items_" ++ p.word) = none := by
    cases p <;> decide +kernel
  have hd : shelf.dictionary? "ko" = some [(.text "items", .text "\x7bcount\x7d개")] := rfl
  rw [textIn?, hd]
  dsimp only
  rw [hp, Except.map]
  exact congrArg (fun text? : Option String ↦ Except.ok (text?.or _)) hnone

theorem stops_shelf {n : Int} (h : Binary64.bound ≤ n.natAbs) :
    shelf.Stops "items" (some (.integer n)) ["ko-KR", "ko", "en"] .tooLarge := by
  refine ⟨"ko", ⟨["ko-KR"], ["en"], rfl, List.forall_mem_singleton.2 rfl⟩, ?_⟩
  have hd : shelf.dictionary? "ko" = some [(.text "items", .text "\x7bcount\x7d개")] := rfl
  have hlarge : Plural.ofNumber (.integer n) "ko" .cardinal shelf.renderer.book =
      .error .tooLarge := by
    rcases Plural.ofNumber_integer n "ko" .cardinal shelf.renderer.book with ⟨-, h⟩ | ⟨hsmall, -⟩
    · exact h
    · exact absurd h (Nat.not_le.2 hsmall)
  rw [textIn?, hd]
  dsimp only
  rw [hlarge, Except.map]

/-- A text for any number in the parent of the locale comes before one for the plural category in
the last resort, and it is shown with a mark and a warning. Too many things are not shown at all. -/
theorem phrase_eq_first_shelf :
    let answer := (shelf.phrase default "items" (.ofList [("count", .number (.integer 1))])
      (some "ko-KR")).2
    shelf.Serves "items" (some (.integer 1)) ["ko-KR", "ko", "en"] "ko" "\x7bcount\x7d개" ∧
      answer.result = .ok "[ko-KR -> ko] 1개" ∧
      answer.warnings =
        [{ requested := "ko-KR", available := ["en", "ko"], key := some "items",
           fallback := some "ko" }] ∧
      (∃ n, (shelf.phrase default "items" (.ofList [("count", .number (.integer n))])
        (some "ko-KR")).2.result = .error (.number .tooLarge)) ∧
      ((∃ template, shelf.Serves "farewell" none ["ko-KR", "ko", "en"] "ko-KR" template) ↔
        shelf.hasPhrase "farewell" (some "ko-KR")) := by
  intro answer
  have hrendered : (shelf.renderer.render default "\x7bcount\x7d개"
      (.ofList [("count", .number (.integer 1))]) (some "ko")).2.result = .ok "1개" := by
    decide +kernel
  have hok : (shelf.renderer.render default "\x7bcount\x7d개"
      (.ofList [("count", .number (.integer 1))]) (some "ko")).2.result.isOk := by
    rw [hrendered]
    rfl
  obtain ⟨hfirst, -⟩ := phrase_eq_first shelf default "items"
    (fun name ↦ ([("count", Value.number (.integer 1))].lookup name).getD .absent) (some "ko-KR")
  obtain ⟨hresult, -, hwarnings⟩ := hfirst "ko" _ serves_shelf
  obtain ⟨n, hlarge⟩ : ∃ n : Int, Binary64.bound ≤ n.natAbs := ⟨Binary64.bound, le_refl _⟩
  obtain ⟨-, hstops, -⟩ := phrase_eq_first shelf default "items"
    (fun name ↦ ([("count", Value.number (.integer n))].lookup name).getD .absent) (some "ko-KR")
  obtain ⟨-, -, -, -, hlocale⟩ := phrase_eq_first shelf default "farewell" (fun _ ↦ .absent)
    (some "ko-KR")
  refine ⟨serves_shelf, hresult.trans ?_, (hwarnings ⟨rfl, rfl⟩).trans ?_,
    ⟨n, (hstops .tooLarge (stops_shelf hlarge)).1⟩, hlocale rfl⟩
  · exact (congrArg _ hrendered).trans (by decide +kernel)
  · exact if_pos ⟨by decide, hok⟩

/-- The catalog whose warnings are off. -/
def quietShelf : Catalog :=
  shelf.withHandler false (some fun w ↦ .ok [.warning w])

/-- With warnings off, a phrase from another locale is shown without one. -/
theorem phrase_quietShelf :
    let answer := (quietShelf.phrase default "farewell" (.ofList []) (some "ko-KR")).2
    quietShelf.Serves "farewell" none ["ko-KR", "ko", "en"] "en" "Goodbye" ∧
      answer.result = .ok "[ko-KR -> en] Goodbye" ∧ answer.events = [] := by
  refine ⟨⟨⟨["ko-KR", "ko"], [], rfl, ?_⟩, ?_⟩, ?_, ?_⟩ <;> decide +kernel

end Catalog

end Phrasebook
