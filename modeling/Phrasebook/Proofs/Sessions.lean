import Phrasebook.Proofs.Registration
import Phrasebook.Proofs.Results
import Phrasebook.Rendering.Session

/-!
Rendering does not depend on history.

Whatever is asked of a renderer, its cache keeps the size of the settings and its roster has each
name once (`Orderly.perform`, `Orderly.serve`), and a refused request changes nothing
(`perform_of_isRefusal`). As the cache holds what reading gives, and the order of the names of
formatters does not matter, the renderer renders as a new one with its settings, formatters and
data (`serve_independent`).
-/

set_option autoImplicit false

namespace Phrasebook

open Template

namespace Renderer

/-! ### Requests one after the other -/

/-- The cache has the size of the settings, each formatter its own name, and the data of the locales
is what the renderer was given. -/
structure Orderly (book : LocaleBook) (r : Renderer) : Prop where
  cacheSize : r.cache.maxSize = r.settings.cacheSize
  distinct : r.roster.names.Nodup
  book : r.book = book

/-- A renderer with the settings, formatters and data of another one, and a cache of the same
size. -/
structure Alike (r r' : Renderer) : Prop where
  settings : r'.settings = r.settings
  roster : r'.roster = r.roster
  maxSize : r'.cache.maxSize = r.cache.maxSize
  book : r'.book = r.book

variable {book : LocaleBook}

theorem Alike.refl (r : Renderer) : r.Alike r :=
  ⟨rfl, rfl, rfl, rfl⟩

theorem Orderly.of_alike {r r' : Renderer} (h : Orderly book r) (ha : r.Alike r') :
    Orderly book r' where
  cacheSize := by rw [ha.maxSize, ha.settings, h.cacheSize]
  distinct := by rw [ha.roster]; exact h.distinct
  book := by rw [ha.book, h.book]

section Alike

variable (r : Renderer) (clock : Calendar.Moment) (template : String) (values : Values)

/-- Reading changes the cache at most. -/
theorem alike_parse : r.Alike (r.parse template).1 :=
  ⟨rfl, rfl, r.cache.maxSize_read template, rfl⟩

theorem alike_outline (locale : String) : r.Alike (r.outline clock template values locale).1 := by
  cases h : needsMessage r.roster.names template.toList with
  | false =>
    simp only [outline, h, Bool.not_false, if_true]
    exact .refl r
  | true =>
    simp only [outline, h, Bool.not_true, Bool.false_eq_true, if_false]
    exact r.alike_parse _

theorem alike_tryRender (locale : Option String) :
    r.Alike (r.tryRender clock template values locale).1 := by
  have h := r.alike_outline clock template values (r.settings.localeOr locale)
  unfold tryRender
  dsimp only
  split <;> exact h

theorem alike_render (locale : Option String) :
    r.Alike (r.render clock template values locale).1 := by
  have h := r.alike_tryRender clock template values locale
  unfold render
  dsimp only
  split <;> exact h

end Alike

theorem orderly_ofSettings (settings : Settings) (book : LocaleBook) :
    Orderly book (ofSettings settings {} book) :=
  ⟨rfl, List.nodup_nil, rfl⟩

/-- Other settings give the cache their size. -/
theorem Orderly.withSettings {r : Renderer} (h : Orderly book r) (settings : Settings) :
    Orderly book (r.withSettings settings) where
  cacheSize := by
    unfold Renderer.withSettings
    dsimp only
    split
    · rename_i hsize
      exact hsize.symm
    · rfl
  distinct := h.distinct
  book := h.book

/-- One request keeps a renderer orderly. -/
theorem Orderly.perform {r : Renderer} (h : Orderly book r) (request : Request) :
    Orderly book (r.perform request).1 := by
  cases request with
  | configure changes =>
    simp only [Renderer.perform, configure]
    cases r.settings.changed changes with
    | error f => exact h
    | ok settings => exact h.withSettings settings
  | resetSettings => exact h.withSettings {}
  | register name formatter? =>
    simp only [Renderer.perform, register]
    cases hr : r.roster.register name formatter? with
    | error f => exact h
    | ok roster => exact ⟨h.cacheSize, Roster.nodup_names_register h.distinct hr, h.book⟩
  | unregister name => exact ⟨h.cacheSize, Roster.nodup_names_unregister h.distinct name, h.book⟩
  | clearFormatters => exact ⟨h.cacheSize, List.nodup_nil, h.book⟩
  | clearCache => exact ⟨h.cacheSize, h.distinct, h.book⟩
  | tryRender clock template values locale =>
    exact h.of_alike (r.alike_tryRender clock template values locale)
  | render clock template values locale =>
    exact h.of_alike (r.alike_render clock template values locale)
  | parse template => exact h.of_alike (r.alike_parse template)

/-- Requests one after the other keep a renderer orderly. -/
theorem Orderly.serve {r : Renderer} (h : Orderly book r) (requests : List Request) :
    Orderly book (r.serve requests) := by
  induction requests generalizing r with
  | nil => exact h
  | cons request requests ih => exact ih (h.perform request)

/-- A refused request leaves settings, roster and cache as they are. -/
theorem perform_of_isRefusal {r : Renderer} {request : Request}
    (h : (r.perform request).2.isRefusal = true) : (r.perform request).1 = r := by
  cases request with
  | configure changes =>
    rw [perform] at h ⊢
    cases hr : r.configure changes with
    | error f => rfl
    | ok r' =>
      rw [hr] at h
      cases h
  | register name formatter? =>
    rw [perform] at h ⊢
    cases hr : r.register name formatter? with
    | error f => rfl
    | ok r' =>
      rw [hr] at h
      cases h
  | resetSettings | unregister | clearFormatters | clearCache | tryRender | render | parse =>
    cases h

/-! ### Rendering after requests -/

/-- What is rendered depends on the settings, on the data of the locales and on what the formatters
are, and neither on the cache nor on the order of the formatters. -/
theorem result_tryRender_congr (r r' : Renderer) (hsettings : r'.settings = r.settings)
    (hbook : r'.book = r.book) (hnames : r'.roster.names.Perm r.roster.names)
    (hget : r'.roster.get? = r.roster.get?)
    (clock : Calendar.Moment) (template : String) (values : Values) (locale : Option String) :
    (r'.tryRender clock template values locale).2.result =
      (r.tryRender clock template values locale).2.result := by
  have hneeds : needsMessage r'.roster.names template.toList =
      needsMessage r.roster.names template.toList := by
    rw [needsMessage, needsMessage, callsFormatter_perm hnames]
  have hprepared : r'.prepared template = r.prepared template :=
    prepare_perm hnames _
  have hscene (locale : String) : r'.scene clock values locale = r.scene clock values locale := by
    rw [scene, scene, hget, hbook]
  have hmissing : r'.missing = r.missing := by
    funext locale name
    rw [missing, missing, hsettings]
  rw [result_tryRender, result_tryRender, result_outline, result_outline, hneeds, hprepared,
    hsettings, hmissing, hscene]

/-- After any requests the cache has the size of the settings and holds no more messages than that,
a refused request changes nothing, and a template is rendered as by a new renderer with the present
settings and the same data, in which the present formatters are registered in any order. A renderer
that starts with formatters is one that is asked to register them first. -/
theorem serve_independent (settings : Settings) (book : LocaleBook) (requests : List Request) :
    let r := (ofSettings settings {} book).serve requests
    (r.cache.maxSize = r.settings.cacheSize ∧ r.cache.size ≤ r.settings.cacheSize) ∧
    (∀ request, (r.perform request).2.isRefusal = true → (r.perform request).1 = r) ∧
    ∀ formatters : List (String × Formatter), formatters.Perm r.roster.entries →
      ∃ roster, Roster.ofList (formatters.map fun e ↦ (e.1, some e.2)) = .ok roster ∧
        ∀ clock template values locale,
          (r.tryRender clock template values locale).2.result =
            ((ofSettings r.settings roster book).tryRender clock template values
              locale).2.result := by
  intro r
  have horderly : Orderly book r := (orderly_ofSettings settings book).serve requests
  refine ⟨⟨horderly.cacheSize, ?_⟩, fun request ↦ perform_of_isRefusal, fun formatters hp ↦ ?_⟩
  · rw [← horderly.cacheSize]
    exact r.cache.bounded
  · obtain ⟨roster, hroster, hnames, hget⟩ := Roster.exists_ofList_perm horderly.distinct hp
    refine ⟨roster, hroster, fun clock template values locale ↦ ?_⟩
    exact (result_tryRender_congr r (ofSettings r.settings roster book) rfl horderly.book.symm
      hnames hget clock template values locale).symm

/-- A loud formatter and a calm one, one's name the beginning of the other's; a smaller cache that
is filled; and two requests that are refused. -/
def twoFormatters : List Request :=
  [.register "lo" (some ⟨"calm", fun v _ _ ↦ .ok v.plainText⟩), .configure [.cacheSize 1],
    .register "loud" (some ⟨"loud", fun v _ _ ↦ .ok (v.plainText ++ "!")⟩),
    .parse "{n, number}", .register "plural" none, .configure [.debug true, .cacheSize (-1)]]

theorem names_twoFormatters :
    ((ofSettings {} {}).serve twoFormatters).roster.names = ["lo", "loud"] :=
  rfl

/-- The longer name is tried first. -/
theorem longestFirst_twoFormatters : longestFirst ["lo", "loud"] = ["loud", "lo"] := by
  have h : "lo".length < "loud".length := by decide
  simp [longestFirst, List.mergeSort, h]

theorem tryRender_twoFormatters :
    (((ofSettings {} {}).serve twoFormatters).tryRender default "{x, loud}"
      (.ofList [("x", .text "a")]) none).2.result = .ok "a!" := by
  rw [result_tryRender, result_outline]
  simp only [needsMessage, callsFormatter, prepared, prepare, customArgument, names_twoFormatters,
    longestFirst_twoFormatters]
  decide +kernel

/-- The refused requests leave the settings as they were, and the formatters may as well be
registered the other way round. -/
theorem serve_independent_twoFormatters :
    let r := (ofSettings {} {}).serve twoFormatters
    (r.perform (.configure [.cacheSize (-1)])).1 = r ∧ r.settings.cacheSize = 1 ∧
      r.cache.size = 1 ∧ r.settings.debug = false ∧
      ∃ roster, Roster.ofList (r.roster.entries.reverse.map fun e ↦ (e.1, some e.2)) = .ok roster ∧
        ((ofSettings r.settings roster).tryRender default "{x, loud}" (.ofList [("x", .text "a")])
          none).2.result = .ok "a!" := by
  intro r
  obtain ⟨-, hrefused, hfresh⟩ := serve_independent {} .tables twoFormatters
  refine ⟨hrefused (.configure [.cacheSize (-1)]) rfl, by decide +kernel, by decide +kernel,
    by decide +kernel, ?_⟩
  obtain ⟨roster, hroster, hrender⟩ := hfresh _ (List.reverse_perm r.roster.entries)
  exact ⟨roster, hroster, (hrender _ _ _ _).symm.trans tryRender_twoFormatters⟩

end Renderer

end Phrasebook
