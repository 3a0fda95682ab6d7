import Phrasebook.Formatter.Roster
import Phrasebook.Rendering.Scene
import Phrasebook.Rendering.Settings
import Phrasebook.Template.Shorthand

/-!
# Renderers

A renderer turns templates into texts. It has settings, formatters of the program, a cache of
messages whose bound is the one of the settings, and the data of the locales.
-/

set_option autoImplicit false

namespace Phrasebook

open Template

/-- Settings, formatters, a cache and the data of the locales. -/
structure Renderer where
  settings : Settings
  roster : Roster
  cache : MessageCache
  book : LocaleBook

namespace Renderer

/-- A renderer that has read nothing yet. -/
def ofSettings (settings : Settings) (roster : Roster) (book : LocaleBook := .tables) : Renderer :=
  ⟨settings, roster, .empty settings.cacheSize, book⟩

/-- The renderer with other settings. -/
def withSettings (r : Renderer) (settings : Settings) : Renderer :=
  { r with
    settings
    cache :=
      if settings.cacheSize = r.cache.maxSize then r.cache else r.cache.resize settings.cacheSize }

/-- Changes settings, all of them or none. -/
def configure (r : Renderer) (changes : List Change) : Except ChangeFault Renderer :=
  (r.settings.changed changes).map r.withSettings

/-- Registers a formatter. -/
def register (r : Renderer) (name : String) (formatter? : Option Formatter) :
    Except RosterFault Renderer :=
  (r.roster.register name formatter?).map fun roster ↦ { r with roster }

/-- Whether a template has to be read as a message. -/
def needsMessage (names : List String) (s : List Char) : Bool :=
  typedArgument.occursIn s || callsFormatter names s || shorthand.occursIn s

/-- The text for a missing value in a locale. -/
def missing (r : Renderer) (locale name : String) : Except CallFault String :=
  match r.settings.missingVariable with
  | some f => f name locale
  | none => .ok (inBraces name)

/-- Reads a template as a message. -/
def parse (r : Renderer) (template : String) : Renderer × Answer Message :=
  let (cache, reading) := r.cache.read template
  let events := reading.passedOver.map fun w ↦ Event.notice (.passedOver w)
  ({ r with cache }, ⟨reading.result.mapError .template, events⟩)

/-- What a template is rendered with. -/
def scene (r : Renderer) (clock : Calendar.Moment) (values : Values) (locale : String) : Scene :=
  { values, locale, clock, formatter? := r.roster.get?, book := r.book }

/-- The outline of a template with values in a locale, at a time. -/
def outline (r : Renderer) (clock : Calendar.Moment) (template : String) (values : Values)
    (locale : String) : Renderer × Answer Outline :=
  let s := template.toList
  let names := r.roster.names
  let scene := r.scene clock values locale
  if !needsMessage names s then (r, ⟨.ok (scene.simple s), []⟩)
  else
    let prepared := prepare names (spellOut s)
    let (r, parsed) := r.parse (String.ofList prepared.text)
    (r, parsed.map ({ scene with asides := prepared.asides }.message none))

/-- Renders a template with values in a locale, at a time. -/
def tryRender (r : Renderer) (clock : Calendar.Moment) (template : String) (values : Values)
    (locale : Option String) : Renderer × Answer String :=
  let locale := r.settings.localeOr locale
  let (r, answer) := r.outline clock template values locale
  match answer.result with
  | .error f => (r, ⟨.error f, answer.events⟩)
  | .ok outline => (r, (outline.fill (r.missing locale)).after answer.events)

/-- Renders a template, which is shown as it is and reported if it is no message. -/
def render (r : Renderer) (clock : Calendar.Moment) (template : String) (values : Values)
    (locale : Option String) : Renderer × Answer String :=
  let (r, answer) := r.tryRender clock template values locale
  match answer.result with
  | .error (.template (.notMessage e)) =>
    (r, ⟨.ok template, answer.events ++ [.notice (.invalidTemplate template e)]⟩)
  | _ => (r, answer)

end Renderer

end Phrasebook
