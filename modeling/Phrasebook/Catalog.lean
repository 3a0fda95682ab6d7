import Phrasebook.Dictionary.File
import Phrasebook.Rendering.Renderer

/-!
# Catalogs

A catalog holds a dictionary for each locale and renders the phrases it finds there. A phrase is
looked for along the chain of the locale that was asked for; one that comes from another locale, and
one that is nowhere, gives rise to exactly one warning.
-/

set_option autoImplicit false

namespace Phrasebook

/-- Dictionaries by locale, on a renderer. -/
structure Catalog where
  renderer : Renderer
  /-- The locale of calls that name none, unless it is left to the settings. -/
  defaultLocale : Option String := none
  dictionaries : Table String Dictionary := []

namespace Catalog

def settings (c : Catalog) : Settings :=
  c.renderer.settings

/-- The locale of calls that name none. -/
def locale (c : Catalog) : String :=
  c.settings.localeOr c.defaultLocale

/-- A locale that was named, or the one of calls that name none. -/
def localeOr (c : Catalog) (locale : Option String) : String :=
  match locale with
  | some s => if s = "" then c.locale else s
  | none => c.locale

/-- The locales that have a dictionary, in the order in which they got one. -/
def locales (c : Catalog) : List String :=
  c.dictionaries.keys

def dictionary? (c : Catalog) (locale : String) : Option Dictionary :=
  c.dictionaries.lookup locale

/-- Merges a dictionary into the one of a locale. -/
def load (c : Catalog) (locale : String) (d : Dictionary) : Catalog :=
  let merged := Dictionary.merge ((c.dictionary? locale).getD []) d
  { c with dictionaries := c.dictionaries.put locale merged }

/-- Loads what should be a dictionary. -/
def loadEntry (c : Catalog) (locale : String) : Entry → Except LoadFault Catalog
  | .branch d => .ok (c.load locale d)
  | _ => .error .notADictionary

/-- Loads dictionaries one after the other, up to the first one that is none. -/
def loadAll (c : Catalog) : List (String × Entry) → Catalog × Option LoadFault
  | [] => (c, none)
  | (locale, e) :: rest =>
    match c.loadEntry locale e with
    | .ok c => loadAll c rest
    | .error f => (c, some f)

/-- Loads a file. -/
def loadFile (c : Catalog) (files : Files) (name locale : String) : Except LoadFault Catalog := do
  c.loadEntry locale (← files.load name)

/-- A new catalog. A dictionary that it is given, or the one in a file that it is given the name of,
is for the locale of calls that name none. Anything else is passed over. -/
def start (renderer : Renderer) (defaultLocale : Option String) (files : Files) (given : Entry) :
    Except LoadFault Catalog :=
  let c : Catalog := { renderer, defaultLocale }
  match given with
  | .text name => c.loadFile files (Files.plainName name) c.locale
  | .branch d => .ok (c.load c.locale d)
  | _ => .ok c

/-- Loads files for locales. All of them are read before any is merged. A number of workers, if
there is one, must not be zero or less. -/
def loadFiles (c : Catalog) (files : Files) (names : List (String × String))
    (workers : Option Int) : Catalog × Option LoadFault :=
  if workers.any (· ≤ 0) then (c, some .noWorkers)
  else
    match names.mapM fun n ↦ (files.load n.1).map fun e ↦ (n.2, e) with
    | .ok entries => c.loadAll entries
    | .error f => (c, some f)

/-- The catalog without its dictionaries. -/
def clear (c : Catalog) : Catalog :=
  { c with dictionaries := [] }

/-- Whether a locale itself has a phrase under a key. -/
def hasPhrase (c : Catalog) (key : String) (locale : Option String) : Bool :=
  ((c.dictionary? (c.localeOr locale)).bind fun d ↦ d.phrase? key).isSome

/-- The template under a key in a dictionary. If the values have a count, the key for its plural
category comes first. -/
def template? (d : Dictionary) (key : String) (values : Values) (locale : String)
    (book : LocaleBook) : Except Fault (Option String) :=
  match values with
  | .nameless => .error (.misuse .namelessValues)
  | .named value =>
    match (value "count").number? with
    | none => .ok (d.phrase? key)
    | some count =>
      ((Plural.ofNumber count locale .cardinal book).mapError .number).map fun category ↦
        (d.phrase? (key ++ "_" ++ category.word)).or (d.phrase? key)

/-- The first locale of a chain with a template under the key, and the template. -/
def find? (c : Catalog) (key : String) (values : Values) :
    List String → Except Fault (Option (String × String))
  | [] => .ok none
  | locale :: chain =>
    match c.dictionary? locale with
    | none => find? c key values chain
    | some d =>
      match template? d key values locale c.renderer.book with
      | .error f => .error f
      | .ok (some template) => .ok (some (locale, template))
      | .ok none => find? c key values chain

/-- What a warning leads to. A handler that fails is reported. -/
def warn (settings : Settings) (w : MissingPhrase) : List Event :=
  match settings.onMissing with
  | none => []
  | some handler =>
    if !settings.warnOnMissing then []
    else
      match handler w with
      | .ok events => events
      | .error f => [.notice (.handlerFailed f.text)]

/-- Renders a template found for `used` when `requested` was asked for: if the two differ there is a
warning, and a mark while debugging. -/
def serve (c : Catalog) (clock : Calendar.Moment) (requested used template : String)
    (values : Values) (warning : MissingPhrase) : Catalog × Answer String :=
  let (renderer, answer) := c.renderer.render clock template values (some used)
  let c := { c with renderer }
  match answer.result with
  | .error _ => (c, answer)
  | .ok text =>
    if used = requested then (c, answer)
    else
      let text := if c.settings.debug then c.settings.fallbackMark requested used ++ text else text
      (c, ⟨.ok text, answer.events ++ warn c.settings warning⟩)

/-- The phrase under a key, or the key itself if there is none. -/
def phrase (c : Catalog) (clock : Calendar.Moment) (key : String) (values : Values)
    (locale : Option String) : Catalog × Answer String :=
  let requested := c.localeOr locale
  match c.find? key values (c.settings.chain requested) with
  | .error f => (c, ⟨.error f, []⟩)
  | .ok (some (used, template)) =>
    c.serve clock requested used template values
      { requested, available := c.locales, key := some key, fallback := some used }
  | .ok none =>
    let text := if c.settings.debug then c.settings.missingMark requested ++ key else key
    (c, ⟨.ok text, warn c.settings { requested, available := c.locales, key := some key }⟩)

/-- The first locale of a chain whose phrase does not count as nothing, or else the first locale
with a phrase at all. -/
def choose (chain : List String) (first : String × Value) (phrases : Table String Value) :
    String × Value :=
  let found := chain.findSome? fun candidate ↦
    ((phrases.lookup candidate).filter fun phrase ↦ !phrase.isNothing).map (candidate, ·)
  found.getD first

/-- One of several phrases given on the spot: the first of the chain that is there and not empty, or
else the first one given. Only the one that is chosen has to be a text. -/
def pick (c : Catalog) (clock : Calendar.Moment) (phrases : Table String Value)
    (values : Values) (locale : Option String) : Catalog × Answer String :=
  let requested := c.localeOr locale
  match phrases with
  | [] => (c, ⟨.error (.noPhrase requested), []⟩)
  | first :: _ =>
    match choose (c.settings.chain requested) first phrases with
    | (used, .text template) =>
      c.serve clock requested used template values
        { requested, available := phrases.keys, fallback := some used }
    | _ => (c, ⟨.error (.misuse .phraseWithoutText), []⟩)

/-- Two phrases given on the spot, by locale. Of two for one locale the second counts. -/
def twoPhrases (first second : String × Value) : Table String Value :=
  Table.ofPairs [first, second]

/-- The name of the short form for two locales. -/
def pairName (first second : String) : String :=
  first ++ "_" ++ second

end Catalog

end Phrasebook
