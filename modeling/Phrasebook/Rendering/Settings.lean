import Phrasebook.Rendering.MessageCache
import Phrasebook.Notice

/-!
# Settings

The settings of a renderer and of the catalogs on it, and the chain of locales in which a phrase is
looked for: the locale itself, its parent, and the last resort.
-/

set_option autoImplicit false

namespace Phrasebook

/-- The settings. -/
structure Settings where
  /-- The locale of calls that name none. -/
  defaultLocale : String := "en"
  /-- The last resort of every chain that is not given. -/
  fallbackLocale : Option String := some "en"
  /-- Whether a locale falls back to its parent. -/
  parentLocales : Bool := true
  /-- Chains that are given, by locale. -/
  chains : List (String × List String) := []
  /-- The text for a missing value, from its name and the locale. -/
  missingVariable : Option (String → String → Except CallFault String) := none
  cacheSize : Nat := MessageCache.defaultSize
  /-- Whether phrases from another locale, and missing ones, are marked. -/
  debug : Bool := false
  /-- The mark of a missing phrase. -/
  missingMark : String → String := fun locale ↦ "[MISSING: " ++ locale ++ "] "
  /-- The mark of a phrase from another locale. -/
  fallbackMark : String → String → String :=
    fun requested used ↦ "[" ++ requested ++ " -> " ++ used ++ "] "
  warnOnMissing : Bool := true
  /-- What happens to a warning; unless the program has its own way, it is logged. -/
  onMissing : Option (MissingPhrase → Except CallFault (List Event)) :=
    some fun w ↦ .ok [.notice (.missingPhrase w)]

/-- A new value for one of the settings, or for something that is none. -/
inductive Change
  | defaultLocale (locale : String)
  | fallbackLocale (locale : Option String)
  | parentLocales (on : Bool)
  | chains (chains : List (String × List String))
  | missingVariable (handler : Option (String → String → Except CallFault String))
  | cacheSize (size : Int)
  | debug (on : Bool)
  | missingMark (mark : String → String)
  | fallbackMark (mark : String → String → String)
  | warnOnMissing (on : Bool)
  | onMissing (handler : Option (MissingPhrase → Except CallFault (List Event)))
  | unknown (name : String)

/-- Why settings are not changed. -/
inductive ChangeFault
  | unknownSetting (name : String)
  | size (fault : SizeFault)
  deriving DecidableEq, Repr

/-- The fault in words. -/
def ChangeFault.message : ChangeFault → String
  | .unknownSetting name => "There is no setting '" ++ name ++ "'"
  | .size fault => fault.message

/-- The name that is changed though there is no such setting. -/
def Change.unknown? : Change → Option String
  | .unknown name => some name
  | _ => none

namespace Settings

/-- The settings with another size of the cache, which must not be negative. -/
def withCacheSize (c : Settings) (size : Int) : Except SizeFault Settings :=
  (MessageCache.bound "parse_cache_size" size).map fun cacheSize ↦ { c with cacheSize }

/-- The settings with one of them changed. -/
def change (c : Settings) : Change → Except ChangeFault Settings
  | .defaultLocale defaultLocale => .ok { c with defaultLocale }
  | .fallbackLocale fallbackLocale => .ok { c with fallbackLocale }
  | .parentLocales parentLocales => .ok { c with parentLocales }
  | .chains chains => .ok { c with chains }
  | .missingVariable missingVariable => .ok { c with missingVariable }
  | .cacheSize size => (c.withCacheSize size).mapError .size
  | .debug debug => .ok { c with debug }
  | .missingMark missingMark => .ok { c with missingMark }
  | .fallbackMark fallbackMark => .ok { c with fallbackMark }
  | .warnOnMissing warnOnMissing => .ok { c with warnOnMissing }
  | .onMissing onMissing => .ok { c with onMissing }
  | .unknown name => .error (.unknownSetting name)

/-- The settings with all of the changes. Names of settings are looked at before their values. -/
def changed (c : Settings) (changes : List Change) : Except ChangeFault Settings :=
  match changes.findSome? Change.unknown? with
  | some name => .error (.unknownSetting name)
  | none => changes.foldlM change c

/-- A locale that was named, or the default one. An empty name is none. -/
def localeOr (c : Settings) (locale : Option String) : String :=
  match locale with
  | some s => if s = "" then c.defaultLocale else s
  | none => c.defaultLocale

/-- The parent of a locale: what stands before the first hyphen, unless that is nothing. -/
def parent? (locale : String) : Option String :=
  let s := locale.toList
  let before := s.takeWhile (· ≠ '-')
  if before.isEmpty || before.length = s.length then none else some (String.ofList before)

/-- The parent as far as it is to be tried; the settings may keep locales from falling back to
it. -/
def parents (c : Settings) (locale : String) : List String :=
  if c.parentLocales then (parent? locale).toList else []

/-- The locales to try, in order. A parent has no parent of its own, so the chain is short. -/
def chain (c : Settings) (locale : String) : List String :=
  match c.chains.lookup locale with
  | some given => locale :: given
  | none =>
    let start := locale :: c.parents locale
    match c.fallbackLocale with
    | some last => if last = "" || start.contains last then start else start ++ [last]
    | none => start

end Settings

end Phrasebook
