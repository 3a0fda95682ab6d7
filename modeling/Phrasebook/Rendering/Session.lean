import Phrasebook.Rendering.Renderer

/-!
# Sessions

A program makes one request of a renderer after the other. Each leaves the renderer for the next
one, also where it is refused.
-/

set_option autoImplicit false

namespace Phrasebook

namespace Renderer

/-- What a program can ask of a renderer. -/
inductive Request
  | configure (changes : List Change)
  /-- Back to the settings that a renderer has unless it is told otherwise. -/
  | resetSettings
  | register (name : String) (formatter? : Option Formatter)
  | unregister (name : String)
  | clearFormatters
  | clearCache
  | tryRender (clock : Calendar.Moment) (template : String) (values : Values)
      (locale : Option String)
  | render (clock : Calendar.Moment) (template : String) (values : Values) (locale : Option String)
  | parse (template : String)

/-- What comes back. -/
inductive Reply
  | done
  | settings (settings : Settings)
  | removed (there : Bool)
  | text (answer : Answer String)
  | message (answer : Answer Message)
  | notConfigured (fault : ChangeFault)
  | notRegistered (fault : RosterFault)

/-- Whether settings or formatters were to be changed and could not be. -/
def Reply.isRefusal : Reply → Bool
  | .notConfigured _ | .notRegistered _ => true
  | _ => false

/-- The renderer after a request, and the reply. -/
def perform (r : Renderer) : Request → Renderer × Reply
  | .configure changes =>
    match r.configure changes with
    | .ok r => (r, .settings r.settings)
    | .error f => (r, .notConfigured f)
  | .resetSettings => (r.withSettings {}, .done)
  | .register name formatter? =>
    match r.register name formatter? with
    | .ok r => (r, .done)
    | .error f => (r, .notRegistered f)
  | .unregister name =>
    let (roster, there) := r.roster.unregister name
    ({ r with roster }, .removed there)
  | .clearFormatters => ({ r with roster := {} }, .done)
  | .clearCache => ({ r with cache := r.cache.clear }, .done)
  | .tryRender clock template values locale =>
    let (r, answer) := r.tryRender clock template values locale
    (r, .text answer)
  | .render clock template values locale =>
    let (r, answer) := r.render clock template values locale
    (r, .text answer)
  | .parse template =>
    let (r, answer) := r.parse template
    (r, .message answer)

/-- The renderer after several requests. -/
def serve (r : Renderer) (requests : List Request) : Renderer :=
  requests.foldl (fun r request ↦ (r.perform request).1) r

end Renderer

end Phrasebook
