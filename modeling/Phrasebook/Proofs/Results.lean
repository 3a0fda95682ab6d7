import Phrasebook.Rendering.Renderer

/-!
What a renderer gives, without its cache.

A cache holds under a template what reading the template gives, so the result of rendering does not
depend on what the renderer has read before.
-/

set_option autoImplicit false

namespace Phrasebook

open Template

/-- What a cache gives for a template is what reading it gives. -/
theorem MessageCache.result_read (c : MessageCache) (template : String) :
    (c.read template).2.result = Message.parse template := by
  unfold read
  split
  · rename_i message hmessage
    exact (c.faithful (template, message) (Table.mem_of_lookup hmessage)).symm
  · dsimp only
    split <;> rfl

@[simp]
theorem MessageCache.maxSize_read (c : MessageCache) (template : String) :
    (c.read template).1.maxSize = c.maxSize := by
  unfold read
  split
  · rfl
  · dsimp only
    split
    · unfold insert
      split <;> rfl
    · rfl

/-- The scene with other arguments put aside. -/
def Scene.withAsides (scene : Scene) (asides : Asides) : Scene :=
  { scene with asides }

namespace Renderer

theorem result_parse (r : Renderer) (template : String) :
    (r.parse template).2.result = (Message.parse template).mapError .template := by
  rw [← r.cache.result_read]
  rfl

theorem settings_parse (r : Renderer) (template : String) :
    (r.parse template).1.settings = r.settings :=
  rfl

theorem missing_of_none {r : Renderer} (h : r.settings.missingVariable = none)
    (locale name : String) : r.missing locale name = .ok (inBraces name) := by
  rw [missing, h]

/-- A template with its plurals written out and its arguments beyond the message format put
aside. -/
def prepared (r : Renderer) (template : String) : Prepared :=
  prepare r.roster.names (spellOut template.toList)

variable (r : Renderer) (clock : Calendar.Moment) (template : String) (values : Values)

/-- The outline of a template: the one of its message, or of its plain variables. -/
theorem result_outline (locale : String) :
    (r.outline clock template values locale).2.result =
      if needsMessage r.roster.names template.toList then
        ((Message.parse (String.ofList (r.prepared template).text)).mapError .template).map
          (((r.scene clock values locale).withAsides (r.prepared template).asides).message none)
      else .ok ((r.scene clock values locale).simple template.toList) := by
  cases h : needsMessage r.roster.names template.toList with
  | false => simp [outline, h]
  | true => simp [outline, h, Answer.map, result_parse, prepared, Scene.withAsides]

theorem settings_outline (locale : String) :
    (r.outline clock template values locale).1.settings = r.settings := by
  cases h : needsMessage r.roster.names template.toList with
  | false => simp [outline, h]
  | true => simp [outline, h, settings_parse]

theorem missing_outline (locale : String) :
    (r.outline clock template values locale).1.missing = r.missing := by
  funext other name
  rw [missing, missing, settings_outline]

/-- Rendering fills the outline. -/
theorem result_tryRender (locale : Option String) :
    (r.tryRender clock template values locale).2.result =
      (r.outline clock template values (r.settings.localeOr locale)).2.result.bind fun o ↦
        (o.fill (r.missing (r.settings.localeOr locale))).result := by
  unfold tryRender
  cases h : (r.outline clock template values (r.settings.localeOr locale)).2.result with
  | error f =>
    simp only [h]
    rfl
  | ok o =>
    simp only [h, missing_outline]
    rfl

/-- What is shown of a template that needs to be read. -/
theorem result_tryRender_of_needsMessage {template : String}
    (h : needsMessage r.roster.names template.toList = true) (clock : Calendar.Moment)
    (values : Values) (locale : Option String) :
    (r.tryRender clock template values locale).2.result =
      (((Message.parse (String.ofList (r.prepared template).text)).mapError .template).map
        (((r.scene clock values (r.settings.localeOr locale)).withAsides
          (r.prepared template).asides).message none)).bind fun o ↦
            (o.fill (r.missing (r.settings.localeOr locale))).result := by
  rw [result_tryRender, result_outline, if_pos h]

/-- What is shown of a template that does not need to be read. -/
theorem result_tryRender_of_plain {template : String}
    (h : needsMessage r.roster.names template.toList = false) (clock : Calendar.Moment)
    (values : Values) (locale : Option String) :
    (r.tryRender clock template values locale).2.result =
      (((r.scene clock values (r.settings.localeOr locale)).simple template.toList).fill
        (r.missing (r.settings.localeOr locale))).result := by
  rw [result_tryRender, result_outline, h, if_neg Bool.false_ne_true]
  rfl

/-- Rendering a template that is no message gives the template. -/
theorem result_render (locale : Option String) :
    (r.render clock template values locale).2.result =
      match (r.tryRender clock template values locale).2.result with
      | .error (.template (.notMessage _)) => .ok template
      | result => result := by
  cases h : (r.tryRender clock template values locale).2.result with
  | error f =>
    cases f with
    | template f => cases f <;> simp [render, h]
    | _ => simp [render, h]
  | ok text => simp [render, h]

/-- Rendering shows what filling in gives. -/
theorem result_render_of_ok {clock : Calendar.Moment} {template : String} {values : Values}
    {locale : Option String} {text : String}
    (h : (r.tryRender clock template values locale).2.result = .ok text) :
    (r.render clock template values locale).2.result = .ok text := by
  rw [result_render, h]

end Renderer

end Phrasebook
