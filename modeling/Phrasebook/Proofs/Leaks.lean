import Phrasebook.Proofs.ClearOutlines
import Phrasebook.Proofs.ClearTemplates
import Phrasebook.Proofs.Filling
import Phrasebook.Proofs.Results

/-!
When the name of a placeholder is shown.

For a template, values and formatters without underscores every underscore of the rendered text
belongs to a placeholder. `render_hasToken_iff` says when there is one: just when the message that
is shown has a literal that is a placeholder, which is the whole text of an option, or a literal
with a placeholder in braces, which an apostrophe quotes. In every other place a placeholder is
replaced by what it stands for.
-/

set_option autoImplicit false

namespace Phrasebook

open Grammar Template Text

/-! ### Filling outlines -/

namespace Outline

variable {missing : String → Except CallFault String} {o : Outline}

/-- Filling a tidy outline meets no fault of a template. -/
theorem fill_ne_template {tokens : List String} (h : o.Tidy tokens) (e : TemplateFault) :
    (o.fill missing).result ≠ .error (.template e) := by
  induction o with
  | nil => exact fun he ↦ nomatch he
  | cons segment o ih =>
    obtain ⟨hsegment, ho⟩ := List.forall_mem_cons.1 h
    have joined (w : String) : ((fill missing o).map (w ++ ·)).result ≠ .error (.template e) := by
      intro he
      cases hrest : (fill missing o).result with
      | error f =>
        rw [Answer.map, hrest] at he
        exact ih ho (hrest.trans he)
      | ok rest =>
        rw [Answer.map, hrest] at he
        cases he
    cases segment with
    | text origin s => exact joined s
    | hole name =>
      rw [fill]
      cases missing name with
      | error f => simp
      | ok w => exact joined w
    | notice n => exact ih ho
    | fault f => exact fun he ↦ hsegment e (Except.error.inj he)

theorem mem_textsFrom {origin : Origin} {s : String} :
    s ∈ o.textsFrom origin ↔ .text origin s ∈ o := by
  rw [textsFrom, List.mem_filterMap]
  constructor
  · rintro ⟨segment, hmem, hs⟩
    cases segment with
    | text source t =>
      dsimp only at hs
      split at hs
      · rename_i horigin
        rw [← horigin, ← Option.some.inj hs]
        exact hmem
      · cases hs
    | hole | notice | fault => cases hs
  · intro hmem
    exact ⟨_, hmem, by simp⟩

end Outline

/-! ### The outlines of a renderer -/

/-- A text in which the name of a placeholder occurs. -/
def HasToken (s : List Char) : Prop :=
  ∃ t, IsToken t ∧ t.toList <:+: s

theorem HasToken.underscore_mem {s : List Char} (h : HasToken s) : '_' ∈ s := by
  obtain ⟨t, ht, hs⟩ := h
  exact hs.subset ht.underscore_mem

namespace Scene

variable {tokens : List String} {scene : Scene}

/-- A template whose arguments are plain variables is shown without placeholders. -/
theorem tidy_simple (hvalues : scene.values.Clear) {s : List Char} (hs : '_' ∉ s) :
    Outline.Tidy tokens (scene.simple s) := by
  intro segment hsegment
  obtain ⟨piece, hpiece, hsegment⟩ := List.mem_flatMap.1 hsegment
  have hclear : ∀ c ∈ s, c ≠ '_' := fun c hc he ↦ hs (he ▸ hc)
  have hpiece := Shape.satisfies_of_mem_pieces Reader.finds_plainVariable hclear piece hpiece
  cases piece with
  | char c =>
    rw [List.mem_singleton.1 hsegment]
    refine .inl (marked_of_notMem ?_)
    rw [String.toList_singleton, List.mem_singleton]
    exact Ne.symm hpiece
  | found name =>
    exact tidy_withValue hvalues (fun v hv ↦ tidy_plain (fun h ↦ hpiece _ h rfl) hv) _ hsegment

end Scene

namespace Renderer

variable {r : Renderer} {clock : Calendar.Moment} {template : String} {values : Values}
  {locale : String} {o : Outline}

theorem marked_prepared (htemplate : '_' ∉ template.toList) :
    Marked ((r.prepared template).asides.map Prod.fst) (r.prepared template).text ∧
      (∀ t ∈ (r.prepared template).asides.map Prod.fst, IsToken t) ∧
      ∀ x ∈ (r.prepared template).asides, '_' ∉ x.2.name.toList :=
  marked_prepare r.roster.braceFree_names (notMem_spellOut (by decide) htemplate)

/-- What the renderer shows of a template without underscores is tidy. -/
theorem tidy_outline (htemplate : '_' ∉ template.toList) (hvalues : values.Clear)
    (ho : (r.outline clock template values locale).2.result = .ok o) :
    o.Tidy ((r.prepared template).asides.map Prod.fst) := by
  obtain ⟨hmarked, htokens, hasides⟩ := marked_prepared htemplate (r := r)
  rw [result_outline] at ho
  split at ho
  · cases hparse : Message.parse (String.ofList (r.prepared template).text) with
    | error f =>
      rw [hparse] at ho
      cases ho
    | ok m =>
      rw [hparse] at ho
      obtain rfl := Except.ok.inj ho
      have hderived := elements_of_parse hparse
      rw [String.toList_ofList] at hderived
      exact Scene.tidy_message ⟨hvalues, hasides, rfl⟩ (by simp)
        (hderived.tidy htokens hmarked).1
  · obtain rfl := Except.ok.inj ho
    exact Scene.tidy_simple hvalues htemplate

/-- A text that is rendered is what an outline is filled to, or it is the template because there is
no outline. -/
theorem exists_of_render {locale : Option String} {text : String}
    (htemplate : '_' ∉ template.toList) (hvalues : values.Clear)
    (h : (r.render clock template values locale).2.result = .ok text) :
    (∃ o, (r.outline clock template values (r.settings.localeOr locale)).2.result = .ok o ∧
      (o.fill (r.missing (r.settings.localeOr locale))).result = .ok text) ∨
    text = template ∧
      ∀ o, (r.outline clock template values (r.settings.localeOr locale)).2.result ≠ .ok o := by
  rw [result_render, result_tryRender] at h
  cases ho : (r.outline clock template values (r.settings.localeOr locale)).2.result with
  | error f =>
    refine .inr ⟨?_, by simp⟩
    rw [ho] at h
    split at h
    · exact (Except.ok.inj h).symm
    · cases h
  | ok o =>
    refine .inl ⟨o, rfl, ?_⟩
    rw [ho] at h
    split at h
    · rename_i e hfill
      exact absurd hfill (Outline.fill_ne_template (tidy_outline htemplate hvalues ho) _)
    · exact h

/-- The name of a placeholder is shown just when a text that the author wrote is one or has one in
braces: that is, when an option of the message has nothing but the inside of an argument between its
braces, or when an apostrophe quotes an argument. -/
theorem render_hasToken_iff (r : Renderer) (clock : Calendar.Moment) (template : String)
    (values : Values) (locale : Option String) (text : String)
    (hmissing : r.settings.missingVariable = none) (htemplate : '_' ∉ template.toList)
    (hvalues : values.Clear)
    (houtput : ∀ o,
      (r.outline clock template values (r.settings.localeOr locale)).2.result = .ok o →
      ∀ s ∈ o.textsFrom .output, '_' ∉ s.toList)
    (hrender : (r.render clock template values locale).2.result = .ok text) :
    HasToken text.toList ↔
      ∃ o, (r.outline clock template values (r.settings.localeOr locale)).2.result = .ok o ∧
        ∃ s ∈ o.textsFrom .template, ∃ t ∈ (r.prepared template).asides.map Prod.fst,
          s = t ∨ '{' :: (t.toList ++ ['}']) <:+: s.toList := by
  constructor
  · intro htoken
    rcases exists_of_render htemplate hvalues hrender with ⟨o, ho, hfill⟩ | ⟨rfl, -⟩
    · refine ⟨o, ho, ?_⟩
      obtain ⟨segment, hsegment, w, hw, hunderscore⟩ :=
        Outline.exists_of_mem_fill hfill htoken.underscore_mem
      have htidy := tidy_outline htemplate hvalues ho segment hsegment
      cases segment with
      | text origin s =>
        obtain rfl : w = s := hw
        have hmem := Outline.mem_textsFrom.2 hsegment
        cases origin with
        | template =>
          refine ⟨w, hmem, ?_⟩
          rcases htidy with hmarked | ht
          · obtain ⟨t, ht, hinfix⟩ := hmarked.exists_token hunderscore
            exact ⟨t, ht, .inr hinfix⟩
          · exact ⟨w, ht, .inl rfl⟩
        | value => exact absurd hunderscore htidy
        | output => exact absurd hunderscore (houtput o ho w hmem)
      | hole name =>
        rw [Segment.Shows, missing, hmissing] at hw
        rw [← Except.ok.inj hw] at hunderscore
        have hname : '_' ∉ name.toList := htidy
        exact absurd hunderscore (by simpa [inBraces] using hname)
      | notice n =>
        obtain rfl : w = "" := hw
        cases hunderscore
      | fault f => exact hw.elim
    · exact absurd htoken.underscore_mem htemplate
  · rintro ⟨o, ho, s, hs, t, ht, hinfix⟩
    obtain ⟨-, htokens, -⟩ := marked_prepared htemplate (r := r)
    rcases exists_of_render htemplate hvalues hrender with ⟨o', ho', hfill⟩ | ⟨-, hnone⟩
    · obtain rfl := Except.ok.inj (ho.symm.trans ho')
      have htext := Outline.infix_of_fill hfill (Outline.mem_textsFrom.1 hs)
      refine ⟨t, htokens t ht, List.IsInfix.trans ?_ htext⟩
      rcases hinfix with rfl | hinfix
      · exact List.infix_rfl
      · exact List.IsInfix.trans ⟨['{'], ['}'], by simp⟩ hinfix
    · exact absurd ho (hnone o)

/-- A template that quotes an argument and has an option like the inside of one. -/
def likeArguments : String := "'\x7bx, currency\x7d' \x7bn, select, other \x7bx, currency\x7d\x7d"

/-- A value for its variable. -/
def likeValues : Values :=
  .ofList [("n", .text "a")]

theorem clear_likeValues : likeValues.Clear := by
  rintro f hf name
  obtain rfl := Values.named.inj hf
  by_cases h : name = "n"
  · rw [h]
    decide
  · have hb : (name == "n") = false := by simpa using h
    simp [List.lookup_cons, hb, Value.plainText]

/-- Both are shown as placeholders. -/
theorem render_hasToken_likeArguments :
    ((ofSettings {} {}).render default likeArguments likeValues none).2.result =
        .ok "\x7b__CURRENCY_0__\x7d __CURRENCY_1__" ∧
      HasToken "\x7b__CURRENCY_0__\x7d __CURRENCY_1__".toList := by
  have hrender : ((ofSettings {} {}).render default likeArguments likeValues none).2.result =
      .ok "\x7b__CURRENCY_0__\x7d __CURRENCY_1__" := by
    decide +kernel
  have houtline : ((ofSettings {} {}).outline default likeArguments likeValues "en").2.result =
      .ok [.text .template "\x7b__CURRENCY_0__\x7d ", .text .template "__CURRENCY_1__"] := by
    decide +kernel
  have houtput : ∀ o, ((ofSettings {} {}).outline default likeArguments likeValues "en").2.result =
      .ok o → ∀ s ∈ o.textsFrom .output, '_' ∉ s.toList := by
    intro o ho s hs
    obtain rfl := Except.ok.inj (houtline.symm.trans ho)
    simp [Outline.textsFrom] at hs
  have hasides : "__CURRENCY_1__" ∈
      ((ofSettings {} {}).prepared likeArguments).asides.map Prod.fst := by
    decide +kernel
  refine ⟨hrender, ?_⟩
  exact (render_hasToken_iff (ofSettings {} {}) default likeArguments likeValues none _ rfl
    (by decide +kernel) clear_likeValues houtput hrender).2
    ⟨_, houtline, _, by simp [Outline.textsFrom], _, hasides, .inl rfl⟩

end Renderer

end Phrasebook
