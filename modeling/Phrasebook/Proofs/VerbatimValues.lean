import Mathlib.Logic.Function.Basic
import Phrasebook.Proofs.Failures
import Phrasebook.Proofs.OpenTexts
import Phrasebook.Proofs.WrittenNames

/-!
Values are shown as they are.

A variable that a template only shows as plain text decides nothing: which branches are taken and
what formatters write does not depend on it. So rendering gives one row of texts and places for all
its values, and a text that is the value stands verbatim in each of the places
(`Renderer.render_update_text`). The walk over the elements keeps this of the outlines for all
values of the variable at once (`Scene.Verbatim`).

What a variable is asked for is read off the message that is rendered. Plurals in short are written
out and arguments are put aside before quotes are known, so this message may ask for a variable that
the template has in a text only (`Renderer.render_misread`). The author wrote the variable with a
comma behind it even there (`Renderer.writesTyped_of_mem`).
-/

set_option autoImplicit false

namespace Phrasebook

open Message Template

/-! ### Variables with a type -/

mutual

/-- The variables that an element asks for more than their plain text: to choose a branch, or to
write a number, a date, a time, or an argument that was put aside. -/
def Element.typedVariables (asides : Asides) : Element → List String
  | .argument name => ((asides.lookup name).map ExtensionArgument.name).toList
  | .plural name _ _ os | .select name os => name :: optionsTypedVariables asides os
  | .number name _ _ | .date name _ _ | .time name _ _ => [name]
  | .literal _ | .pound | .foreign _ => []

/-- The variables that a message asks for more than their plain text. -/
def messageTypedVariables (asides : Asides) : Message → List String
  | [] => []
  | e :: es => e.typedVariables asides ++ messageTypedVariables asides es

/-- The variables that options ask for more than their plain text. -/
def optionsTypedVariables (asides : Asides) : List (String × Message) → List String
  | [] => []
  | (_, m) :: os => messageTypedVariables asides m ++ optionsTypedVariables asides os

end

/-- The variables that a template asks for more than their plain text. They are read off the message
that is rendered, where plurals in short have been written out and arguments put aside, also between
apostrophes. A template that is filled in directly, and one that is no message, asks for none. -/
def Renderer.typedVariables (r : Renderer) (template : String) : List String :=
  if needsMessage r.roster.names template.toList then
    match Message.parse (r.readForm template) with
    | .ok m => messageTypedVariables (r.prepared template).asides m
    | .error _ => []
  else []

section TypedVariables

variable {asides : Asides} {literal plain typed : String → Prop} {x : String}

mutual

/-- What an element asks for is the name of an argument with a type in it, or the name of what was
put aside. -/
theorem Element.typedVariables_cases {e : Element} (he : e.Parts literal plain typed)
    (hx : x ∈ e.typedVariables asides) :
    typed x ∨ ∃ name a, asides.lookup name = some a ∧ a.name = x := by
  cases e with
  | argument name =>
    obtain ⟨a, ha, rfl⟩ := Option.map_eq_some_iff.1 (Option.mem_toList.1 hx)
    exact .inr ⟨name, a, ha, rfl⟩
  | plural name kind offset os =>
    rcases List.mem_cons.1 hx with rfl | hx
    · exact .inl he.1
    · exact optionsTypedVariables_cases he.2 hx
  | select name os =>
    rcases List.mem_cons.1 hx with rfl | hx
    · exact .inl he.1
    · exact optionsTypedVariables_cases he.2 hx
  | number name _ _ | date name _ _ | time name _ _ =>
    rw [List.mem_singleton.1 hx]
    exact .inl he
  | literal s | pound | foreign kind => cases hx

theorem messageTypedVariables_cases {m : Message} (hm : MessageParts literal plain typed m)
    (hx : x ∈ messageTypedVariables asides m) :
    typed x ∨ ∃ name a, asides.lookup name = some a ∧ a.name = x := by
  cases m with
  | nil => cases hx
  | cons e es =>
    rcases List.mem_append.1 hx with hx | hx
    · exact Element.typedVariables_cases hm.1 hx
    · exact messageTypedVariables_cases hm.2 hx

theorem optionsTypedVariables_cases {os : List (String × Message)}
    (hos : OptionsParts literal plain typed os) (hx : x ∈ optionsTypedVariables asides os) :
    typed x ∨ ∃ name a, asides.lookup name = some a ∧ a.name = x := by
  cases os with
  | nil => cases hx
  | cons o os =>
    rcases List.mem_append.1 hx with hx | hx
    · exact messageTypedVariables_cases hos.1 hx
    · exact optionsTypedVariables_cases hos.2 hx

end

namespace Renderer

variable {r : Renderer} {template : String}

/-- What a template asks for is asked for by its message. -/
theorem exists_parse_of_mem (hx : x ∈ r.typedVariables template) :
    ∃ m, Message.parse (r.readForm template) = .ok m ∧
      x ∈ messageTypedVariables (r.prepared template).asides m := by
  unfold typedVariables at hx
  split at hx
  · split at hx
    · rename_i m hm
      exact ⟨m, hm, hx⟩
    · cases hx
  · cases hx

/-- The author wrote what a template asks for more than its plain text with a comma behind it. -/
theorem writesTyped_of_mem (hx : x ∈ r.typedVariables template) :
    WritesTyped template.toList x := by
  obtain ⟨m, hparse, hx⟩ := exists_parse_of_mem hx
  have hparts := Grammar.parts_of_parse hparse
  obtain ⟨htyped, hasides⟩ := writesTyped_of_prepare r.roster.braceFree_names template.toList
  rcases messageTypedVariables_cases hparts hx with hname | ⟨name, a, ha, rfl⟩
  · exact htyped x hname
  · exact hasides name a ha

/-- Where there is nothing to write out or to put aside, the message is the template's own. -/
theorem mem_typedVariables_of_parse {m : Message}
    (hprepared : r.prepared template = ⟨template.toList, []⟩) (hm : Message.parse template = .ok m)
    (hx : x ∈ r.typedVariables template) : x ∈ messageTypedVariables [] m := by
  obtain ⟨m', hparse, hx⟩ := exists_parse_of_mem hx
  rw [hprepared] at hx
  rw [readForm, hprepared, String.ofList_toList, hm] at hparse
  rwa [Except.ok.inj hparse]

end Renderer

end TypedVariables

namespace Scene

open Outline

variable {missing : String → Except CallFault String} {scene : Scene} {value : String → Value}
  {x name : String} {o p : Value → Outline}

/-! ### Outlines for all values of a variable -/

/-- The scene in which a variable has a value, and the other variables have theirs. -/
def binding (scene : Scene) (value : String → Value) (x : String) (v : Value) : Scene :=
  { scene with values := .named (Function.update value x v) }

/-- The outlines for the values of `x` are filled to one row of parts. In its places stands the text
that is the value, and the name in braces if there is no value and missing ones are shown so. -/
def Verbatim (missing : String → Except CallFault String) (x : String) (o : Value → Outline) :
    Prop :=
  ∃ outcome : Except Fault (List Part),
    (∀ s, ((o (.text s)).fill missing).result = outcome.map (Part.join fun _ ↦ s)) ∧
    (missing = braced →
      ((o .absent).fill missing).result = outcome.map (Part.join fun _ ↦ inBraces x))

/-- What does not depend on the value has no places. -/
theorem verbatim_const (missing : String → Except CallFault String) (x : String) (o : Outline) :
    Verbatim missing x fun _ ↦ o := by
  refine ⟨(o.fill missing).result.map fun s ↦ [.text s], ?_, ?_⟩
  · intro s
    cases (o.fill missing).result with
    | error f => rfl
    | ok t =>
      rw [Except.map, Except.map, Part.join_singleton]
      rfl
  · intro _
    cases (o.fill missing).result with
    | error f => rfl
    | ok t =>
      rw [Except.map, Except.map, Part.join_singleton]
      rfl

theorem verbatim_of_eq (h : ∀ v, o v = o .absent) : Verbatim missing x o := by
  have ho : o = fun _ ↦ o .absent := funext h
  rw [ho]
  exact verbatim_const missing x _

theorem verbatim_append (ho : Verbatim missing x o) (hp : Verbatim missing x p) :
    Verbatim missing x fun v ↦ o v ++ p v := by
  obtain ⟨outcome, ho, ho'⟩ := ho
  obtain ⟨outcome', hp, hp'⟩ := hp
  have hjoin (w : String) : ((outcome.map (Part.join fun _ ↦ w)).bind fun s ↦
      (outcome'.map (Part.join fun _ ↦ w)).map (s ++ ·)) =
      (outcome.bind fun parts ↦ outcome'.map (parts ++ ·)).map (Part.join fun _ ↦ w) := by
    cases outcome with
    | error f => rfl
    | ok parts =>
      cases outcome' with
      | error f => rfl
      | ok more =>
        change Except.ok _ = Except.ok _
        rw [Part.join_append]
  refine ⟨outcome.bind fun parts ↦ outcome'.map (parts ++ ·), ?_, ?_⟩
  · intro s
    rw [result_fill_append, ho, hp, hjoin]
  · intro h
    rw [result_fill_append, ho' h, hp' h, hjoin]

/-- A place for the value as plain text. -/
theorem verbatim_place (h : missing = braced →
      ((o .absent).fill missing).result = .ok (inBraces x))
    (htext : ∀ s, o (.text s) = [.text .value s]) : Verbatim missing x o := by
  refine ⟨.ok [.place x], ?_, ?_⟩
  · intro s
    rw [htext, result_fill_text, Except.map, Part.join_singleton]
    rfl
  · intro hbraced
    rw [h hbraced, Except.map, Part.join_singleton]
    rfl

theorem verbatim_plain (missing : String → Except CallFault String) (x : String) :
    Verbatim missing x (plain x) := by
  apply verbatim_place
  · rintro rfl
    exact result_fill_hole rfl
  · intro s
    rfl

/-! ### Elements -/

theorem withValue_binding_of_ne (h : name ≠ x) (v : Value) (f : Value → Outline) :
    (scene.binding value x v).withValue name f = f (value name) := by
  rw [withValue, binding]
  exact congrArg f (Function.update_of_ne h v value)

theorem withValue_binding_self (v : Value) (f : Value → Outline) :
    (scene.binding value x v).withValue x f = f v := by
  rw [withValue, binding]
  exact congrArg f (Function.update_self x v value)

theorem verbatim_withValue (h : name ≠ x) {f : Value → Value → Outline}
    (hf : Verbatim missing x fun v ↦ f v (value name)) :
    Verbatim missing x fun v ↦ (scene.binding value x v).withValue name (f v) := by
  have heq : (fun v ↦ (scene.binding value x v).withValue name (f v)) =
      fun v ↦ f v (value name) := by
    funext v
    exact withValue_binding_of_ne h v (f v)
  rw [heq]
  exact hf

theorem verbatim_argument
    (h : x ∉ ((scene.asides.lookup name).map ExtensionArgument.name).toList) :
    Verbatim missing x fun v ↦ (scene.binding value x v).argument name := by
  unfold argument
  have hasides (v : Value) : (scene.binding value x v).asides = scene.asides := rfl
  simp only [hasides]
  cases hlookup : scene.asides.lookup name with
  | some a =>
    have ha : a.name ≠ x := by
      intro he
      rw [hlookup, Option.map_some, Option.toList_some, List.mem_singleton] at h
      exact h he.symm
    exact verbatim_withValue ha (verbatim_of_eq fun _ ↦ rfl)
  | none =>
    by_cases hname : name = x
    · subst hname
      simp only [withValue_binding_self]
      apply verbatim_place
      · rintro rfl
        cases hasPlaceholderForm name with
        | true => exact result_fill_text _ _
        | false => exact result_fill_hole rfl
      · intro s
        rfl
    · exact verbatim_withValue hname (verbatim_const _ _ _)

/-- A number, a date or a time is written in one way for all values of another variable. -/
theorem verbatim_number (h : name ≠ x) (style : Option String) (options : Option NumberOptions) :
    Verbatim missing x fun v ↦ (scene.binding value x v).number name style options :=
  verbatim_withValue h (verbatim_of_eq fun _ ↦ rfl)

theorem verbatim_moment (h : name ≠ x)
    (format : Value → String → LocaleBook → Except FormatFault String) :
    Verbatim missing x fun v ↦ (scene.binding value x v).moment name format :=
  verbatim_withValue h (verbatim_of_eq fun _ ↦ rfl)

/-- The branch for a number is one branch for all values of another variable. -/
theorem verbatim_plural (h : name ≠ x) (pound : Option Value) (kind : PluralKind) (offset : Int)
    {os : List (String × Message)}
    (hos : ∀ pound, ∀ o ∈ os,
      Verbatim missing x fun v ↦ (scene.binding value x v).message pound o.2) :
    Verbatim missing x fun v ↦
      (scene.binding value x v).element pound (.plural name kind offset os) := by
  simp only [element]
  apply verbatim_withValue h
  cases (value name).number? with
  | none => exact verbatim_const _ _ _
  | some n =>
    simp only [orHole]
    cases n.lower offset with
    | error f => exact verbatim_const _ _ _
    | ok lowered =>
      have hlocale (v : Value) : (scene.binding value x v).locale = scene.locale := rfl
      have hbook (v : Value) : (scene.binding value x v).book = scene.book := rfl
      simp only [options_eq_map, branch?_map, hlocale, hbook]
      cases hbranch : Plural.branch? os n lowered scene.locale kind scene.book with
      | error f => exact verbatim_const _ _ _
      | ok branch =>
        cases branch with
        | none => exact verbatim_const _ _ _
        | some m =>
          obtain ⟨o, ho, rfl⟩ := mem_of_branch? hbranch
          exact hos _ o ho

theorem verbatim_select (h : name ≠ x) (pound : Option Value) {os : List (String × Message)}
    (hos : ∀ pound, ∀ o ∈ os,
      Verbatim missing x fun v ↦ (scene.binding value x v).message pound o.2) :
    Verbatim missing x fun v ↦ (scene.binding value x v).element pound (.select name os) := by
  simp only [element]
  apply verbatim_withValue h
  simp only [selected]
  by_cases hlong : (value name).isOverlong = true
  · simp only [if_pos hlong]
    exact verbatim_const _ _ _
  · simp only [if_neg hlong, options_eq_map, selectBranch?_map]
    cases hbranch : selectBranch? os (value name) with
    | none => exact verbatim_const _ _ _
    | some m =>
      obtain ⟨o, ho, rfl⟩ := mem_of_selectBranch? hbranch
      exact hos _ o ho

mutual

/-- An element that asks for no more than the plain text of `x` shows it verbatim. -/
theorem verbatim_element (pound : Option Value) (e : Element)
    (h : x ∉ e.typedVariables scene.asides) :
    Verbatim missing x fun v ↦ (scene.binding value x v).element pound e := by
  cases e with
  | literal s => exact verbatim_const _ _ _
  | argument name => exact verbatim_argument h
  | pound => exact verbatim_const _ _ _
  | plural name kind offset os =>
    obtain ⟨hname, hos⟩ := not_or.1 (mt List.mem_cons.2 h)
    exact verbatim_plural (Ne.symm hname) pound kind offset fun pound ↦
      verbatim_options pound os hos
  | select name os =>
    obtain ⟨hname, hos⟩ := not_or.1 (mt List.mem_cons.2 h)
    exact verbatim_select (Ne.symm hname) pound fun pound ↦ verbatim_options pound os hos
  | number name style options =>
    exact verbatim_number (Ne.symm (mt List.mem_singleton.2 h)) style options
  | date name style skeleton =>
    simp only [element]
    exact verbatim_moment (Ne.symm (mt List.mem_singleton.2 h)) _
  | time name style skeleton =>
    simp only [element]
    exact verbatim_moment (Ne.symm (mt List.mem_singleton.2 h)) _
  | foreign kind => exact verbatim_const _ _ _

theorem verbatim_message (pound : Option Value) (m : Message)
    (h : x ∉ messageTypedVariables scene.asides m) :
    Verbatim missing x fun v ↦ (scene.binding value x v).message pound m := by
  cases m with
  | nil => exact verbatim_const _ _ _
  | cons e es =>
    obtain ⟨he, hes⟩ := not_or.1 (mt List.mem_append.2 h)
    exact verbatim_append (verbatim_element pound e he) (verbatim_message pound es hes)

theorem verbatim_options (pound : Option Value) (os : List (String × Message))
    (h : x ∉ optionsTypedVariables scene.asides os) :
    ∀ o ∈ os, Verbatim missing x fun v ↦ (scene.binding value x v).message pound o.2 := by
  cases os with
  | nil => exact List.forall_mem_nil _
  | cons o os =>
    obtain ⟨hm, hos⟩ := not_or.1 (mt List.mem_append.2 h)
    exact List.forall_mem_cons.2 ⟨verbatim_message pound o.2 hm, verbatim_options pound os hos⟩

end

/-- A template that is filled in directly shows every variable verbatim. -/
theorem verbatim_simple (missing : String → Except CallFault String) (scene : Scene)
    (value : String → Value) (x : String) (s : List Char) :
    Verbatim missing x fun v ↦ (scene.binding value x v).simple s := by
  unfold simple
  induction plainVariable.pieces s with
  | nil => exact verbatim_const _ _ _
  | cons piece pieces ih =>
    simp only [List.flatMap_cons]
    apply verbatim_append _ ih
    cases piece with
    | char c => exact verbatim_const _ _ _
    | found name =>
      by_cases hname : name = x
      · subst hname
        simp only [withValue_binding_self]
        exact verbatim_plain missing name
      · exact verbatim_withValue hname (verbatim_const _ _ _)

end Scene

namespace Renderer

variable (r : Renderer) (clock : Calendar.Moment) (template : String) (value : String → Value)
  (locale : Option String) (x : String)

/-- What rendering gives before a template that is no message is shown as it is. -/
theorem tryRender_update (h : x ∉ r.typedVariables template) :
    ∃ outcome : Except Fault (List Part),
      (∀ s, (r.tryRender clock template (.named (Function.update value x (.text s)))
        locale).2.result = outcome.map (Part.join fun _ ↦ s)) ∧
      (r.settings.missingVariable = none →
        (r.tryRender clock template (.named (Function.update value x .absent)) locale).2.result =
          outcome.map (Part.join fun _ ↦ inBraces x)) ∧
      ∀ e, needsMessage r.roster.names template.toList = true →
        Message.parse (r.readForm template) = .error (.notMessage e) →
          outcome = .error (.template (.notMessage e)) := by
  let tag := r.settings.localeOr locale
  let scene := r.scene clock (.named value) tag
  have hbraced (hmissing : r.settings.missingVariable = none) :
      r.missing tag = Outline.braced :=
    funext (missing_of_none hmissing tag)
  cases hneeds : needsMessage r.roster.names template.toList with
  | false =>
    simp only [result_tryRender_of_plain r hneeds]
    obtain ⟨outcome, htext, habsent⟩ :=
      Scene.verbatim_simple (r.missing tag) scene value x template.toList
    exact ⟨outcome, htext, fun hmissing ↦ habsent (hbraced hmissing), fun e he ↦ nomatch he⟩
  | true =>
    simp only [result_tryRender_readForm clock hneeds]
    rw [typedVariables, if_pos hneeds] at h
    cases hparse : Message.parse (r.readForm template) with
    | error f =>
      refine ⟨.error (.template f), fun s ↦ rfl, fun _ ↦ rfl, fun e _ he ↦ ?_⟩
      rw [Except.error.inj he]
    | ok m =>
      rw [hparse] at h
      let prepared := scene.withAsides (r.prepared template).asides
      have hverbatim : Scene.Verbatim (r.missing tag) x fun v ↦
          (prepared.binding value x v).message none m := Scene.verbatim_message none m h
      obtain ⟨outcome, htext, habsent⟩ := hverbatim
      exact ⟨outcome, htext, fun hmissing ↦ habsent (hbraced hmissing), fun e _ he ↦ nomatch he⟩

/-- What stands in the end for a row of parts: a template that is no message is shown as it is. -/
def shownParts (template : String) : Except Fault (List Part) → Except Fault (List Part)
  | .error (.template (.notMessage _)) => .ok [.text template]
  | outcome => outcome

/-- Rendering gives the parts that filling in gives, or the template. -/
theorem result_render_of_tryRender {outcome : Except Fault (List Part)} {f : String → String}
    {values : Values}
    (h : (r.tryRender clock template values locale).2.result = outcome.map (Part.join f)) :
    (r.render clock template values locale).2.result =
      (shownParts template outcome).map (Part.join f) := by
  rw [result_render, h]
  cases outcome with
  | ok parts => rfl
  | error g =>
    cases g with
    | template g =>
      cases g with
      | notMessage e =>
        show Except.ok template = Except.ok _
        rw [Part.join_singleton]
        rfl
      | longOffset l => rfl
    | _ => rfl

/-- If the message that is rendered asks for no more than the plain text of a variable, rendering
gives one row of texts and places for all values of the variable, or fails in one way for all of
them: a text that is the value stands verbatim in every place, whatever characters it has. Without a
value the places show its name in braces, where nothing else is shown for missing values. A template
that is no message has no places, and rendering fails only for what stops it whatever text is the
value, or if a missing value cannot be shown.

The message is the one in which plurals in short are written out and arguments are put aside. It
asks for more only of a variable that the author wrote after a brace and before a comma, or so in a
form for zero. Where nothing is written out or put aside, it is the message that the template is. -/
theorem render_update_text :
    (x ∈ r.typedVariables template → WritesTyped template.toList x ∧
      ∀ m, r.prepared template = ⟨template.toList, []⟩ → Message.parse template = .ok m →
        x ∈ messageTypedVariables [] m) ∧
    (x ∉ r.typedVariables template →
      let tag := r.settings.localeOr locale
      let given (v : Value) : Values := .named (Function.update value x v)
      ∃ outcome : Except Fault (List Part),
        (∀ s, (r.render clock template (given (.text s)) locale).2.result =
          outcome.map (Part.join fun _ ↦ s)) ∧
        (r.settings.missingVariable = none →
          (r.render clock template (given .absent) locale).2.result =
            outcome.map (Part.join fun _ ↦ inBraces x)) ∧
        (∀ e, needsMessage r.roster.names template.toList = true →
          Message.parse (r.readForm template) = .error (.notMessage e) →
            outcome = .ok [.text template]) ∧
        ∀ f, outcome = .error f →
          (∃ name c, r.missing tag name = .error c ∧ f = .call c) ∨
            ∀ s, r.Stops clock template (given (.text s)) tag f) := by
  refine ⟨fun hx ↦ ⟨writesTyped_of_mem hx, fun m hprepared hm ↦
    mem_typedVariables_of_parse hprepared hm hx⟩, fun h ↦ ?_⟩
  intro tag given
  obtain ⟨outcome, htext, habsent, hnotMessage⟩ :=
    r.tryRender_update clock template value locale x h
  have hshown : ∀ s, (r.render clock template (given (.text s)) locale).2.result =
      (shownParts template outcome).map (Part.join fun _ ↦ s) := fun s ↦
    r.result_render_of_tryRender clock template locale (htext s)
  refine ⟨shownParts template outcome, hshown, ?_, ?_, ?_⟩
  · intro hmissing
    exact r.result_render_of_tryRender clock template locale (habsent hmissing)
  · intro e hneeds he
    rw [hnotMessage e hneeds he]
    rfl
  · intro f hf
    by_cases hcall : ∃ name c, r.missing tag name = .error c ∧ f = .call c
    · exact .inl hcall
    · refine .inr fun s ↦ ?_
      have hfails : (r.render clock template (given (.text s)) locale).2.result = .error f :=
        (hshown s).trans (congrArg (Except.map _) hf)
      exact (stops_or_call_of_render (Values.noConfusion ·) hfails).resolve_left hcall

/-- A message that shows a name before an argument and in a branch of it. -/
def visitors : String :=
  "\x7bwho\x7d: \x7bkind, select, guest \x7bof \x7bwho\x7d\x7d other \x7b-\x7d\x7d"

/-- A name that looks like a template is shown as it is, and no name makes rendering fail. The kind
of a guest is asked for, and the author wrote it so. -/
theorem render_update_visitors :
    let r := ofSettings {} {}
    let value : String → Value := fun name ↦ if name = "kind" then .text "guest" else .absent
    let shown := fun s ↦ (r.render default visitors
      (.named (Function.update value "who" (.text s))) none).2.result
    "who" ∉ r.typedVariables visitors ∧ WritesTyped visitors.toList "kind" ∧
      shown "\x7bkind\x7d '#|" = .ok "\x7bkind\x7d '#|: of \x7bkind\x7d '#|" ∧
        ∀ s, ∃ text, shown s = .ok text := by
  intro r value shown
  have htyped : "who" ∉ r.typedVariables visitors := by
    decide +kernel
  have hshown : shown "\x7bkind\x7d '#|" = .ok "\x7bkind\x7d '#|: of \x7bkind\x7d '#|" := by
    decide +kernel
  have hkind : "kind" ∈ r.typedVariables visitors := by
    decide +kernel
  obtain ⟨hwrites, -⟩ :=
    (r.render_update_text default visitors value none "kind").1 hkind
  obtain ⟨outcome, htext, -⟩ := (r.render_update_text default visitors value none "who").2 htyped
  refine ⟨htyped, hwrites, hshown, fun s ↦ ?_⟩
  rw [show shown "\x7bkind\x7d '#|" = _ from htext _] at hshown
  cases outcome with
  | error f => cases hshown
  | ok parts => exact ⟨_, htext s⟩

/-- A choice between a text that has the start of a plural in short, quoted, and other texts. -/
def misread : String :=
  "\x7bk, select, z \x7b'\x7bn, p, a'|b\x7d y " ++
    "\x7bx, select, few \x7ba\x7d other \x7bc\x7d\x7d '\x7bz\x7d\x7d '"

/-- The message that this template is asks for the choice only: the words that look like another one
are the text of a branch. But the plural in short is written out between the apostrophes, the
message that is rendered chooses with `x`, too, and no row of texts and places is right for all its
values. -/
theorem render_misread :
    let r := ofSettings {} {}
    let value : String → Value := fun name ↦ if name = "k" then .text "y" else .absent
    let shown := fun s ↦ (r.render default misread
      (.named (Function.update value "x" (.text s))) none).2.result
    (∃ os, Message.parse misread = .ok [.select "k" os, .literal " '"] ∧
        optionsTypedVariables [] os = []) ∧
      shown "few" = .ok "# b y a \x7bz\x7d\x7d " ∧ shown "!" = .ok "# b y c \x7bz\x7d\x7d " ∧
        ¬ ∃ outcome : Except Fault (List Part),
          ∀ s, shown s = outcome.map (Part.join fun _ ↦ s) := by
  intro r value shown
  have hfew : shown "few" = .ok "# b y a \x7bz\x7d\x7d " := by
    decide +kernel
  have hother : shown "!" = .ok "# b y c \x7bz\x7d\x7d " := by
    decide +kernel
  refine ⟨?_, hfew, hother, ?_⟩
  · refine ⟨[("z", [.literal "\x7bn, p, a|b"]), ("y", [.literal "x, select, few ", .argument "a",
      .literal " other ", .argument "c"]), ("'", [.literal "z"])], ?_, rfl⟩
    with_unfolding_all rfl
  · rintro ⟨outcome, houtcome⟩
    cases outcome with
    | error f => cases (houtcome "few").symm.trans hfew
    | ok parts =>
      have hjoin := Except.ok.inj ((houtcome "!").symm.trans hother)
      have hjoin' := Except.ok.inj ((houtcome "few").symm.trans hfew)
      have hplaces (name : String) : .place name ∉ parts := by
        intro hname
        have hmark : '!' ∈ (Part.join (fun _ ↦ "!") parts).toList :=
          Part.mem_join hname (by decide)
        rw [hjoin] at hmark
        exact absurd hmark (by decide)
      rw [Part.join_congr hplaces, hjoin] at hjoin'
      exact absurd hjoin' (by decide)

end Renderer

end Phrasebook
