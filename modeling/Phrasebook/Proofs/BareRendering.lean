import Phrasebook.Proofs.Failures
import Phrasebook.Proofs.OpenTexts
import Phrasebook.Proofs.Sessions
import Phrasebook.Proofs.WrittenNames

/-!
Rendering without values.

What is shown without values consists of literals and of names in braces. If the template has no
apostrophe, then no brace comes from a literal, and no name has a comma, so the text is inert: after
none of its braces does an argument with a type, a call of a formatter or a plural in short begin
(`needsMessage_of_inert`). A text that does not need to be read is shown as it is, so rendering what
was rendered changes nothing (`Renderer.render_render`).
-/

set_option autoImplicit false

namespace Phrasebook

open Message Template Text

/-! ### Inert texts -/

/-- A text in which each opening brace begins a group without a comma. -/
inductive Inert : List Char → Prop
  | nil : Inert []
  | char {c : Char} {s : List Char} : c ≠ '{' → Inert s → Inert (c :: s)
  | group {v s : List Char} : BraceFree v → ',' ∉ v → Inert s → Inert ('{' :: (v ++ '}' :: s))

namespace Inert

variable {s t v w : List Char}

theorem append (hs : Inert s) (ht : Inert t) : Inert (s ++ t) := by
  induction hs with
  | nil => exact ht
  | char hc _ ih => exact .char hc ih
  | group hv hcomma _ ih =>
    rw [List.cons_append, List.append_assoc, List.cons_append]
    exact .group hv hcomma ih

theorem of_braceFree (h : BraceFree s) : Inert s := by
  induction s with
  | nil => exact .nil
  | cons c s ih =>
    obtain ⟨hc, hs⟩ := List.forall_mem_cons.1 h
    exact .char hc.1 (ih hs)

/-- A name in braces is inert. -/
theorem inBraces {name : String} (h : BraceFree name.toList) (hcomma : ',' ∉ name.toList) :
    Inert (inBraces name).toList := by
  have htext : (Phrasebook.inBraces name).toList = '{' :: (name.toList ++ '}' :: []) := by
    simp [Phrasebook.inBraces]
  rw [htext]
  exact .group h hcomma .nil

/-- After an opening brace stands a group without a comma. -/
theorem exists_group (h : Inert s) {u : List Char} (hs : s = u ++ '{' :: t) :
    ∃ v r, BraceFree v ∧ ',' ∉ v ∧ t = v ++ '}' :: r := by
  induction h generalizing u with
  | nil => simp at hs
  | @char c s hc _ ih =>
    cases u with
    | nil => exact absurd (List.cons.inj hs).1 hc
    | cons d u => exact ih (List.cons.inj hs).2
  | @group v s hv hcomma _ ih =>
    cases u with
    | nil => exact ⟨v, s, hv, hcomma, (List.cons.inj hs).2.symm⟩
    | cons d u =>
      -- the brace is none of the group, so it stands behind it
      have hrest : (v ++ ['}']) ++ s = u ++ '{' :: t := by
        rw [List.append_assoc]
        exact (List.cons.inj hs).2
      rcases List.append_eq_append_iff.1 hrest with ⟨a, -, hs⟩ | ⟨a, hgroup, ht⟩
      · exact ih hs
      · cases a with
        | nil => exact ih (u := []) ht.symm
        | cons e a =>
          obtain ⟨rfl, -⟩ := List.cons.inj ht
          exact absurd rfl (hv.ne_open '{' (by rw [hgroup]; simp))

end Inert

section Shapes

variable {v r s : List Char}

/-- No argument with a type begins where a brace comes before the first comma. -/
theorem typedArgument_refuses (hcomma : ',' ∉ v) :
    typedArgument.read (v ++ '}' :: r) = none := by
  by_contra h
  obtain ⟨x, hx⟩ := Option.ne_none_iff_exists'.1 h
  obtain ⟨_, s₁, h₁, hx⟩ := Reader.exists_of_bind hx
  obtain ⟨w, s₂, h₂, hx⟩ := Reader.exists_of_bind hx
  obtain ⟨_, s₃, h₃, hx⟩ := Reader.exists_of_bind hx
  obtain ⟨_, s₄, h₄, hx⟩ := Reader.exists_of_bind hx
  obtain ⟨b, hb, hs⟩ := Reader.white_of_blanks h₁
  obtain ⟨-, hw, rfl⟩ := Reader.append_of_run h₂
  obtain ⟨b', hb', rfl⟩ := Reader.white_of_blanks h₃
  obtain rfl := Reader.append_of_exactly h₄
  have hclose : '}' ∉ b ++ (w ++ b') := by
    intro hmem
    simp only [List.mem_append] at hmem
    rcases hmem with hmem | hmem | hmem
    · exact absurd (hb _ hmem) (by decide)
    · exact absurd (hw _ hmem) (by decide)
    · exact absurd (hb' _ hmem) (by decide)
  have hsplit : v ++ '}' :: r = (b ++ (w ++ b')) ++ ',' :: s₄ := by
    rw [hs]
    simp
  rcases List.append_eq_append_iff.1 hsplit with ⟨a, ha, hrest⟩ | ⟨a, ha, hrest⟩
  · cases a with
    | nil => exact absurd (List.cons.inj hrest).1 (by decide)
    | cons e a =>
      obtain ⟨rfl, -⟩ := List.cons.inj hrest
      exact hclose (by rw [ha]; simp)
  · cases a with
    | nil => exact absurd (List.cons.inj hrest).1 (by decide)
    | cons e a =>
      obtain ⟨rfl, -⟩ := List.cons.inj hrest
      exact hcomma (by rw [ha]; simp)

/-- In an inert text a shape that begins with the name of a variable and a comma does not occur. -/
theorem Inert.occursIn {α : Type} {shape : Shape α} {f : String → Reader α} (hs : Inert s)
    (hcloses : shape.read.Closes) (hf : shape.read = Reader.variableName >>= f) :
    shape.occursIn s = false := by
  refine Shape.occursIn_of_refused fun u t hsplit ↦ ?_
  obtain ⟨v, r, hv, hcomma, rfl⟩ := hs.exists_group hsplit
  rw [Shape.read_group hcloses hv, Shape.found?_eq_none_of_notMem hf hcomma]
  rfl

/-- An inert text does not need to be read. -/
theorem needsMessage_of_inert {names : List String} (hnames : ∀ name ∈ names, BraceFree name.toList)
    (hs : Inert s) : Renderer.needsMessage names s = false := by
  have htyped : typedArgument.occursIn s = false := by
    refine Shape.occursIn_of_refused fun u t hsplit ↦ ?_
    obtain ⟨v, r, -, hcomma, rfl⟩ := hs.exists_group hsplit
    exact typedArgument_refuses hcomma
  obtain ⟨f, hf, -⟩ := named_customArgument names
  have hcustom := hs.occursIn (closes_customArgument hnames) hf
  have hshorthand := hs.occursIn closes_shorthand rfl
  rw [Renderer.needsMessage, callsFormatter, htyped, hcustom, hshorthand, Bool.and_false]
  rfl

end Shapes

/-! ### Outlines without values -/

/-- What is shown for the segment without a handler is inert. -/
def Segment.Inert : Segment → Prop
  | .text _ s => Phrasebook.Inert s.toList
  | .hole name => BraceFree name.toList ∧ ',' ∉ name.toList
  | .notice _ => True
  | .fault _ => False

/-- An outline of inert segments is filled to an inert text. -/
theorem Outline.exists_fill_of_inert {o : Outline} (h : ∀ segment ∈ o, segment.Inert) :
    ∃ text, (o.fill braced).result = .ok text ∧ Inert text.toList := by
  induction o with
  | nil => exact ⟨"", rfl, .nil⟩
  | cons segment o ih =>
    obtain ⟨hsegment, ho⟩ := List.forall_mem_cons.1 h
    obtain ⟨text, htext, hinert⟩ := ih ho
    have joined {w : String} (hw : Inert w.toList) :
        ∃ text, ((fill braced o).map (w ++ ·)).result = .ok text ∧ Inert text.toList := by
      refine ⟨w ++ text, ?_, ?_⟩
      · rw [Answer.map, htext]
        rfl
      · rw [String.toList_append]
        exact hw.append hinert
    cases segment with
    | text origin s => exact joined hsegment
    | hole name => exact joined (.inBraces hsegment.1 hsegment.2)
    | notice n => exact ⟨text, htext, hinert⟩
    | fault f => exact hsegment.elim

namespace Scene

variable {scene : Scene} {name : String} {literal plain typed : String → Prop}

/-- The name is shown as it is in a group without a comma. -/
def IsInertName (name : String) : Prop :=
  BraceFree name.toList ∧ ',' ∉ name.toList

theorem inert_hole (h : IsInertName name) : ∀ segment ∈ [Segment.hole name], segment.Inert :=
  List.forall_mem_singleton.2 h

theorem withValue_none (h : scene.values = .none) (name : String) (f : Value → Outline) :
    scene.withValue name f = f .absent := by
  rw [withValue, h]
  rfl

/-- Without a value an argument that was put aside leaves a hole. -/
theorem extension_none (h : scene.values = .none) {a : ExtensionArgument} (ha : a.Known) :
    scene.extension a = [.hole a.name] := by
  rw [extension, withValue_none h]
  cases he : a.extension with
  | unknown kind => exact absurd he (ha kind)
  | _ => rfl

theorem inert_argument (h : scene.values = .none)
    (hasides : ∀ x ∈ scene.asides, x.2.Known ∧ IsInertName x.2.name) (hname : IsInertName name) :
    ∀ segment ∈ scene.argument name, segment.Inert := by
  unfold argument
  cases hlookup : scene.asides.lookup name with
  | some a =>
    obtain ⟨hknown, hinert⟩ := hasides (name, a) (Table.mem_of_lookup hlookup)
    dsimp only
    rw [extension_none h hknown]
    exact inert_hole hinert
  | none =>
    dsimp only
    rw [withValue_none h]
    cases hasPlaceholderForm name with
    | true => exact List.forall_mem_singleton.2 (.inBraces hname.1 hname.2)
    | false => exact inert_hole hname

/-- Without a value a select argument shows its branch for other values. -/
theorem inert_selected {os : List (String × Outline)} (hname : IsInertName name)
    (hos : ∀ o ∈ os, ∀ segment ∈ o.2, segment.Inert) :
    ∀ segment ∈ selected name os .absent, segment.Inert := by
  have hselected : selected name os .absent = (os.lookup "other").getD [.hole name] := rfl
  rw [hselected]
  cases hlookup : os.lookup "other" with
  | none => exact inert_hole hname
  | some o =>
    exact hos ("other", o) (Table.mem_of_lookup hlookup)

/-- A scene without values, where the arguments put aside can be rendered and have inert names, and
properties of the parts of its messages that make them inert. -/
structure Valueless (scene : Scene) (literal plain typed : String → Prop) : Prop where
  values : scene.values = .none
  asides : ∀ x ∈ scene.asides, x.2.Known ∧ IsInertName x.2.name
  literal : ∀ s, literal s → BraceFree s.toList
  plain : ∀ name, plain name → IsInertName name
  typed : ∀ name, typed name → IsInertName name

mutual

/-- What an element shows without values is inert. -/
theorem Valueless.element (h : scene.Valueless literal plain typed) (e : Element)
    (he : e.Parts literal plain typed) : ∀ segment ∈ scene.element none e, segment.Inert := by
  cases e with
  | literal s => exact List.forall_mem_singleton.2 (.of_braceFree (h.literal s he))
  | argument name => exact inert_argument h.values h.asides (h.plain name he)
  | pound => exact List.forall_mem_singleton.2 (.of_braceFree (by decide))
  | plural name kind offset os =>
    rw [Scene.element, withValue_none h.values]
    exact inert_hole (h.typed name he.1)
  | select name os =>
    rw [Scene.element, withValue_none h.values]
    exact inert_selected (h.typed name he.1) (h.options os he.2)
  | number name style options =>
    rw [Scene.element, number, withValue_none h.values]
    exact inert_hole (h.typed name he)
  | date name style skeleton =>
    rw [Scene.element, moment, withValue_none h.values]
    exact inert_hole (h.typed name he)
  | time name style skeleton =>
    rw [Scene.element, moment, withValue_none h.values]
    exact inert_hole (h.typed name he)
  | foreign kind => exact he.elim

theorem Valueless.message (h : scene.Valueless literal plain typed) (m : Message)
    (hm : MessageParts literal plain typed m) :
    ∀ segment ∈ scene.message none m, segment.Inert := by
  cases m with
  | nil => exact List.forall_mem_nil _
  | cons e es =>
    rw [Scene.message]
    exact List.forall_mem_append.2 ⟨h.element e hm.1, h.message es hm.2⟩

theorem Valueless.options (h : scene.Valueless literal plain typed) (os : List (String × Message))
    (hos : OptionsParts literal plain typed os) :
    ∀ o ∈ scene.options none os, ∀ segment ∈ o.2, segment.Inert := by
  cases os with
  | nil => simp [Scene.options]
  | cons o os =>
    rw [Scene.options]
    exact List.forall_mem_cons.2 ⟨h.message o.2 hos.1, h.options os hos.2⟩

end

/-- A template that is filled in directly is shown as it is. -/
theorem result_fill_simple_none (h : scene.values = .none) (s : List Char) :
    ((scene.simple s).fill Outline.braced).result = .ok (String.ofList s) := by
  have hchar (c : Char) {o : Outline} {s : List Char}
      (ho : (o.fill Outline.braced).result = .ok (String.ofList s)) :
      (Outline.fill Outline.braced ([.text .template (String.singleton c)] ++ o)).result =
        .ok (String.ofList (c :: s)) := by
    have htext : String.singleton c ++ String.ofList s = String.ofList (c :: s) := by
      rw [← String.toList_inj]
      simp
    rw [← htext]
    exact Outline.result_fill_append_of_ok (Outline.result_fill_text _ _) ho
  unfold simple
  fun_induction plainVariable.pieces s with
  | case1 => rfl
  | case2 s name t hread _ ih =>
    obtain ⟨-, rfl⟩ := append_of_plainVariable hread
    have hname : ((scene.withValue name (plain name)).fill Outline.braced).result =
        .ok (inBraces name) := by
      rw [withValue_none h]
      exact Outline.result_fill_hole rfl
    have htext : inBraces name ++ String.ofList t =
        String.ofList ('{' :: (name.toList ++ '}' :: t)) := by
      rw [← String.toList_inj]
      simp [inBraces]
    rw [← htext, List.flatMap_cons]
    exact Outline.result_fill_append_of_ok hname ih
  | case3 s _ ih =>
    rw [List.flatMap_cons]
    exact hchar _ ih
  | case4 c s _ ih =>
    rw [List.flatMap_cons]
    exact hchar c ih

end Scene

/-! ### Templates without apostrophes -/

namespace Template

variable {names : List String} {s : List Char} {c : Char}

theorem mem_of_labelled {ps : List Pass} {asides : Asides} {items items' : List Item}
    (h : List.Forall₂ (Labelled ps asides) items items') (hc : c ∈ textOf items') :
    c ∈ textOf items ∨ isWord c = true := by
  induction h with
  | nil => cases hc
  | @cons i j items items' hi _ ih =>
    rw [← List.singleton_append, textOf_append, List.mem_append] at hc ⊢
    rcases hc with hc | hc
    · cases hi with
      | char | kept => exact .inl (.inl hc)
      | @aside v a kind n _ _ =>
        simp only [textOf_group, textOf_nil, List.mem_cons, List.mem_append] at hc ⊢
        rcases hc with hc | hc | hc
        · exact .inl (.inl (.inl hc))
        · exact .inr (kind.isWord_of_mem_token n c hc)
        · exact .inl (.inl (.inr (.inr hc)))
    · exact (ih hc).imp_left .inr

/-- Putting arguments aside brings only word characters. -/
theorem notMem_prepare (hnames : ∀ name ∈ names, BraceFree name.toList) (hc : isWord c = false)
    (hs : c ∉ s) : c ∉ (prepare names s).text := by
  obtain ⟨items, hsettled, rfl⟩ := exists_settled s
  obtain ⟨items', htext, hlabelled⟩ := (follows_prepare hnames hsettled).labelled
  rw [← htext]
  intro hmem
  rcases mem_of_labelled hlabelled hmem with hmem | hword
  · exact hs hmem
  · rw [hc] at hword
    cases hword

theorem isInertName_of_atBrace {name : String} {d : Char} (h : AtBrace (BeginsName name d) s) :
    Scene.IsInertName name := by
  obtain ⟨t, -, ⟨-, hname⟩, -⟩ := h
  refine ⟨fun c hc ↦ (classes_of_isNameChar (hname c hc)).2, fun hmem ↦ ?_⟩
  exact absurd (hname ',' hmem) (by decide)

end Template

namespace Renderer

section Bare

variable {r : Renderer} {clock : Calendar.Moment} {template : String} {locale : Option String}

/-- Without values a template that is filled in directly is shown as it is. -/
theorem result_render_of_plain_none (hmissing : r.settings.missingVariable = none)
    (h : needsMessage r.roster.names template.toList = false) :
    (r.render clock template .none locale).2.result = .ok template := by
  have hbraced : r.missing (r.settings.localeOr locale) = Outline.braced :=
    funext (missing_of_none hmissing _)
  rw [result_render, result_tryRender_of_plain r h, hbraced,
    Scene.result_fill_simple_none rfl, String.ofList_toList]

variable (clock) in
/-- The parts of a message are inert if its template has no apostrophe. -/
theorem valueless_preparedScene (hquote : '\'' ∉ template.toList) (tag : String) :
    let text := (r.prepared template).text
    (r.preparedScene clock template .none tag).Valueless (Grammar.LiteralIn text)
      (Grammar.NameIn text '}') (Grammar.NameIn text ',') where
  values := rfl
  asides x hx := ⟨known_prepare r.roster.braceFree_names _ x hx,
    isInertName_of_atBrace (atBrace_of_mem_asides r.roster.braceFree_names hx)⟩
  literal _ hs := hs (notMem_prepare r.roster.braceFree_names (by decide)
    (notMem_spellOut (by decide) hquote))
  plain _ h := isInertName_of_atBrace (h.mono fun _ ↦ And.left)
  typed _ h := isInertName_of_atBrace (h.mono fun _ ↦ And.left)

variable (clock locale) in
/-- Without values a message is shown as an inert text. -/
theorem exists_result_render_none (hmissing : r.settings.missingVariable = none)
    (hquote : '\'' ∉ template.toList) (h : needsMessage r.roster.names template.toList = true)
    {m : Message} (hm : Message.parse (r.readForm template) = .ok m) :
    ∃ text, (r.render clock template .none locale).2.result = .ok text ∧ Inert text.toList := by
  have hparts := Grammar.parts_of_parse hm
  have hinert :=
    (valueless_preparedScene clock hquote (r.settings.localeOr locale)).message m hparts
  obtain ⟨text, htext, htextInert⟩ := Outline.exists_fill_of_inert hinert
  have hbraced : r.missing (r.settings.localeOr locale) = Outline.braced :=
    funext (missing_of_none hmissing _)
  refine ⟨text, r.result_render_of_ok ?_, htextInert⟩
  rw [result_tryRender_readForm clock h, hm, hbraced]
  exact htext

/-- A template that is no message is shown as it is. -/
theorem result_render_of_notMessage {values : Values}
    (h : needsMessage r.roster.names template.toList = true) {e : SyntaxError}
    (hm : Message.parse (r.readForm template) = .error (.notMessage e)) :
    (r.render clock template values locale).2.result = .ok template := by
  rw [result_render, result_tryRender_readForm clock h, hm]
  rfl

end Bare

variable (r : Renderer) (clock clock' : Calendar.Moment) (template : String)
  (locale locale' : Option String)

/-- Rendering without values is idempotent where missing values are shown as their names: what is
rendered from a template without apostrophes is rendered to itself, by the renderer as it is left,
at any time and in any locale. Only an offset of too many digits keeps the template from being
rendered at all. -/
theorem render_render (hmissing : r.settings.missingVariable = none)
    (hquote : '\'' ∉ template.toList) :
    let once := r.render clock template .none locale
    let long (n : Nat) := needsMessage r.roster.names template.toList = true ∧
      Grammar.HasLongOffset (r.readForm template) n
    ((∃ text, once.2.result = .ok text ∧
        (once.1.render clock' text .none locale').2.result = .ok text) ↔ ¬ ∃ n, long n) ∧
      ∀ n, long n → once.2.result = .error (.template (.longOffset ⟨n⟩)) := by
  intro once long
  have hlong : ∀ n, long n → once.2.result = .error (.template (.longOffset ⟨n⟩)) := by
    rintro n ⟨hneeds, hn⟩
    have hm : Message.parse (r.readForm template) =
        .error (.longOffset ⟨n⟩) := Grammar.parse_eq_longOffset_iff.2 hn
    simp only [once, result_render, result_tryRender_readForm clock hneeds, hm]
    rfl
  refine ⟨⟨?_, fun hnone ↦ ?_⟩, hlong⟩
  · rintro ⟨text, htext, -⟩ ⟨n, hn⟩
    rw [hlong n hn] at htext
    cases htext
  -- the renderer that is left has the settings and formatters of the first one
  obtain ⟨hsettings, hroster, -⟩ := r.alike_render clock template .none locale
  have hmissing' : once.1.settings.missingVariable = none := by
    rw [hsettings, hmissing]
  cases hneeds : needsMessage r.roster.names template.toList with
  | false =>
    have hagain : needsMessage once.1.roster.names template.toList = false := by
      rw [hroster, hneeds]
    exact ⟨template, result_render_of_plain_none hmissing hneeds,
      result_render_of_plain_none hmissing' hagain⟩
  | true =>
    cases hm : Message.parse (r.readForm template) with
    | ok m =>
      obtain ⟨text, htext, hinert⟩ :=
        exists_result_render_none clock locale hmissing hquote hneeds hm
      have hagain : needsMessage once.1.roster.names text.toList = false :=
        needsMessage_of_inert once.1.roster.braceFree_names hinert
      exact ⟨text, htext, result_render_of_plain_none hmissing' hagain⟩
    | error f =>
      cases f with
      | notMessage e =>
        have hagain : needsMessage once.1.roster.names template.toList = true := by
          rw [hroster, hneeds]
        have hm' : Message.parse (once.1.readForm template) =
            .error (.notMessage e) := by
          rw [readForm, prepared, hroster]
          exact hm
        exact ⟨template, result_render_of_notMessage hneeds hm,
          result_render_of_notMessage hagain hm'⟩
      | longOffset l =>
        exact absurd ⟨l.digits, hneeds, Grammar.parse_eq_longOffset_iff.1 hm⟩ hnone

/-- A message that shows a name and an amount of money for every kind. -/
def receipt : String := "\x7bkind, select, other \x7b\x7bwho\x7d: \x7bx, currency\x7d\x7d\x7d"

/-- Without values it shows the names, and so does what is shown. -/
theorem render_render_receipt :
    let r := ofSettings {} {}
    let once := r.render default receipt .none none
    r.settings.missingVariable = none ∧ '\'' ∉ receipt.toList ∧
      once.2.result = .ok "\x7bwho\x7d: \x7bx\x7d" ∧
        (once.1.render default "\x7bwho\x7d: \x7bx\x7d" .none (some "de")).2.result =
          .ok "\x7bwho\x7d: \x7bx\x7d" := by
  intro r once
  have hquote : '\'' ∉ receipt.toList := by decide +kernel
  have hshown : once.2.result = .ok "\x7bwho\x7d: \x7bx\x7d" := by decide +kernel
  obtain ⟨hidempotent, hlong⟩ :=
    r.render_render default default receipt none (some "de") rfl hquote
  obtain ⟨text, htext, hagain⟩ := hidempotent.2 fun ⟨n, hn⟩ ↦ by
    rw [show once.2.result = _ from hlong n hn] at hshown
    cases hshown
  obtain rfl := Except.ok.inj (htext.symm.trans hshown)
  exact ⟨rfl, hquote, hshown, hagain⟩

end Renderer

end Phrasebook
