import Phrasebook.Proofs.Failures
import Phrasebook.Proofs.OpenTexts
import Phrasebook.Proofs.WrittenNames

/-!
What is reported as missing.

What a template shows does not depend on how the program wants missing values to be shown: there is
one row of texts and places, and the program is asked for each place (`Outline.result_fill_parts`).
`Scene.Lacks` says without an outline when an element lacks a value, and under which name. These are
the names of the places (`Scene.hole_mem_element`), and the author has written them as names of
arguments: a placeholder leads back to the argument that it stands for
(`Renderer.Lacks.writesName`).
-/

set_option autoImplicit false

namespace Phrasebook

open Message Template Text

/-! ### Filling the places -/

namespace Part

/-- What stands for a part, where `ask` says what stands in the places. -/
def answer (ask : String → Except CallFault String) : Part → Except CallFault String
  | .text s => .ok s
  | .place name => ask name

/-- The whole text, unless asking for one of the places fails. They are asked for from left to
right. -/
def fill (ask : String → Except CallFault String) : List Part → Except CallFault String
  | [] => .ok ""
  | p :: parts => (p.answer ask).bind fun s ↦ (fill ask parts).map (s ++ ·)

/-- Where every place has an answer, the text is joined from them. -/
theorem fill_of_answers {ask : String → Except CallFault String} {f : String → String}
    (h : ∀ name, ask name = .ok (f name)) (parts : List Part) :
    fill ask parts = .ok (join f parts) := by
  induction parts with
  | nil => rfl
  | cons p parts ih =>
    rw [fill, ih, join_cons]
    cases p with
    | text s => rfl
    | place name =>
      rw [answer, h]
      rfl

end Part

/-- The part that a segment is, if something is shown for it. -/
def Segment.part? : Segment → Option Part
  | .text _ s => some (.text s)
  | .hole name => some (.place name)
  | .notice _ | .fault _ => none

namespace Outline

variable {missing : String → Except CallFault String} {o : Outline} {name text : String}

/-- The row of texts and places. -/
def parts (o : Outline) : List Part :=
  o.filterMap Segment.part?

theorem place_mem_parts : .place name ∈ o.parts ↔ .hole name ∈ o := by
  rw [parts, List.mem_filterMap]
  constructor
  · rintro ⟨segment, hmem, hpart⟩
    cases segment with
    | hole other =>
      obtain rfl := Part.place.inj (Option.some.inj hpart)
      exact hmem
    | text origin s => cases hpart
    | notice n => cases hpart
    | fault f => cases hpart
  · intro hmem
    exact ⟨.hole name, hmem, rfl⟩

theorem fault_notMem_of_fill (h : (fill missing o).result = .ok text) (f : Fault) :
    .fault f ∉ o := by
  induction o generalizing text with
  | nil => exact List.not_mem_nil
  | cons segment o ih =>
    obtain ⟨w, rest, hw, hrest, -⟩ := exists_of_fill_cons h
    rw [List.mem_cons, not_or]
    refine ⟨?_, ih hrest⟩
    rintro rfl
    exact hw

/-- Where nothing fails, the places are all that is asked for. -/
theorem result_fill_parts (h : ∀ f, .fault f ∉ o) :
    (fill missing o).result = (Part.fill missing o.parts).mapError .call := by
  have joined (s : String) {a : Answer String} {e : Except CallFault String}
      (ha : a.result = e.mapError .call) :
      (a.map (s ++ ·)).result = (e.map (s ++ ·)).mapError .call := by
    rw [Answer.map, ha]
    cases e <;> rfl
  induction o with
  | nil => rfl
  | cons segment o ih =>
    have ih := ih fun f hf ↦ h f (List.mem_cons_of_mem _ hf)
    cases segment with
    | text origin s => exact joined s ih
    | hole name =>
      rw [fill]
      change _ = ((missing name).bind fun s ↦ (Part.fill missing (parts o)).map (s ++ ·)).mapError _
      cases missing name with
      | error f => rfl
      | ok s => exact joined s ih
    | notice n => exact ih
    | fault f => exact absurd List.mem_cons_self (h f)

end Outline

/-! ### Lacking a value -/

namespace Scene

variable {scene : Scene} {x name : String} {v : Value}

/-- The value of a variable, where values have names. -/
def value? (scene : Scene) (name : String) : Option Value :=
  match scene.values with
  | .named value => some (value name)
  | .nameless => none

/-- The value is not what the argument that was put aside needs, or no formatter writes it. -/
def AsideLacks (scene : Scene) (a : ExtensionArgument) (v : Value) : Prop :=
  match a.extension with
  | .custom formatter style => v.isAbsent = true ∨
    ∀ f, scene.formatter? formatter = some f → ∃ e, f.format v scene.locale style = .error e
  | .currency _ | .compact _ => v.readNumber? = none
  | .relativeTime _ => v.readMoment? = none
  | .list _ _ => ∀ items, v ≠ .list items
  | .unknown _ => False

/-- An element, or an element of the branch that is chosen, lacks a value under a name. A plain
argument in the form of a placeholder lacks none, unless it stands for an argument put aside. -/
inductive Lacks (scene : Scene) : Element → String → Prop
  | argument {name : String} {v : Value} : scene.asides.lookup name = none →
      scene.value? name = some v → v.isAbsent = true → hasPlaceholderForm name = false →
      Lacks scene (.argument name) name
  | aside {name : String} {a : ExtensionArgument} {v : Value} :
      scene.asides.lookup name = some a → scene.value? a.name = some v → scene.AsideLacks a v →
      Lacks scene (.argument name) a.name
  | count {name : String} {kind : PluralKind} {offset : Int} {os : List (String × Message)}
      {v : Value} : scene.value? name = some v → v.number? = none →
      Lacks scene (.plural name kind offset os) name
  | form {name : String} {kind : PluralKind} {offset : Int} {os : List (String × Message)}
      {v : Value} {n lowered : Number} : scene.value? name = some v → v.number? = some n →
      n.lower offset = .ok lowered →
      Plural.branch? os n lowered scene.locale kind scene.book = .ok none →
      Lacks scene (.plural name kind offset os) name
  | inPlural {name x : String} {kind : PluralKind} {offset : Int} {os : List (String × Message)}
      {v : Value} {n lowered : Number} {m : Message} {e : Element} :
      scene.value? name = some v → v.number? = some n → n.lower offset = .ok lowered →
      Plural.branch? os n lowered scene.locale kind scene.book = .ok (some m) → e ∈ m →
      Lacks scene e x → Lacks scene (.plural name kind offset os) x
  | branch {name : String} {os : List (String × Message)} {v : Value} :
      scene.value? name = some v → v.isOverlong = false → selectBranch? os v = none →
      Lacks scene (.select name os) name
  | inSelect {name x : String} {os : List (String × Message)} {v : Value} {m : Message}
      {e : Element} : scene.value? name = some v → v.isOverlong = false →
      selectBranch? os v = some m → e ∈ m → Lacks scene e x → Lacks scene (.select name os) x
  | number {name : String} {style : Option String} {options : Option NumberOptions} {v : Value} :
      scene.value? name = some v → v.readNumber? = none →
      Lacks scene (.number name style options) name
  | date {name : String} {style skeleton : Option String} {v : Value} :
      scene.value? name = some v → v.readMoment? = none →
      Lacks scene (.date name style skeleton) name
  | time {name : String} {style skeleton : Option String} {v : Value} :
      scene.value? name = some v → v.readMoment? = none →
      Lacks scene (.time name style skeleton) name

/-! ### The holes of an outline -/

theorem hole_mem_withValue {f : Value → Outline} :
    .hole x ∈ scene.withValue name f ↔ ∃ v, scene.value? name = some v ∧ .hole x ∈ f v := by
  unfold withValue value?
  cases scene.values with
  | named value => simp
  | nameless => simp

theorem hole_ne_shown : Segment.hole x ≠ shown v := by
  unfold shown
  split <;> exact nofun

theorem hole_mem_plain :
    .hole x ∈ plain name v ↔ v.isAbsent = true ∧ x = name := by
  unfold plain
  cases v.isAbsent with
  | true => simp
  | false => simp [hole_ne_shown]

theorem hole_notMem_written (r : Except FormatFault String) : .hole x ∉ [written v r] := by
  rw [List.mem_singleton]
  unfold written
  split
  · exact nofun
  · split
    · exact hole_ne_shown
    · exact nofun

/-- What is written in one way leaves a hole only where the value cannot be read. -/
theorem hole_mem_orHole {α : Type} {reading : Option α} {f : α → Outline}
    (hf : ∀ a, .hole x ∉ f a) :
    .hole x ∈ orHole name reading f ↔ reading = none ∧ x = name := by
  cases reading with
  | none => simp [orHole]
  | some a => simp [orHole, hf a]

theorem hole_mem_custom (formatter : String) (style : Option String) :
    .hole x ∈ scene.custom name v formatter style ↔ (v.isAbsent = true ∨
      ∀ f, scene.formatter? formatter = some f → ∃ e, f.format v scene.locale style = .error e) ∧
        x = name := by
  unfold custom
  cases v.isAbsent with
  | true => simp
  | false =>
    cases scene.formatter? formatter with
    | none => simp
    | some f => cases hf : f.format v scene.locale style <;> simp [hf]

/-- An argument that was put aside leaves a hole under its own name. -/
theorem hole_mem_extension (a : ExtensionArgument) :
    .hole x ∈ scene.extension a ↔
      ∃ v, scene.value? a.name = some v ∧ scene.AsideLacks a v ∧ x = a.name := by
  unfold extension AsideLacks
  rw [hole_mem_withValue]
  refine exists_congr fun v ↦ and_congr_right fun _ ↦ ?_
  cases a.extension with
  | custom formatter style => exact hole_mem_custom formatter style
  | currency code => exact hole_mem_orHole fun n ↦ hole_notMem_written _
  | compact display => exact hole_mem_orHole fun n ↦ hole_notMem_written _
  | relativeTime style => exact hole_mem_orHole fun m ↦ hole_notMem_written _
  | list kind length =>
    cases v with
    | list items => simpa using hole_notMem_written _
    | _ => simp
  | unknown kind => simp

theorem hole_mem_argument :
    .hole x ∈ scene.argument name ↔ scene.Lacks (.argument name) x := by
  unfold argument
  cases hlookup : scene.asides.lookup name with
  | some a =>
    dsimp only
    rw [hole_mem_extension]
    constructor
    · rintro ⟨v, hv, hlacks, rfl⟩
      exact .aside hlookup hv hlacks
    · intro h
      cases h with
      | argument hnone _ _ _ =>
        rw [hlookup] at hnone
        cases hnone
      | aside ha hv hlacks =>
        obtain rfl := Option.some.inj (hlookup.symm.trans ha)
        exact ⟨_, hv, hlacks, rfl⟩
  | none =>
    dsimp only
    rw [hole_mem_withValue]
    constructor
    · rintro ⟨v, hv, hmem⟩
      cases hform : hasPlaceholderForm name with
      | false =>
        rw [hform, Bool.and_false, if_neg Bool.false_ne_true, hole_mem_plain] at hmem
        obtain ⟨habsent, rfl⟩ := hmem
        exact .argument hlookup hv habsent hform
      | true =>
        rw [hform, Bool.and_true] at hmem
        split at hmem
        · simp at hmem
        · rename_i habsent
          exact absurd (hole_mem_plain.1 hmem).1 habsent
    · intro h
      cases h with
      | argument _ hv habsent hform =>
        refine ⟨_, hv, ?_⟩
        rw [hform, Bool.and_false, if_neg Bool.false_ne_true, hole_mem_plain]
        exact ⟨habsent, rfl⟩
      | aside ha _ _ =>
        rw [hlookup] at ha
        cases ha

theorem hole_mem_number {style : Option String} {options : Option NumberOptions} :
    .hole x ∈ scene.number name style options ↔ scene.Lacks (.number name style options) x := by
  unfold number
  rw [hole_mem_withValue]
  constructor
  · rintro ⟨v, hv, hmem⟩
    obtain ⟨hnone, rfl⟩ := (hole_mem_orHole fun n ↦ hole_notMem_written _).1 hmem
    exact .number hv hnone
  · intro h
    cases h with
    | number hv hnone =>
      exact ⟨_, hv, (hole_mem_orHole fun n ↦ hole_notMem_written _).2 ⟨hnone, rfl⟩⟩

theorem hole_mem_moment {format : Value → String → LocaleBook → Except FormatFault String} :
    .hole x ∈ scene.moment name format ↔
      ∃ v, scene.value? name = some v ∧ v.readMoment? = none ∧ x = name := by
  unfold moment
  rw [hole_mem_withValue]
  exact exists_congr fun v ↦ and_congr_right fun _ ↦
    hole_mem_orHole fun m ↦ hole_notMem_written _

/-- The holes of a plural argument, given those of its branches. -/
theorem hole_mem_plural {pound : Option Value} {kind : PluralKind} {offset : Int}
    {os : List (String × Message)}
    (hos : ∀ pound, ∀ o ∈ os, .hole x ∈ scene.message pound o.2 ↔ ∃ e ∈ o.2, scene.Lacks e x) :
    .hole x ∈ scene.element pound (.plural name kind offset os) ↔
      scene.Lacks (.plural name kind offset os) x := by
  simp only [element, hole_mem_withValue]
  constructor
  · rintro ⟨v, hv, hmem⟩
    cases hn : v.number? with
    | none =>
      rw [hn] at hmem
      obtain rfl := Segment.hole.inj (List.mem_singleton.1 hmem)
      exact .count hv hn
    | some n =>
      simp only [hn, orHole] at hmem
      cases hlower : n.lower offset with
      | error f => simp [hlower] at hmem
      | ok lowered =>
        simp only [hlower, options_eq_map, branch?_map] at hmem
        cases hbranch : Plural.branch? os n lowered scene.locale kind scene.book with
        | error f => simp [hbranch, Except.map] at hmem
        | ok branch =>
          simp only [hbranch, Except.map] at hmem
          cases branch with
          | none =>
            obtain rfl := Segment.hole.inj (List.mem_singleton.1 hmem)
            exact .form hv hn hlower hbranch
          | some m =>
            obtain ⟨o, ho, rfl⟩ := mem_of_branch? hbranch
            obtain ⟨e, he, hlacks⟩ := (hos _ o ho).1 hmem
            exact .inPlural hv hn hlower hbranch he hlacks
  · intro h
    cases h with
    | count hv hnone =>
      refine ⟨_, hv, ?_⟩
      rw [hnone]
      exact List.mem_singleton.2 rfl
    | form hv hn hlower hbranch =>
      refine ⟨_, hv, ?_⟩
      simp only [hn, orHole, hlower, options_eq_map, branch?_map, hbranch, Except.map]
      exact List.mem_singleton.2 rfl
    | inPlural hv hn hlower hbranch he hlacks =>
      refine ⟨_, hv, ?_⟩
      simp only [hn, orHole, hlower, options_eq_map, branch?_map, hbranch, Except.map]
      obtain ⟨o, ho, rfl⟩ := mem_of_branch? hbranch
      exact (hos _ o ho).2 ⟨_, he, hlacks⟩

/-- The holes of a select argument, given those of its branches. -/
theorem hole_mem_select {pound : Option Value} {os : List (String × Message)}
    (hos : ∀ pound, ∀ o ∈ os, .hole x ∈ scene.message pound o.2 ↔ ∃ e ∈ o.2, scene.Lacks e x) :
    .hole x ∈ scene.element pound (.select name os) ↔ scene.Lacks (.select name os) x := by
  simp only [element, hole_mem_withValue, selected, options_eq_map, selectBranch?_map]
  constructor
  · rintro ⟨v, hv, hmem⟩
    cases hlong : v.isOverlong with
    | true => simp [hlong] at hmem
    | false =>
      rw [hlong, if_neg Bool.false_ne_true] at hmem
      cases hbranch : selectBranch? os v with
      | none =>
        rw [hbranch] at hmem
        obtain rfl := Segment.hole.inj (List.mem_singleton.1 hmem)
        exact .branch hv hlong hbranch
      | some m =>
        rw [hbranch] at hmem
        obtain ⟨o, ho, rfl⟩ := mem_of_selectBranch? hbranch
        obtain ⟨e, he, hlacks⟩ := (hos _ o ho).1 hmem
        exact .inSelect hv hlong hbranch he hlacks
  · intro h
    cases h with
    | branch hv hlong hnone =>
      refine ⟨_, hv, ?_⟩
      rw [hlong, if_neg Bool.false_ne_true, hnone]
      exact List.mem_singleton.2 rfl
    | inSelect hv hlong hbranch he hlacks =>
      refine ⟨_, hv, ?_⟩
      rw [hlong, if_neg Bool.false_ne_true, hbranch]
      obtain ⟨o, ho, rfl⟩ := mem_of_selectBranch? hbranch
      exact (hos _ o ho).2 ⟨_, he, hlacks⟩

mutual

/-- An outline has holes for what the element lacks. -/
theorem hole_mem_element (pound : Option Value) (e : Element) :
    .hole x ∈ scene.element pound e ↔ scene.Lacks e x := by
  cases e with
  | literal s => simpa [element] using fun h ↦ nomatch h
  | argument name => exact hole_mem_argument
  | pound =>
    constructor
    · intro h
      rw [element, List.mem_singleton] at h
      cases pound with
      | none => cases h
      | some v => exact absurd h hole_ne_shown
    · exact nofun
  | plural name kind offset os => exact hole_mem_plural fun pound ↦ hole_mem_options pound os
  | select name os => exact hole_mem_select fun pound ↦ hole_mem_options pound os
  | number name style options => exact hole_mem_number
  | date name style skeleton =>
    rw [element, hole_mem_moment]
    constructor
    · rintro ⟨v, hv, hnone, rfl⟩
      exact .date hv hnone
    · intro h
      cases h with
      | date hv hnone => exact ⟨_, hv, hnone, rfl⟩
  | time name style skeleton =>
    rw [element, hole_mem_moment]
    constructor
    · rintro ⟨v, hv, hnone, rfl⟩
      exact .time hv hnone
    · intro h
      cases h with
      | time hv hnone => exact ⟨_, hv, hnone, rfl⟩
  | foreign kind => simpa [element] using fun h ↦ nomatch h

theorem hole_mem_message (pound : Option Value) (m : Message) :
    .hole x ∈ scene.message pound m ↔ ∃ e ∈ m, scene.Lacks e x := by
  cases m with
  | nil => simp [message]
  | cons e es =>
    rw [message, List.mem_append, hole_mem_element pound e, hole_mem_message pound es]
    simp

theorem hole_mem_options (pound : Option Value) (os : List (String × Message)) :
    ∀ o ∈ os, .hole x ∈ scene.message pound o.2 ↔ ∃ e ∈ o.2, scene.Lacks e x := by
  cases os with
  | nil => exact List.forall_mem_nil _
  | cons o os =>
    exact List.forall_mem_cons.2 ⟨hole_mem_message pound o.2, hole_mem_options pound os⟩

end

/-- The holes of a template that is filled in directly. -/
theorem hole_mem_simple {s : List Char} : .hole x ∈ scene.simple s ↔
    .found x ∈ plainVariable.pieces s ∧ ∃ v, scene.value? x = some v ∧ v.isAbsent = true := by
  rw [simple, List.mem_flatMap]
  constructor
  · rintro ⟨piece, hpiece, hmem⟩
    cases piece with
    | char c => simp at hmem
    | found name =>
      obtain ⟨v, hv, hmem⟩ := hole_mem_withValue.1 hmem
      obtain ⟨habsent, rfl⟩ := hole_mem_plain.1 hmem
      exact ⟨hpiece, v, hv, habsent⟩
  · rintro ⟨hpiece, v, hv, habsent⟩
    exact ⟨.found x, hpiece, hole_mem_withValue.2 ⟨v, hv, hole_mem_plain.2 ⟨habsent, rfl⟩⟩⟩

/-! ### The names -/

/-- What an element lacks is a name in it, or the name of what its name was put aside as. -/
theorem Lacks.name_cases {literal plain typed : String → Prop} {e : Element}
    (h : scene.Lacks e x) (he : e.Parts literal plain typed) :
    plain x ∧ scene.asides.lookup x = none ∨ typed x ∨
      ∃ token a, plain token ∧ scene.asides.lookup token = some a ∧ a.name = x := by
  induction h with
  | argument hnone _ _ _ => exact .inl ⟨he, hnone⟩
  | aside hlookup _ _ => exact .inr (.inr ⟨_, _, he, hlookup, rfl⟩)
  | inPlural _ _ _ hbranch hmem _ ih =>
    obtain ⟨o, ho, rfl⟩ := mem_of_branch? hbranch
    exact ih (messageParts_iff.1 (optionsParts_iff.1 he.2 o ho) _ hmem)
  | inSelect _ _ hbranch hmem _ ih =>
    obtain ⟨o, ho, rfl⟩ := mem_of_selectBranch? hbranch
    exact ih (messageParts_iff.1 (optionsParts_iff.1 he.2 o ho) _ hmem)
  | count _ _ | form _ _ _ _ | branch _ _ _ => exact .inr (.inl he.1)
  | number _ _ | date _ _ | time _ _ => exact .inr (.inl he)

end Scene

/-! ### Templates -/

namespace Template

/-- What a shape finds in a text stands there after a brace. -/
theorem atBrace_of_mem_pieces {α : Type} {shape : Shape α} {a : α} {s : List Char}
    (h : .found a ∈ shape.pieces s) : AtBrace (fun t ↦ ∃ u, shape.read t = some (a, u)) s := by
  fun_induction Shape.pieces shape s with
  | case1 => cases h
  | case2 s b u hread _ ih =>
    rcases List.mem_cons.1 h with he | h
    · obtain rfl := Piece.found.inj he
      exact ⟨s, List.suffix_rfl, u, hread⟩
    · exact (ih h).of_suffix ((shape.cuts _ _ _ hread).trans (List.suffix_cons _ s))
  | case3 s _ ih =>
    exact (ih ((List.mem_cons.1 h).resolve_left (by simp))).of_suffix (List.suffix_cons _ s)
  | case4 c s _ ih =>
    exact (ih ((List.mem_cons.1 h).resolve_left (by simp))).of_suffix (List.suffix_cons _ s)

theorem beginsName_of_plainVariable {name : String} {t u : List Char}
    (h : plainVariable.read t = some (name, u)) : BeginsName name '}' t := by
  obtain ⟨hname, rfl⟩ := append_of_plainVariable h
  exact beginsName_of_isWordName hname (.refl _) (.refl _)

end Template

namespace Renderer

section Lacks

variable (r : Renderer) (clock : Calendar.Moment) (template : String) (values : Values)
  (tag name : String)

/-- A template lacks a value under a name: a variable of one that is filled in directly has no
value, or an element of its message lacks one. -/
inductive Lacks : Prop
  | direct {v : Value} : needsMessage r.roster.names template.toList = false →
      .found name ∈ plainVariable.pieces template.toList →
      (r.scene clock values tag).value? name = some v → v.isAbsent = true → Lacks
  | read {m : Message} {e : Element} : needsMessage r.roster.names template.toList = true →
      Message.parse (r.readForm template) = .ok m → e ∈ m →
      (r.preparedScene clock template values tag).Lacks e name → Lacks

variable {r clock template values tag name}

/-- Every name under which a template lacks a value is one of the author. It is that of an argument,
unless the author wrote a placeholder, which may stand for a form for zero. -/
theorem Lacks.writesName (h : r.Lacks clock template values tag name) :
    WritesName template.toList name ∨ WritesInZeroForm template.toList name ∧
      ∃ token, hasPlaceholderForm token = true ∧ WritesName template.toList token := by
  cases h with
  | direct _ hpiece _ _ =>
    refine .inl ((atBrace_of_mem_pieces hpiece).mono fun t ht ↦ ?_)
    obtain ⟨u, hread⟩ := ht
    exact ⟨'}', .inr rfl, beginsName_of_plainVariable hread⟩
  | read _ hparse he hlacks =>
    obtain ⟨htyped, hplain, hasides⟩ :=
      writesName_of_prepare r.roster.braceFree_names template.toList
    have hparts := Grammar.parts_of_parse hparse
    rcases hlacks.name_cases (messageParts_iff.1 hparts _ he) with
      ⟨hname, hnone⟩ | hname | ⟨token, a, htoken, hlookup, rfl⟩
    · refine .inl ((hplain name hname).resolve_right ?_)
      rintro ⟨a, ha, -⟩
      exact absurd (hnone.symm.trans ha) nofun
    · exact .inl (htyped name hname)
    · rcases hplain token htoken with hwritten | ⟨b, hb, hwritten⟩
      · obtain ⟨hform, hname⟩ := hasides token a hlookup
        exact hname.imp_right fun hzero ↦ ⟨hzero, token, hform, hwritten⟩
      · obtain rfl := Option.some.inj (hlookup.symm.trans hb)
        exact .inl hwritten

/-- The holes of an outline are what the template lacks. -/
theorem hole_mem_outline {o : Outline}
    (h : (r.outline clock template values tag).2.result = .ok o) :
    .hole name ∈ o ↔ r.Lacks clock template values tag name := by
  rw [result_outline] at h
  cases hneeds : needsMessage r.roster.names template.toList with
  | false =>
    rw [hneeds, if_neg Bool.false_ne_true] at h
    rw [← Except.ok.inj h, Scene.hole_mem_simple]
    constructor
    · rintro ⟨hpiece, v, hv, habsent⟩
      exact .direct hneeds hpiece hv habsent
    · intro hlacks
      cases hlacks with
      | direct _ hpiece hv habsent => exact ⟨hpiece, _, hv, habsent⟩
      | read hneeds' => exact absurd (hneeds.symm.trans hneeds') (by decide)
  | true =>
    rw [hneeds, if_pos rfl] at h
    change ((Message.parse (r.readForm template)).mapError Fault.template).map
      ((r.preparedScene clock template values tag).message none) = .ok o at h
    cases hparse : Message.parse (r.readForm template) with
    | error f =>
      rw [hparse] at h
      cases h
    | ok m =>
      rw [hparse] at h
      rw [← Except.ok.inj h, Scene.hole_mem_message]
      constructor
      · rintro ⟨e, he, hlacks⟩
        exact .read hneeds hparse he hlacks
      · intro hlacks
        cases hlacks with
        | direct hneeds' => exact absurd (hneeds.symm.trans hneeds') (by decide)
        | read _ hparse' he hlacks =>
          obtain rfl := Except.ok.inj (hparse.symm.trans hparse')
          exact ⟨_, he, hlacks⟩

end Lacks

variable (r : Renderer) (clock : Calendar.Moment) (template : String) (values : Values)
  (locale : Option String)

/-- The renderer with another handler of missing values. -/
def withMissing (r : Renderer) (handler : Option (String → String → Except CallFault String)) :
    Renderer :=
  r.withSettings { r.settings with missingVariable := handler }

/-- It is what `configure` leaves. -/
theorem configure_missingVariable
    (handler : Option (String → String → Except CallFault String)) :
    r.configure [.missingVariable handler] = .ok (r.withMissing handler) :=
  rfl

/-- Whatever the handler, the same outline is filled. -/
theorem result_tryRender_withMissing
    (handler : Option (String → String → Except CallFault String)) :
    ((r.withMissing handler).tryRender clock template values locale).2.result =
      (r.outline clock template values (r.settings.localeOr locale)).2.result.bind fun o ↦
        (o.fill ((r.withMissing handler).missing (r.settings.localeOr locale))).result := by
  rw [result_tryRender, result_outline, result_outline]
  rfl

/-- If a template is rendered, then it is one row of texts and places that does not depend on how
missing values are shown. A handler is asked for each place from left to right, and without one the
name stands there in braces. The places are what the template lacks, under names that the author
gave to arguments. Only if one of these has the form of a placeholder may a name come from a form
for zero. -/
theorem exists_parts_of_tryRender {text : String}
    (h : (r.tryRender clock template values locale).2.result = .ok text) :
    let tag := r.settings.localeOr locale
    let shown (handler : Option (String → String → Except CallFault String)) :=
      ((r.withMissing handler).tryRender clock template values locale).2.result
    ∃ parts : List Part,
      (∀ handler, shown (some handler) =
        (Part.fill (handler · tag) parts).mapError .call) ∧
      (∀ handler : String → String → String, shown (some fun name tag ↦ .ok (handler name tag)) =
        .ok (Part.join (handler · tag) parts)) ∧
      shown none = .ok (Part.join inBraces parts) ∧
      (∀ name, .place name ∈ parts ↔ r.Lacks clock template values tag name) ∧
      ∀ name, .place name ∈ parts → WritesName template.toList name ∨
        WritesInZeroForm template.toList name ∧
          ∃ token, hasPlaceholderForm token = true ∧ WritesName template.toList token := by
  intro tag shown
  rw [result_tryRender] at h
  cases ho : (r.outline clock template values tag).2.result with
  | error f =>
    rw [ho] at h
    cases h
  | ok o =>
    rw [ho] at h
    have hfaults := Outline.fault_notMem_of_fill h
    have hshown (handler : Option (String → String → Except CallFault String)) : shown handler =
        (Part.fill ((r.withMissing handler).missing tag) o.parts).mapError .call := by
      rw [← Outline.result_fill_parts hfaults]
      simp only [shown, result_tryRender_withMissing]
      rw [ho]
      rfl
    have hplaces (name : String) :
        .place name ∈ o.parts ↔ r.Lacks clock template values tag name :=
      Outline.place_mem_parts.trans (hole_mem_outline ho)
    refine ⟨o.parts, ?_, ?_, ?_, hplaces, ?_⟩
    · intro handler
      exact hshown (some handler)
    · intro handler
      have hanswers (name : String) : (r.withMissing (some fun name tag ↦
          .ok (handler name tag))).missing tag name = .ok (handler name tag) := rfl
      rw [hshown, Part.fill_of_answers hanswers]
      rfl
    · rw [hshown, Part.fill_of_answers fun name ↦ missing_of_none rfl tag name]
      rfl
    · intro name hname
      exact ((hplaces name).1 hname).writesName

/-- A template with a plain argument, an amount of money and a choice. -/
def bill : String := "\x7bwho\x7d: \x7bx, currency\x7d \x7bkind, select, card \x7b-\x7d\x7d"

/-- Without values all three are places, under the names that the author wrote. -/
theorem exists_parts_bill :
    let r := ofSettings {} {}
    let shown (handler : String → String → String) := ((r.withMissing (some fun name tag ↦
      .ok (handler name tag))).tryRender default bill .none none).2.result
    (r.tryRender default bill .none none).2.result = .ok "\x7bwho\x7d: \x7bx\x7d \x7bkind\x7d" ∧
      ∃ parts : List Part, Part.join inBraces parts = "\x7bwho\x7d: \x7bx\x7d \x7bkind\x7d" ∧
        (∀ handler, shown handler = .ok (Part.join (handler · "en") parts)) ∧
        ∀ name, .place name ∈ parts → WritesName bill.toList name ∨
          WritesInZeroForm bill.toList name ∧
            ∃ token, hasPlaceholderForm token = true ∧ WritesName bill.toList token := by
  intro r shown
  have hbraces : (r.tryRender default bill .none none).2.result =
      .ok "\x7bwho\x7d: \x7bx\x7d \x7bkind\x7d" := by
    decide +kernel
  obtain ⟨parts, -, hshown, hnone, -, hnames⟩ :=
    r.exists_parts_of_tryRender default bill .none none hbraces
  have hjoin := hnone.symm.trans hbraces
  exact ⟨hbraces, parts, Except.ok.inj hjoin, hshown, hnames⟩

/-- A message with an argument in the form of a placeholder, which stands for nothing. -/
def disguised : String := "\x7b__LIST_5__\x7d: \x7bkind, select, other \x7b-\x7d\x7d"

/-- An argument in the form of a placeholder, which comes to stand for a form for zero. -/
def coincident : String := "\x7b__LIST_0__\x7d: \x7bn, p, x, list|a|b\x7d"

theorem not_writesName_coincident : ¬ WritesName coincident.toList "x" := by
  have htext : coincident.toList = '{' :: ("__LIST_0__".toList ++ '}' ::
      (": ".toList ++ '{' :: ("n, p, x, list|a|b".toList ++ '}' :: []))) := by
    decide
  have hfirst (s : List Char) :
      BeginsName "__LIST_0__" '}' ("__LIST_0__".toList ++ '}' :: s) :=
    beginsName_of_isWordName (by decide) (.refl _) (.refl _)
  have hsecond (s : List Char) : BeginsName "n" ',' ("n, p, x, list|a|b".toList ++ s) :=
    beginsName_of_isWordName (by decide) (.refl _) (.refl _)
  rw [WritesName, htext, atBrace_group (by decide), atBrace_append (by decide),
    atBrace_group (by decide)]
  rintro (⟨d, hd, h⟩ | ⟨d, hd, h⟩ | h)
  · exact absurd (h.unique (hfirst _) hd (.inr rfl)).1 (by decide)
  · exact absurd (h.unique (hsecond _) hd (.inl rfl)).1 (by decide)
  · exact atBrace_nil h

/-- The argument that stands for nothing has no value, but it is shown as it was written and no
handler is asked for it. The other one is asked for under a name that is one of no argument. -/
theorem tryRender_disguised :
    let r := ofSettings {} {}
    let shown (template : String) (handler : String → String → String) :=
      ((r.withMissing (some fun name tag ↦ .ok (handler name tag))).tryRender default template
        .none none).2.result
    ((∀ handler, shown disguised handler = .ok "\x7b__LIST_5__\x7d: -") ∧
      ¬ ∃ parts : List Part, .place "__LIST_5__" ∈ parts ∧
        ∀ handler, shown disguised handler = .ok (Part.join (handler · "en") parts)) ∧
    (∀ handler, shown coincident handler =
      .ok (Part.join (handler · "en") [.place "x", .text ": ", .place "n"])) ∧
      ¬ WritesName coincident.toList "x" := by
  intro r shown
  have hlocale : r.settings.localeOr none = "en" := rfl
  have hdisguised : (r.outline default disguised .none "en").2.result =
      .ok [.text .template "\x7b__LIST_5__\x7d", .text .template ": ", .text .template "-"] := by
    decide +kernel
  have hcoincident : (r.outline default coincident .none "en").2.result =
      .ok [.hole "x", .text .template ": ", .hole "n"] := by
    decide +kernel
  have hshown : ∀ handler, shown disguised handler = .ok "\x7b__LIST_5__\x7d: -" := by
    intro handler
    simp only [shown, result_tryRender_withMissing, hlocale, hdisguised]
    rfl
  refine ⟨⟨hshown, ?_⟩, ?_, not_writesName_coincident⟩
  · rintro ⟨parts, hplace, hparts⟩
    have hjoin := Except.ok.inj ((hparts fun _ _ ↦ "?").symm.trans (hshown fun _ _ ↦ "?"))
    have hmark : '?' ∈ (Part.join (fun _ ↦ "?") parts).toList :=
      Part.mem_join hplace (by decide)
    rw [hjoin] at hmark
    exact absurd hmark (by decide)
  · intro handler
    have hanswers (name : String) : (r.withMissing (some fun name tag ↦
        .ok (handler name tag))).missing "en" name = .ok (handler name "en") := rfl
    simp only [shown, result_tryRender_withMissing, hlocale, hcoincident, Except.bind]
    rw [Outline.result_fill_parts (by simp), Part.fill_of_answers hanswers]
    rfl

end Renderer

end Phrasebook
