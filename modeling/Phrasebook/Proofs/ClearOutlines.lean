import Phrasebook.Proofs.Marks
import Phrasebook.Proofs.PlainTexts
import Phrasebook.Rendering.Scene
import Phrasebook.Table

/-!
Outlines without underscores.

In a scene whose values have no underscore, what is shown of a tidy message has none but those of
the placeholders that its literals have (`Scene.tidy_message`), whatever formatters write. A
placeholder in the place of an argument is never shown: it leads to the argument that was put
aside.
-/

set_option autoImplicit false

namespace Phrasebook

open Grammar Template

/-- What a segment shows has no underscore but those of placeholders in a text that the author
wrote. What formatters write is not looked at. A fault is not one of the template, which has been
read. -/
def Segment.Tidy (tokens : List String) : Segment → Prop
  | .text .template s => Marked tokens s.toList ∨ s ∈ tokens
  | .text .value s => '_' ∉ s.toList
  | .hole name => '_' ∉ name.toList
  | .fault f => ∀ e, f ≠ .template e
  | .text .output _ | .notice _ => True

/-- All segments are tidy. -/
def Outline.Tidy (tokens : List String) (o : Outline) : Prop :=
  ∀ segment ∈ o, segment.Tidy tokens

/-- The values have no underscore in their plain texts. -/
def Values.Clear (values : Values) : Prop :=
  ∀ f, values = .named f → ∀ name, '_' ∉ (f name).plainText.toList

namespace Scene

variable {tokens : List String} {scene : Scene}

theorem tidy_singleton {segment : Segment} (h : segment.Tidy tokens) :
    Outline.Tidy tokens [segment] :=
  List.forall_mem_singleton.2 h

theorem tidy_hole {name : String} (h : '_' ∉ name.toList) : Outline.Tidy tokens [.hole name] :=
  tidy_singleton h

theorem tidy_fault {f : Fault} (h : ∀ e, f ≠ .template e) : Outline.Tidy tokens [.fault f] :=
  tidy_singleton h

theorem tidy_withValue {name : String} {f : Value → Outline} (hvalues : scene.values.Clear)
    (h : ∀ v, '_' ∉ v.plainText.toList → Outline.Tidy tokens (f v)) :
    Outline.Tidy tokens (scene.withValue name f) := by
  unfold withValue
  split
  · rename_i value hvalue
    exact h _ (hvalues value hvalue name)
  · exact tidy_fault (by simp)

theorem tidy_orHole {α : Type} {name : String} {reading : Option α} {f : α → Outline}
    (hname : '_' ∉ name.toList) (h : ∀ a, Outline.Tidy tokens (f a)) :
    Outline.Tidy tokens (orHole name reading f) := by
  unfold orHole
  split
  · exact h _
  · exact tidy_hole hname

theorem tidy_shown {v : Value} (h : '_' ∉ v.plainText.toList) : (shown v).Tidy tokens := by
  unfold shown
  split
  · exact fun e ↦ by simp
  · exact h

theorem tidy_written {v : Value} (h : '_' ∉ v.plainText.toList) (r : Except FormatFault String) :
    Outline.Tidy tokens [written v r] := by
  refine tidy_singleton ?_
  unfold written
  split
  · trivial
  · split
    · exact tidy_shown h
    · exact fun e ↦ by simp

theorem tidy_plain {name : String} (hname : '_' ∉ name.toList) {v : Value}
    (hv : '_' ∉ v.plainText.toList) : Outline.Tidy tokens (plain name v) := by
  unfold plain
  split
  · exact tidy_hole hname
  · exact tidy_singleton (tidy_shown hv)

theorem tidy_custom {name : String} (hname : '_' ∉ name.toList) (v : Value) (formatter : String)
    (style : Option String) : Outline.Tidy tokens (scene.custom name v formatter style) := by
  unfold custom
  split
  · exact tidy_hole hname
  · split
    · exact tidy_hole hname
    · split
      · exact tidy_singleton trivial
      · exact List.forall_mem_cons.2 ⟨trivial, tidy_hole hname⟩

theorem tidy_extension (hvalues : scene.values.Clear) {s : ExtensionArgument}
    (hname : '_' ∉ s.name.toList) : Outline.Tidy tokens (scene.extension s) := by
  refine tidy_withValue hvalues fun v hv ↦ ?_
  have hnumber (n : Number) : '_' ∉ (Value.number n).plainText.toList :=
    n.underscore_notMem_plainText
  have hmoment (m : Calendar.Moment) : '_' ∉ (Value.moment m).plainText.toList :=
    m.underscore_notMem_isoText
  cases s.extension with
  | custom formatter style => exact tidy_custom hname v formatter style
  | currency code => exact tidy_orHole hname fun n ↦ tidy_written (hnumber n) _
  | compact display => exact tidy_orHole hname fun n ↦ tidy_written (hnumber n) _
  | relativeTime style => exact tidy_orHole hname fun m ↦ tidy_written (hmoment m) _
  | list kind length =>
    cases v with
    | list items => exact tidy_written hv _
    | _ => exact tidy_hole hname
  | unknown kind => exact tidy_fault (by simp)

/-- A plain argument is shown without underscores: a placeholder leads to the argument that was put
aside, and any other name has none. -/
theorem tidy_argument (hvalues : scene.values.Clear)
    (hasides : ∀ x ∈ scene.asides, '_' ∉ x.2.name.toList) {name : String}
    (hname : '_' ∉ name.toList ∨ name ∈ scene.asides.map Prod.fst) :
    Outline.Tidy tokens (scene.argument name) := by
  unfold argument
  split
  · rename_i s hs
    exact tidy_extension hvalues (hasides (name, s) (Table.mem_of_lookup hs))
  · rename_i hnone
    have hclear : '_' ∉ name.toList := hname.resolve_right fun hmem ↦ by
      obtain ⟨x, hx, rfl⟩ := List.mem_map.1 hmem
      have hne := List.lookup_eq_none_iff.1 hnone x hx
      simp at hne
    refine tidy_withValue hvalues fun v hv ↦ ?_
    split
    · refine tidy_singleton (.inl (marked_of_notMem ?_))
      simp [inBraces, hclear]
    · exact tidy_plain hclear hv

theorem tidy_number (hvalues : scene.values.Clear) {name : String} (hname : '_' ∉ name.toList)
    (style : Option String) (options : Option NumberOptions) :
    Outline.Tidy tokens (scene.number name style options) :=
  tidy_withValue hvalues fun _ _ ↦ tidy_orHole hname fun n ↦
    tidy_written (v := .number n) n.underscore_notMem_plainText _

theorem tidy_moment (hvalues : scene.values.Clear) {name : String} (hname : '_' ∉ name.toList)
    (format : Value → String → LocaleBook → Except FormatFault String) :
    Outline.Tidy tokens (scene.moment name format) :=
  tidy_withValue hvalues fun _ _ ↦ tidy_orHole hname fun m ↦
    tidy_written (v := .moment m) m.underscore_notMem_isoText _

theorem exists_of_lookup {α : Type} {options : List (String × α)} {selector : String} {a : α}
    (h : options.lookup selector = some a) : ∃ o ∈ options, o.2 = a :=
  ⟨(selector, a), Table.mem_of_lookup h, rfl⟩

theorem mem_of_branch? {α : Type} {options : List (String × α)} {n lowered : Number}
    {locale : String} {kind : PluralKind} {book : LocaleBook} {a : α}
    (h : Plural.branch? options n lowered locale kind book = .ok (some a)) :
    ∃ o ∈ options, o.2 = a := by
  unfold Plural.branch? at h
  split at h
  · rename_i o ho
    exact ⟨o, List.mem_of_find?_eq_some ho, by simpa using h⟩
  · cases hc : Plural.ofNumber lowered locale kind book with
    | error f =>
      rw [hc] at h
      cases h
    | ok category =>
      rw [hc] at h
      rcases Option.or_eq_some_iff.1 (Except.ok.inj h) with hor | ⟨-, hor⟩
      · exact exists_of_lookup hor
      · exact exists_of_lookup hor

theorem mem_of_selectBranch? {α : Type} {options : List (String × α)} {v : Value} {a : α}
    (h : selectBranch? options v = some a) : ∃ o ∈ options, o.2 = a := by
  unfold selectBranch? at h
  rcases Option.or_eq_some_iff.1 h with h | ⟨-, h⟩
  · split at h
    · cases h
    · exact exists_of_lookup h
  · exact exists_of_lookup h

/-- A scene without underscores but those of the placeholders. -/
structure Clear (scene : Scene) (tokens : List String) : Prop where
  values : scene.values.Clear
  asides : ∀ x ∈ scene.asides, '_' ∉ x.2.name.toList
  tokens : scene.asides.map Prod.fst = tokens

mutual

/-- What is shown of a tidy message is tidy. -/
theorem tidy_element (h : scene.Clear tokens) {pound : Option Value}
    (hpound : ∀ v ∈ pound, '_' ∉ v.plainText.toList) {e : Element}
    (he : ElementTidy tokens e) : Outline.Tidy tokens (scene.element pound e) := by
  cases e with
  | literal s =>
    rw [element]
    exact tidy_singleton (.inl he)
  | argument name =>
    rw [element]
    exact tidy_argument h.values h.asides (by rwa [h.tokens])
  | pound =>
    rw [element]
    cases pound with
    | none => exact tidy_singleton (.inl (marked_of_notMem (by decide)))
    | some v => exact tidy_singleton (tidy_shown (hpound v rfl))
  | plural name kind offset options =>
    obtain ⟨hname, hos⟩ := he
    rw [element]
    refine tidy_withValue h.values fun v _ ↦ tidy_orHole hname fun n ↦ ?_
    split
    · exact tidy_fault (by simp)
    · rename_i lowered hlowered
      have hpound : ∀ v ∈ some (Value.number lowered), '_' ∉ v.plainText.toList := by
        intro v hv
        rw [← Option.mem_some.1 hv]
        exact lowered.underscore_notMem_plainText
      have houtlines := tidy_options h hpound hos
      dsimp only
      split
      · exact tidy_fault (by simp)
      · rename_i branch hbranch
        cases branch with
        | none => exact tidy_hole hname
        | some o =>
          obtain ⟨x, hx, rfl⟩ := mem_of_branch? hbranch
          exact houtlines x hx
  | select name options =>
    obtain ⟨hname, hos⟩ := he
    rw [element]
    refine tidy_withValue h.values fun v _ ↦ ?_
    have hpound : ∀ v ∈ (none : Option Value), '_' ∉ v.plainText.toList := by simp
    have houtlines := tidy_options h hpound hos
    unfold selected
    split
    · exact tidy_fault (by simp)
    · cases hbranch : selectBranch? (scene.options none options) v with
      | none => exact tidy_hole hname
      | some o =>
        obtain ⟨x, hx, rfl⟩ := mem_of_selectBranch? hbranch
        exact houtlines x hx
  | number name style options =>
    rw [element]
    exact tidy_number h.values he style options
  | date name style skeleton =>
    rw [element]
    exact tidy_moment h.values he _
  | time name style skeleton =>
    rw [element]
    exact tidy_moment h.values he _
  | foreign kind =>
    rw [element]
    exact tidy_fault (by simp)

theorem tidy_message (h : scene.Clear tokens) {pound : Option Value}
    (hpound : ∀ v ∈ pound, '_' ∉ v.plainText.toList) {m : Message}
    (hm : MessageTidy tokens m) : Outline.Tidy tokens (scene.message pound m) := by
  cases m with
  | nil =>
    rw [message]
    exact List.forall_mem_nil _
  | cons e es =>
    rw [message]
    exact List.forall_mem_append.2 ⟨tidy_element h hpound hm.1, tidy_message h hpound hm.2⟩

theorem tidy_options (h : scene.Clear tokens) {pound : Option Value}
    (hpound : ∀ v ∈ pound, '_' ∉ v.plainText.toList) {os : List (String × Message)}
    (hos : OptionsTidy tokens os) :
    ∀ o ∈ scene.options pound os, Outline.Tidy tokens o.2 := by
  cases os with
  | nil =>
    rw [options]
    exact List.forall_mem_nil _
  | cons o os =>
    obtain ⟨selector, branch⟩ := o
    obtain ⟨hbranch, hos⟩ := hos
    rw [options]
    refine List.forall_mem_cons.2 ⟨?_, tidy_options h hpound hos⟩
    rcases hbranch with ⟨t, ht, rfl⟩ | hbranch
    · rw [message, element, message]
      exact tidy_singleton (.inr ht)
    · exact tidy_message h hpound hbranch

end

end Scene

end Phrasebook
