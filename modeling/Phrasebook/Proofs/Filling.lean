import Mathlib.Data.List.Forall2
import Phrasebook.Proofs.Phrases

/-!
Filling outlines, and outlines that are filled alike.

An outline that is filled shows its segments one after the other
(`Outline.exists_of_fill_cons`). A text of an outline may be cut into several, so the outlines of a
tree and of the message that it is prepared to differ segment by segment. They are the same to every
filling (`Outline.Same`), and what is chosen among branches that are the same is the same
(`same_pluralOutline`, `same_selected`).
-/

set_option autoImplicit false

namespace Phrasebook

/-! ### What is shown -/

/-- What is shown for a segment. -/
def Segment.Shows (missing : String → Except CallFault String) : Segment → String → Prop
  | .text _ s, w => w = s
  | .hole name, w => missing name = .ok w
  | .notice _, w => w = ""
  | .fault _, _ => False

/-- A text with another one in front ends with the text. -/
theorem Answer.exists_of_map {a : Answer String} {s text : String}
    (h : (a.map (s ++ ·)).result = .ok text) : ∃ t, a.result = .ok t ∧ text = s ++ t := by
  cases ha : a.result with
  | error f =>
    rw [Answer.map, ha] at h
    cases h
  | ok t =>
    rw [Answer.map, ha] at h
    exact ⟨t, rfl, (Except.ok.inj h).symm⟩

namespace Outline

variable {missing : String → Except CallFault String} {segment : Segment} {o : Outline}
  {text : String}

/-- An outline that is filled shows its first segment, and then the others. -/
theorem exists_of_fill_cons (h : (fill missing (segment :: o)).result = .ok text) :
    ∃ w rest, segment.Shows missing w ∧ (fill missing o).result = .ok rest ∧ text = w ++ rest := by
  cases segment with
  | text origin s =>
    obtain ⟨rest, hrest, htext⟩ := Answer.exists_of_map h
    exact ⟨s, rest, rfl, hrest, htext⟩
  | hole name =>
    rw [fill] at h
    cases hmissing : missing name with
    | error f =>
      rw [hmissing] at h
      cases h
    | ok w =>
      rw [hmissing] at h
      obtain ⟨rest, hrest, htext⟩ := Answer.exists_of_map h
      exact ⟨w, rest, hmissing, hrest, htext⟩
  | notice n => exact ⟨"", text, rfl, h, String.empty_append.symm⟩
  | fault f => cases h

/-- The texts of an outline stand in what it is filled to. -/
theorem infix_of_fill (h : (o.fill missing).result = .ok text) {origin : Origin} {s : String}
    (hs : .text origin s ∈ o) : s.toList <:+: text.toList := by
  induction o generalizing text with
  | nil => cases hs
  | cons segment o ih =>
    obtain ⟨w, rest, hw, hrest, rfl⟩ := exists_of_fill_cons h
    rw [String.toList_append]
    rcases List.mem_cons.1 hs with rfl | hs
    · obtain rfl : w = s := hw
      exact (List.prefix_append _ _).isInfix
    · exact (ih hrest hs).trans (List.suffix_append _ _).isInfix

/-- Every character of the text is shown for one of the segments. -/
theorem exists_of_mem_fill (h : (o.fill missing).result = .ok text) {c : Char}
    (hc : c ∈ text.toList) : ∃ segment ∈ o, ∃ w, segment.Shows missing w ∧ c ∈ w.toList := by
  induction o generalizing text with
  | nil =>
    obtain rfl : "" = text := Except.ok.inj h
    cases hc
  | cons segment o ih =>
    obtain ⟨w, rest, hw, hrest, rfl⟩ := exists_of_fill_cons h
    rw [String.toList_append, List.mem_append] at hc
    rcases hc with hc | hc
    · exact ⟨segment, List.mem_cons_self, w, hw, hc⟩
    · obtain ⟨segment, hmem, hsegment⟩ := ih hrest hc
      exact ⟨segment, List.mem_cons_of_mem _ hmem, hsegment⟩

end Outline

/-! ### Answers one after the other -/

/-- A text with the next one after it, unless there is a fault before. -/
def Answer.followedBy (a b : Answer String) : Answer String :=
  match a.result with
  | .ok s => (b.map (s ++ ·)).after a.events
  | .error f => ⟨.error f, a.events⟩

namespace Outline

variable {missing : String → Except CallFault String} {o o' p p' : Outline}

theorem followedBy_map (s : String) (a b : Answer String) :
    (a.map (s ++ ·)).followedBy b = (a.followedBy b).map (s ++ ·) := by
  obtain ⟨a, events⟩ := a
  obtain ⟨b, events'⟩ := b
  cases a with
  | error f => rfl
  | ok t =>
    cases b with
    | error f => rfl
    | ok u =>
      have happend : s ++ t ++ u = s ++ (t ++ u) := String.append_assoc
      simp [Answer.followedBy, Answer.map, Answer.after, Except.map, happend]

theorem followedBy_after (events : List Event) (a b : Answer String) :
    (a.after events).followedBy b = (a.followedBy b).after events := by
  obtain ⟨a, events'⟩ := a
  cases a with
  | error f => rfl
  | ok t => simp [Answer.followedBy, Answer.map, Answer.after]

theorem map_empty (a : Answer String) : a.map ("" ++ ·) = a := by
  obtain ⟨a, events⟩ := a
  cases a <;> simp [Answer.map, Except.map]

theorem map_append (s t : String) (a : Answer String) :
    a.map (s ++ t ++ ·) = (a.map (t ++ ·)).map (s ++ ·) := by
  obtain ⟨a, events⟩ := a
  cases a with
  | error f => rfl
  | ok u =>
    have happend : s ++ t ++ u = s ++ (t ++ u) := String.append_assoc
    simp [Answer.map, Except.map, happend]

/-- Outlines are filled one after the other. -/
theorem fill_append (o p : Outline) :
    fill missing (o ++ p) = (fill missing o).followedBy (fill missing p) := by
  induction o with
  | nil => exact (map_empty (fill missing p)).symm
  | cons segment o ih =>
    cases segment with
    | text origin s => rw [List.cons_append, fill, fill, ih, followedBy_map]
    | hole name =>
      rw [List.cons_append, fill, fill]
      cases missing name with
      | ok s => exact (congrArg (Answer.map (s ++ ·)) ih).trans (followedBy_map s _ _).symm
      | error f => rfl
    | notice n => rw [List.cons_append, fill, fill, ih, followedBy_after]
    | fault f => rfl

/-- What outlines are filled to, one after the other, is what each is filled to. -/
theorem exists_of_fill_append {text : String} (h : (fill missing (o ++ p)).result = .ok text) :
    ∃ s t, (fill missing o).result = .ok s ∧ (fill missing p).result = .ok t ∧ text = s ++ t := by
  rw [fill_append, Answer.followedBy] at h
  split at h
  · rename_i s hs
    obtain ⟨t, ht, htext⟩ := Answer.exists_of_map h
    exact ⟨s, t, hs, ht, htext⟩
  · cases h

/-! ### The same outlines -/

/-- The outlines are filled alike, whatever is shown for missing values. -/
def Same (o p : Outline) : Prop :=
  ∀ missing, fill missing o = fill missing p

namespace Same

theorem refl (o : Outline) : Same o o :=
  fun _ ↦ rfl

theorem symm (h : Same o p) : Same p o :=
  fun missing ↦ (h missing).symm

theorem trans {q : Outline} (h : Same o p) (h' : Same p q) : Same o q :=
  fun missing ↦ (h missing).trans (h' missing)

theorem append (h : Same o p) (h' : Same o' p') : Same (o ++ o') (p ++ p') := by
  intro missing
  rw [fill_append, fill_append, h missing, h' missing]

theorem cons (segment : Segment) (h : Same o p) : Same (segment :: o) (segment :: p) :=
  append (refl [segment]) h

end Same

/-- A text may be cut. -/
theorem same_text_append (origin : Origin) (s t : String) (o : Outline) :
    Same (.text origin (s ++ t) :: o) (.text origin s :: .text origin t :: o) :=
  fun missing ↦ map_append s t (fill missing o)

theorem same_text_empty (origin : Origin) (o : Outline) : Same (.text origin "" :: o) o :=
  fun missing ↦ map_empty (fill missing o)

theorem same_withValue {f g : Value → Outline} (h : ∀ v, Same (f v) (g v)) (scene : Scene)
    (name : String) : Same (scene.withValue name f) (scene.withValue name g) := by
  unfold Scene.withValue
  cases scene.values with
  | nameless => exact .refl _
  | named value => exact h (value name)

/-! ### Branches -/

/-- The same branches under the same selectors. -/
def SameBranches (os ps : List (String × Outline)) : Prop :=
  List.Forall₂ (fun b b' ↦ b.1 = b'.1 ∧ Same b.2 b'.2) os ps

section Branches

variable {os ps : List (String × Outline)}

theorem SameBranches.lookup (h : SameBranches os ps) (selector : String) :
    Option.Rel Same (os.lookup selector) (ps.lookup selector) := by
  induction h with
  | nil => exact .none
  | @cons b b' os ps hb _ ih =>
    obtain ⟨k, o⟩ := b
    obtain ⟨k', p⟩ := b'
    obtain ⟨rfl, hsame⟩ := hb
    rw [List.lookup_cons, List.lookup_cons]
    cases selector == k with
    | true => exact .some hsame
    | false => exact ih

theorem SameBranches.find? (h : SameBranches os ps) (q : String → Bool) :
    Option.Rel Same ((os.find? fun o ↦ q o.1).map Prod.snd)
      ((ps.find? fun o ↦ q o.1).map Prod.snd) := by
  induction h with
  | nil => exact .none
  | @cons b b' os ps hb _ ih =>
    obtain ⟨k, o⟩ := b
    obtain ⟨k', p⟩ := b'
    obtain ⟨rfl, hsame⟩ := hb
    rw [List.find?_cons, List.find?_cons]
    dsimp only
    cases q k with
    | true => exact .some hsame
    | false => exact ih

theorem rel_or {a b a' b' : Option Outline} (h : Option.Rel Same a a') (h' : Option.Rel Same b b') :
    Option.Rel Same (a.or b) (a'.or b') := by
  cases h with
  | some h => exact .some h
  | none => exact h'

theorem rel_getD {a a' : Option Outline} (h : Option.Rel Same a a') (o : Outline) :
    Same (a.getD o) (a'.getD o) := by
  cases h with
  | some h => exact h
  | none => exact .refl o

/-- The same branch is chosen for a value. -/
theorem same_selectBranch? (h : SameBranches os ps) (v : Value) :
    Option.Rel Same (selectBranch? os v) (selectBranch? ps v) := by
  refine rel_or ?_ (h.lookup "other")
  split
  · exact .none
  · exact h.lookup v.plainText

/-- A select argument with the same branches is the same. -/
theorem same_selected (h : SameBranches os ps) (name : String) (v : Value) :
    Same (Scene.selected name os v) (Scene.selected name ps v) := by
  unfold Scene.selected
  split
  · exact .refl _
  · exact rel_getD (same_selectBranch? h v) _

/-- The same branch is chosen for a number. -/
theorem same_branch? (h : SameBranches os ps) (n lowered : Number) (locale : String)
    (kind : PluralKind) (book : LocaleBook) :
    (∃ f, Plural.branch? os n lowered locale kind book = .error f ∧
      Plural.branch? ps n lowered locale kind book = .error f) ∨
    ∃ a a', Plural.branch? os n lowered locale kind book = .ok a ∧
      Plural.branch? ps n lowered locale kind book = .ok a' ∧ Option.Rel Same a a' := by
  have hfind := h.find? fun selector ↦ Plural.isExact selector n
  unfold Plural.branch?
  cases ho : os.find? fun o ↦ Plural.isExact o.1 n with
  | some o =>
    rw [ho] at hfind
    cases hp : ps.find? fun o ↦ Plural.isExact o.1 n with
    | none =>
      rw [hp] at hfind
      cases hfind
    | some p =>
      rw [hp] at hfind
      cases hfind with
      | some hsame => exact .inr ⟨_, _, rfl, rfl, .some hsame⟩
  | none =>
    rw [ho] at hfind
    cases hp : ps.find? fun o ↦ Plural.isExact o.1 n with
    | some p =>
      rw [hp] at hfind
      cases hfind
    | none =>
      cases Plural.ofNumber lowered locale kind book with
      | error f => exact .inl ⟨f, rfl, rfl⟩
      | ok category =>
        exact .inr ⟨_, _, rfl, rfl, rel_or (h.lookup category.word) (h.lookup "other")⟩

/-- A plural argument with the same branches is the same. -/
theorem same_pluralOutline {branches branches' : Number → List (String × Outline)}
    (h : ∀ number, SameBranches (branches number) (branches' number)) (scene : Scene)
    (name : String) (kind : PluralKind) (offset : Int) :
    Same (Phrase.pluralOutline scene name kind offset branches)
      (Phrase.pluralOutline scene name kind offset branches') := by
  refine same_withValue (fun v ↦ ?_) scene name
  cases v.number? with
  | none => exact .refl _
  | some n =>
    dsimp only [Scene.orHole]
    cases n.lower offset with
    | error f => exact .refl _
    | ok lowered =>
      dsimp only
      rcases same_branch? (h lowered) n lowered scene.locale kind scene.book with
        ⟨f, hos, hps⟩ | ⟨a, a', hos, hps, hsame⟩
      · rw [hos, hps]
        exact .refl _
      · rw [hos, hps]
        exact rel_getD hsame _

end Branches

end Outline

end Phrasebook
