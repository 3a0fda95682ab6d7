import Phrasebook.Proofs.Filling
import Phrasebook.Proofs.FormatFaults

/-!
What a message is meant to show, and what stops rendering it.

A scene gives every message a text (`Scene.meantMessage`): a value that is missing or cannot be read
shows its name in braces, and a value that the locale cannot write shows its plain text. What stops
rendering is said apart from it (`Scene.Stops`): whole numbers with too many digits, numbers that
are too large to be doubles, decimal arithmetic that leaves its range, and a present outside the
calendar. An outline means a text if its faults are those that are said and if, without any, it is
filled to the text (`Outline.Means`).
-/

set_option autoImplicit false

namespace Phrasebook

open Message Template

namespace Scene

/-- The value of a variable. -/
def valueOf (scene : Scene) (name : String) : Value :=
  match scene.values with
  | .named value => value name
  | .nameless => .absent

/-! ### What is meant -/

/-- The text that the locale has for a value, or its plain text. -/
def orPlain (v : Value) (written : Except FormatFault String) : String :=
  written.toOption.getD v.plainText

/-- What a plain argument is meant to show. -/
def meantPlain (name : String) (v : Value) : String :=
  if v.isAbsent then inBraces name else v.plainText

/-- What an argument beyond the message format is meant to show. -/
def meantAside (scene : Scene) (a : ExtensionArgument) : String :=
  let v := scene.valueOf a.name
  let number (format : Value → Except FormatFault String) : Option String :=
    v.readNumber?.map fun n ↦ orPlain (.number n) (format (.number n))
  let shown : Option String :=
    match a.extension with
    | .custom formatter style =>
      if v.isAbsent then none
      else (scene.formatter? formatter).bind fun f ↦ (f.format v scene.locale style).toOption
    | .currency code => number fun n ↦
      Format.currency n (some (if code = "" then defaultCurrency else code)) scene.locale scene.book
    | .compact display => number fun n ↦ Format.compact n scene.locale display scene.book
    | .relativeTime style => v.readMoment?.map fun m ↦ orPlain (.moment m)
      (Format.relative m scene.locale (if style = "" then "long" else style) scene.clock scene.book)
    | .list kind length =>
      match v with
      | .list items => some (orPlain v (Format.list items scene.locale kind length scene.book))
      | _ => none
    | .unknown _ => none
  shown.getD (inBraces a.name)

mutual

/-- What an element is meant to show; `pound` is the number around it. A value that is missing, or
that a formatter of the program does not take, is shown as its name in braces, and a value that the
locale cannot write as its plain text. -/
def meant (scene : Scene) (pound : Option Value) : Element → String
  | .literal s => s
  | .argument name =>
    match scene.asides.lookup name with
    | some a => scene.meantAside a
    | none => meantPlain name (scene.valueOf name)
  | .pound => (pound.map Value.plainText).getD "#"
  | .plural name kind offset options =>
    let branch : Option String := do
      let n ← (scene.valueOf name).number?
      let lowered ← (n.lower offset).toOption
      let texts := scene.meantOptions (some (.number lowered)) options
      (Plural.branch? texts n lowered scene.locale kind scene.book).toOption.join
    branch.getD (inBraces name)
  | .select name options =>
    (selectBranch? (scene.meantOptions none options) (scene.valueOf name)).getD (inBraces name)
  | .number name style options =>
    ((scene.valueOf name).readNumber?.map fun n ↦ orPlain (.number n)
      (Format.number (.number n) scene.locale style options scene.book)).getD (inBraces name)
  | .date name style skeleton =>
    ((scene.valueOf name).readMoment?.map fun m ↦ orPlain (.moment m)
      (Format.date (.moment m) scene.locale style skeleton scene.book)).getD (inBraces name)
  | .time name style skeleton =>
    ((scene.valueOf name).readMoment?.map fun m ↦ orPlain (.moment m)
      (Format.time (.moment m) scene.locale style skeleton scene.book)).getD (inBraces name)
  | .foreign _ => ""

/-- What a message is meant to show. -/
def meantMessage (scene : Scene) (pound : Option Value) : List Element → String
  | [] => ""
  | e :: es => scene.meant pound e ++ scene.meantMessage pound es

/-- What the branches of an element are meant to show. -/
def meantOptions (scene : Scene) (pound : Option Value) :
    List (String × List Element) → List (String × String)
  | [] => []
  | (selector, branch) :: os =>
    (selector, scene.meantMessage pound branch) :: scene.meantOptions pound os

end

/-- What the pieces of a template whose arguments are plain variables are meant to show. -/
def meantPieces (scene : Scene) : List (Piece String) → String
  | [] => ""
  | .char c :: pieces => String.singleton c ++ scene.meantPieces pieces
  | .found name :: pieces => meantPlain name (scene.valueOf name) ++ scene.meantPieces pieces

/-! ### What stops rendering -/

/-- Writing a number stops rendering: it is a whole number with too many digits, or the arithmetic
of its format leaves the range of decimal numbers. -/
inductive NumberStops (n : Number) (written : Except FormatFault String) : Fault → Prop
  | overlong : n.isOverlong = true → NumberStops n written (.number .overlong)
  | overflow : written = .error .overflow → NumberStops n written (.format .overflow)

/-- An argument beyond the message format stops rendering. -/
inductive AsideStops (scene : Scene) : ExtensionArgument → Fault → Prop
  | currency {name code : String} {n : Number} {f : Fault} :
      (scene.valueOf name).readNumber? = some n →
      NumberStops n (Format.currency (.number n)
        (some (if code = "" then defaultCurrency else code)) scene.locale scene.book) f →
      AsideStops scene ⟨name, .currency code⟩ f
  | compact {name : String} {display : CompactDisplay} {n : Number} {f : Fault} :
      (scene.valueOf name).readNumber? = some n →
      NumberStops n (Format.compact (.number n) scene.locale display scene.book) f →
      AsideStops scene ⟨name, .compact display⟩ f
  /-- For the offset of the moment the present is before the first year or after the last. -/
  | relativeTime {name style : String} {m : Calendar.Moment} :
      (scene.valueOf name).readMoment? = some m → Format.presentFor scene.clock m = none →
      AsideStops scene ⟨name, .relativeTime style⟩ (.format .outsideCalendar)
  | list {name kind length : String} {items : List Value} :
      scene.valueOf name = .list items → Value.anyOverlong items = true →
      AsideStops scene ⟨name, .list kind length⟩ (.number .overlong)

/-- An element, or an element of the branch that is chosen, stops rendering with a fault. -/
inductive Stops (scene : Scene) : Option Value → Element → Fault → Prop
  /-- The plain text has a whole number with too many digits. -/
  | argument {pound : Option Value} {name : String} : scene.asides.lookup name = none →
      (scene.valueOf name).isOverlong = true →
      Stops scene pound (.argument name) (.number .overlong)
  | aside {pound : Option Value} {name : String} {a : ExtensionArgument} {f : Fault} :
      scene.asides.lookup name = some a → AsideStops scene a f →
      Stops scene pound (.argument name) f
  /-- The number around a number sign has too many digits. -/
  | pound {v : Value} : v.isOverlong = true → Stops scene (some v) .pound (.number .overlong)
  /-- A double is not lowered by an offset that is too large for a double. -/
  | offset {pound : Option Value} {name : String} {kind : PluralKind} {offset : Int}
      {os : List (String × Message)} {x : Binary64} :
      (scene.valueOf name).number? = some (.binary x) → Binary64.bound ≤ offset.natAbs →
      Stops scene pound (.plural name kind offset os) (.number .tooLarge)
  /-- A decimal number less the offset leaves the range. -/
  | difference {pound : Option Value} {name : String} {kind : PluralKind} {offset : Int}
      {os : List (String × Message)} {d : Decimal} :
      (scene.valueOf name).number? = some (.decimal d) → d.subInt offset = .error .overflow →
      Stops scene pound (.plural name kind offset os) (.number (.decimal .overflow))
  /-- No option names the whole number, which is too large for a double when it is lowered. -/
  | category {pound : Option Value} {name : String} {kind : PluralKind} {offset n : Int}
      {os : List (String × Message)} :
      (scene.valueOf name).number? = some (.integer n) →
      (∀ o ∈ os, Plural.isExact o.1 (.integer n) = false) →
      Binary64.bound ≤ (n - offset).natAbs →
      Stops scene pound (.plural name kind offset os) (.number .tooLarge)
  /-- No option names the decimal number, and the plural rules take a remainder of the lowered
  number whose quotient has too many digits. -/
  | remainder {pound : Option Value} {name : String} {kind : PluralKind} {offset : Int}
      {os : List (String × Message)} {d lowered : Decimal} :
      (scene.valueOf name).number? = some (.decimal d) →
      (∀ o ∈ os, Plural.isExact o.1 (.decimal d) = false) → d.subInt offset = .ok lowered →
      Plural.ofNumber (.decimal lowered) scene.locale kind scene.book =
        .error (.decimal .invalidOperation) →
      Stops scene pound (.plural name kind offset os) (.number (.decimal .invalidOperation))
  | plural {pound : Option Value} {name : String} {kind : PluralKind} {offset : Int}
      {os : List (String × Message)} {n lowered : Number} {m : Message} {e : Element} {f : Fault} :
      (scene.valueOf name).number? = some n → n.lower offset = .ok lowered →
      Plural.branch? os n lowered scene.locale kind scene.book = .ok (some m) → e ∈ m →
      Stops scene (some (.number lowered)) e f → Stops scene pound (.plural name kind offset os) f
  /-- A value with too many digits is compared with the selectors. -/
  | selector {pound : Option Value} {name : String} {os : List (String × Message)} :
      (scene.valueOf name).isOverlong = true →
      Stops scene pound (.select name os) (.number .overlong)
  | select {pound : Option Value} {name : String} {os : List (String × Message)} {m : Message}
      {e : Element} {f : Fault} : (scene.valueOf name).isOverlong = false →
      selectBranch? os (scene.valueOf name) = some m → e ∈ m → Stops scene none e f →
      Stops scene pound (.select name os) f
  | number {pound : Option Value} {name : String} {style : Option String}
      {options : Option NumberOptions} {n : Number} {f : Fault} :
      (scene.valueOf name).readNumber? = some n →
      NumberStops n (Format.number (.number n) scene.locale style options scene.book) f →
      Stops scene pound (.number name style options) f

end Scene

/-! ### Outlines and their faults -/

namespace Outline

/-- The default for missing values. -/
def braced (name : String) : Except CallFault String :=
  .ok (inBraces name)

/-- The outline has the faults that are said, and where there is none it is filled to the text. -/
def Means (o : Outline) (text : String) (stops : Fault → Prop) : Prop :=
  (∀ f, .fault f ∈ o ↔ stops f) ∧
    ((∀ f, ¬ stops f) → (o.fill braced).result = .ok text)

section Fill

variable {o p : Outline} {text text' : String} {stops stops' : Fault → Prop} {f : Fault}

/-- Filling fails with a fault of the outline, or because a missing value cannot be shown. -/
theorem fault_mem_or_call_of_fill {missing : String → Except CallFault String}
    (h : (o.fill missing).result = .error f) :
    .fault f ∈ o ∨ ∃ name c, missing name = .error c ∧ f = .call c := by
  induction o with
  | nil => cases h
  | cons segment o ih =>
    have hrest {s : String} (h : ((fill missing o).map (s ++ ·)).result = .error f) :
        .fault f ∈ segment :: o ∨ ∃ name c, missing name = .error c ∧ f = .call c := by
      refine (ih ?_).imp_left (List.mem_cons_of_mem _)
      cases hfill : (fill missing o).result with
      | error g => rwa [Answer.map, hfill] at h
      | ok t => rw [Answer.map, hfill] at h; cases h
    cases segment with
    | text origin s => exact hrest h
    | hole name =>
      rw [fill] at h
      cases hmissing : missing name with
      | ok s =>
        rw [hmissing] at h
        exact hrest h
      | error c =>
        rw [hmissing] at h
        exact .inr ⟨name, c, hmissing, (Except.error.inj h).symm⟩
    | notice n => exact (ih h).imp_left (List.mem_cons_of_mem _)
    | fault g =>
      rw [← Except.error.inj h]
      exact .inl List.mem_cons_self

theorem fault_mem_of_fill (h : (o.fill braced).result = .error f) : .fault f ∈ o := by
  refine (fault_mem_or_call_of_fill h).resolve_right ?_
  rintro ⟨name, c, hbraced, -⟩
  cases hbraced

theorem exists_error_of_fault_mem (h : .fault f ∈ o) :
    ∃ g, (o.fill braced).result = .error g := by
  induction o with
  | nil => cases h
  | cons segment o ih =>
    have hrest (s : String) (h : .fault f ∈ o) :
        ∃ g, ((fill braced o).map (s ++ ·)).result = .error g := by
      obtain ⟨g, hg⟩ := ih h
      exact ⟨g, by rw [Answer.map, hg]; rfl⟩
    cases segment with
    | text origin s => exact hrest s (List.mem_of_ne_of_mem (by simp) h)
    | hole name => exact hrest _ (List.mem_of_ne_of_mem (by simp) h)
    | notice n => exact ih (List.mem_of_ne_of_mem (by simp) h)
    | fault g => exact ⟨g, rfl⟩

/-- The outline is filled just when nothing stops it, namely to its text, and what it fails with is
one of the things that stop it. -/
theorem Means.outcome (h : o.Means text stops) :
    (∀ t, (o.fill braced).result = .ok t ↔ (∀ f, ¬ stops f) ∧ t = text) ∧
      ∀ f, (o.fill braced).result = .error f → stops f := by
  refine ⟨fun t ↦ ⟨fun hfill ↦ ?_, ?_⟩, fun f hf ↦ (h.1 f).1 (fault_mem_of_fill hf)⟩
  · have hnone : ∀ f, ¬ stops f := by
      intro f hf
      obtain ⟨g, hg⟩ := exists_error_of_fault_mem ((h.1 f).2 hf)
      rw [hfill] at hg
      cases hg
    exact ⟨hnone, Except.ok.inj (hfill.symm.trans (h.2 hnone))⟩
  · rintro ⟨hnone, rfl⟩
    exact h.2 hnone

theorem Means.congr (h : o.Means text stops) (hstops : ∀ f, stops f ↔ stops' f) :
    o.Means text stops' := by
  obtain rfl : stops = stops' := funext fun f ↦ propext (hstops f)
  exact h

theorem Means.append (h : o.Means text stops) (h' : p.Means text' stops') :
    (o ++ p).Means (text ++ text') fun f ↦ stops f ∨ stops' f := by
  refine ⟨fun f ↦ by rw [List.mem_append, h.1, h'.1], fun hnone ↦ ?_⟩
  have ho := h.2 fun f hf ↦ hnone f (.inl hf)
  have hp := h'.2 fun f hf ↦ hnone f (.inr hf)
  rw [fill_append, Answer.followedBy, ho]
  simp [Answer.after, Answer.map, hp, Except.map]

theorem means_nil : Means [] "" fun _ ↦ False :=
  ⟨by simp, fun _ ↦ rfl⟩

theorem means_text (origin : Origin) (s : String) : Means [.text origin s] s fun _ ↦ False :=
  ⟨by simp, fun _ ↦ by simp [fill, Answer.map, Except.map]⟩

theorem means_hole (name : String) : Means [.hole name] (inBraces name) fun _ ↦ False :=
  ⟨by simp, fun _ ↦ by simp [fill, braced, Answer.map, Except.map]⟩

theorem means_fault (f : Fault) (text : String) : Means [.fault f] text (· = f) :=
  ⟨fun g ↦ by simp, fun h ↦ absurd rfl (h f)⟩

theorem means_notice (n : Notice) (h : o.Means text stops) : Means (.notice n :: o) text stops :=
  ⟨fun f ↦ by rw [← h.1 f]; simp, fun hnone ↦ h.2 hnone⟩

end Fill

end Outline

namespace Scene

open Outline

variable {scene : Scene}

theorem withValue_eq (h : scene.values ≠ .nameless) (name : String) (f : Value → Outline) :
    scene.withValue name f = f (scene.valueOf name) := by
  unfold withValue valueOf
  cases hvalues : scene.values with
  | named value => rfl
  | nameless => exact absurd hvalues h

/-! ### Values -/

theorem means_shown (v : Value) :
    Means [shown v] v.plainText fun f ↦ v.isOverlong = true ∧ f = .number .overlong := by
  unfold shown
  cases v.isOverlong with
  | true => exact (means_fault _ _).congr fun f ↦ by simp
  | false => exact (means_text _ _).congr fun f ↦ by simp

theorem isOverlong_of_isAbsent {v : Value} (h : v.isAbsent = true) : v.isOverlong = false := by
  cases v with
  | absent => rfl
  | _ => cases h

/-- What a plain argument is shown as. -/
theorem means_plain (name : String) (v : Value) : (plain name v).Means (meantPlain name v)
    fun f ↦ v.isOverlong = true ∧ f = .number .overlong := by
  unfold plain meantPlain
  cases h : v.isAbsent with
  | true => exact (means_hole name).congr fun f ↦ by simp [isOverlong_of_isAbsent h]
  | false => exact means_shown v

/-- What a value is shown as, by the locale or as plain text. -/
theorem means_written {v : Value} {r : Except FormatFault String} (h : Format.Recovers r) :
    Means [written v r] (orPlain v r) fun f ↦
      (∃ g, r = .error g) ∧ v.isOverlong = true ∧ f = .number .overlong := by
  cases r with
  | ok s => exact (means_text _ s).congr fun f ↦ by simp
  | error g =>
    rw [written, if_pos (h g rfl)]
    exact (means_shown v).congr fun f ↦ by simp

/-- What a number is shown as. -/
theorem means_number {n : Number} {r : Except FormatFault String} (h : Format.Numeric r)
    (hlong : n.isOverlong = true → Format.GivesUp r) :
    Means [written (.number n) r] (orPlain (.number n) r) (NumberStops n r) := by
  cases r with
  | ok s =>
    refine (means_text _ s).congr fun f ↦ ⟨False.elim, fun hstops ↦ ?_⟩
    rcases hstops with hn | hr
    · obtain ⟨g, hg, -⟩ := hlong hn
      cases hg
    · cases hr
  | error g =>
    rcases h g rfl with hg | rfl
    · rw [written, if_pos hg]
      refine (means_shown (.number n)).congr fun f ↦ ⟨?_, ?_⟩
      · rintro ⟨hn, rfl⟩
        exact .overlong hn
      · rintro (hn | hr)
        · exact ⟨hn, rfl⟩
        · rw [Except.error.inj hr] at hg
          cases hg
    · refine (means_fault (.format .overflow) _).congr fun f ↦ ⟨?_, ?_⟩
      · rintro rfl
        exact .overflow rfl
      · rintro (hn | -)
        · obtain ⟨g, hg, hrecovers⟩ := hlong hn
          rw [← Except.error.inj hg] at hrecovers
          cases hrecovers
        · rfl

theorem means_moment {m : Calendar.Moment} {r : Except FormatFault String}
    (h : Format.Recovers r) :
    Means [written (.moment m) r] (orPlain (.moment m) r) fun _ ↦ False :=
  (means_written h).congr fun f ↦ by simp [Value.isOverlong]

/-- What a moment is shown as relative to the present. -/
theorem means_relative (m : Calendar.Moment) (tag style : String) (clock : Calendar.Moment)
    (book : LocaleBook) :
    Means [written (.moment m) (Format.relative m tag style clock book)]
      (orPlain (.moment m) (Format.relative m tag style clock book))
      fun f ↦ Format.presentFor clock m = none ∧ f = .format .outsideCalendar := by
  rcases Format.relative_cases book m tag style clock with
    ⟨hpresent, hrelative⟩ | ⟨hpresent, hrecovers⟩
  · rw [hrelative]
    exact (means_fault (.format .outsideCalendar) _).congr fun f ↦ by simp [hpresent]
  · exact (means_moment hrecovers).congr fun f ↦ by simp [hpresent]

/-- What a list is shown as. -/
theorem means_list (items : List Value) (tag kind length : String) (book : LocaleBook) :
    Means [written (.list items) (Format.list items tag kind length book)]
      (orPlain (.list items) (Format.list items tag kind length book))
      fun f ↦ Value.anyOverlong items = true ∧ f = .number .overlong := by
  refine (means_written (Format.recovers_list book items tag kind length)).congr fun f ↦ ⟨?_, ?_⟩
  · rintro ⟨-, hlong, rfl⟩
    exact ⟨hlong, rfl⟩
  · rintro ⟨hlong, rfl⟩
    exact ⟨⟨_, Format.list_of_anyOverlong book hlong tag kind length⟩, hlong, rfl⟩

/-- A reading of a value, or a hole. -/
theorem means_orHole {α : Type} {name : String} {reading : Option α} {f : α → Outline}
    {text : α → String} {stops : α → Fault → Prop}
    (h : ∀ a, reading = some a → (f a).Means (text a) (stops a)) :
    (orHole name reading f).Means ((reading.map text).getD (inBraces name)) fun g ↦
      ∃ a, reading = some a ∧ stops a g := by
  cases reading with
  | none => exact (means_hole name).congr fun g ↦ by simp
  | some a => exact (h a rfl).congr fun g ↦ by simp

end Scene

end Phrasebook
