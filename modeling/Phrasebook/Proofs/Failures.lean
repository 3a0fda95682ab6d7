import Phrasebook.Proofs.ClearOutlines
import Phrasebook.Proofs.KnownElements
import Phrasebook.Proofs.Meaning
import Phrasebook.Proofs.Results

/-!
Where rendering fails.

Every element shows what it is meant to show unless it stops rendering (`Scene.means_element`), and
so does every message of known elements. The walk over the elements needs one fact of each kind of
argument: why a plural argument stops (`Scene.stops_plural_iff`) and that what is chosen among the
outlines of branches is the outline of the branch that is chosen (`Scene.branch?_map`). Rendering a
template then gives a text just when nothing stops it, and the text is the one that is meant
(`Renderer.render_eq_ok_iff`).
-/

set_option autoImplicit false

namespace Phrasebook

open Grammar Message Template

namespace Scene

open Outline

variable {scene : Scene}

/-! ### Branches -/

section Branches

variable {α β : Type} (g : α → β) (os : List (String × α))

theorem lookup_map_branches (selector : String) :
    (os.map fun o ↦ (o.1, g o.2)).lookup selector = (os.lookup selector).map g := by
  induction os with
  | nil => rfl
  | cons o os ih =>
    rw [List.map_cons, List.lookup_cons, List.lookup_cons, ih]
    cases selector == o.1 <;> rfl

theorem selectBranch?_map (v : Value) :
    selectBranch? (os.map fun o ↦ (o.1, g o.2)) v = (selectBranch? os v).map g := by
  unfold selectBranch?
  rw [lookup_map_branches, lookup_map_branches, Option.map_or]
  cases v.isAbsent <;> rfl

theorem branch?_map (n lowered : Number) (locale : String) (kind : PluralKind)
    (book : LocaleBook) :
    Plural.branch? (os.map fun o ↦ (o.1, g o.2)) n lowered locale kind book =
      (Plural.branch? os n lowered locale kind book).map (Option.map g) := by
  have hselector : ((fun o ↦ Plural.isExact o.1 n) ∘ fun o : String × α ↦ (o.1, g o.2)) =
      fun o ↦ Plural.isExact o.1 n := rfl
  unfold Plural.branch?
  rw [List.find?_map, hselector]
  cases os.find? fun o ↦ Plural.isExact o.1 n with
  | some o => rfl
  | none =>
    cases Plural.ofNumber lowered locale kind book with
    | error f => rfl
    | ok category =>
      simp only [Option.map_none, Except.map, lookup_map_branches, Option.map_or]

end Branches

theorem options_eq_map (pound : Option Value) (os : List (String × Message)) :
    scene.options pound os = os.map fun o ↦ (o.1, scene.message pound o.2) := by
  induction os with
  | nil => rw [options]; rfl
  | cons o os ih =>
    obtain ⟨selector, branch⟩ := o
    rw [options, ih]
    rfl

theorem meantOptions_eq_map (pound : Option Value) (os : List (String × Message)) :
    scene.meantOptions pound os = os.map fun o ↦ (o.1, scene.meantMessage pound o.2) := by
  induction os with
  | nil => rw [meantOptions]; rfl
  | cons o os ih =>
    obtain ⟨selector, branch⟩ := o
    rw [meantOptions, ih]
    rfl

/-! ### Plural arguments -/

section Plural

variable {pound : Option Value} {name : String} {kind : PluralKind} {offset : Int}
  {os : List (String × Message)} {n : Number} {f : Fault}

/-- No branch can be chosen just when no selector names the number and the lowered number has no
category. -/
theorem branch?_eq_error_iff {lowered : Number} {locale : String} {book : LocaleBook}
    {g : Number.Fault} :
    Plural.branch? os n lowered locale kind book = .error g ↔
      (∀ o ∈ os, Plural.isExact o.1 n = false) ∧
        Plural.ofNumber lowered locale kind book = .error g := by
  unfold Plural.branch?
  cases h : os.find? fun o ↦ Plural.isExact o.1 n with
  | some o =>
    have hexact := List.find?_some h
    have hmem := List.mem_of_find?_eq_some h
    refine ⟨fun h ↦ (by cases h), fun ⟨hnone, _⟩ ↦ ?_⟩
    rw [hnone o hmem] at hexact
    cases hexact
  | none =>
    have hnone : ∀ o ∈ os, Plural.isExact o.1 n = false := by simpa using h
    cases Plural.ofNumber lowered locale kind book with
    | error g' => simpa [Except.map] using fun _ ↦ hnone
    | ok category => simp [Except.map]

/-- The number that plural rules select on is defined. -/
theorem isNaN_of_number? {v : Value} (h : v.number? = some n) : n.isNaN = false := by
  cases v with
  | number n' =>
    rw [Value.number?] at h
    split at h
    · cases h
    · rename_i hnan
      obtain rfl := Option.some.inj h
      exact Bool.eq_false_iff.2 hnan
  | _ => cases h

/-- Lowering the number stops the plural argument. -/
theorem stops_of_lower (hn : (scene.valueOf name).number? = some n) {g : Number.Fault}
    (h : n.lower offset = .error g) :
    scene.Stops pound (.plural name kind offset os) (.number g) := by
  rcases (Number.lower_eq_error_iff (isNaN_of_number? hn)).1 h with
    ⟨x, rfl, hlarge, rfl⟩ | ⟨d, rfl, hsub, rfl⟩
  · exact .offset hn hlarge
  · exact .difference hn hsub

/-- Where there is no branch to choose, the plural argument stops. -/
theorem stops_of_branch? (hn : (scene.valueOf name).number? = some n) {lowered : Number}
    (hlower : n.lower offset = .ok lowered) {g : Number.Fault}
    (h : Plural.branch? os n lowered scene.locale kind scene.book = .error g) :
    scene.Stops pound (.plural name kind offset os) (.number g) := by
  obtain ⟨hexact, hcategory⟩ := branch?_eq_error_iff.1 h
  rcases (Plural.ofNumber_lowered_eq_error_iff (isNaN_of_number? hn) hlower).1 hcategory with
    ⟨i, rfl, hlarge, rfl⟩ | ⟨d, d', rfl, hsub, hremainder, rfl⟩
  · exact .category hn hexact hlarge
  · exact .remainder hn hexact hsub hremainder

/-- Only a number stops a plural argument. -/
theorem exists_number?_of_stops (h : scene.Stops pound (.plural name kind offset os) f) :
    ∃ n, (scene.valueOf name).number? = some n := by
  cases h with
  | offset hx => exact ⟨_, hx⟩
  | difference hd => exact ⟨_, hd⟩
  | category hi => exact ⟨_, hi⟩
  | remainder hd => exact ⟨_, hd⟩
  | plural hn => exact ⟨_, hn⟩

/-- A plural argument stops when the number cannot be lowered, when there is no branch to choose,
and where the branch stops. -/
theorem stops_plural_iff (hn : (scene.valueOf name).number? = some n) :
    scene.Stops pound (.plural name kind offset os) f ↔
      (∃ g, n.lower offset = .error g ∧ f = .number g) ∨
      ∃ lowered, n.lower offset = .ok lowered ∧
        ((∃ g, Plural.branch? os n lowered scene.locale kind scene.book = .error g ∧
            f = .number g) ∨
          ∃ m, Plural.branch? os n lowered scene.locale kind scene.book = .ok (some m) ∧
            ∃ e ∈ m, scene.Stops (some (.number lowered)) e f) := by
  have hnan := isNaN_of_number? hn
  constructor
  · intro h
    cases h with
    | @offset _ _ _ _ _ x hx hlarge =>
      obtain rfl := Option.some.inj (hn.symm.trans hx)
      exact .inl ⟨_, (Number.lower_eq_error_iff hnan).2 (.inl ⟨x, rfl, hlarge, rfl⟩), rfl⟩
    | @difference _ _ _ _ _ d hd hsub =>
      obtain rfl := Option.some.inj (hn.symm.trans hd)
      exact .inl ⟨_, (Number.lower_eq_error_iff hnan).2 (.inr ⟨d, rfl, hsub, rfl⟩), rfl⟩
    | @category _ _ _ _ i _ hi hexact hlarge =>
      obtain rfl := Option.some.inj (hn.symm.trans hi)
      have hlower : (Number.integer i).lower offset = .ok (.integer (i - offset)) := rfl
      exact .inr ⟨_, hlower, .inl ⟨_, branch?_eq_error_iff.2 ⟨hexact,
        (Plural.ofNumber_lowered_eq_error_iff hnan hlower).2 (.inl ⟨i, rfl, hlarge, rfl⟩)⟩, rfl⟩⟩
    | @remainder _ _ _ _ _ d d' hd hexact hsub hcategory =>
      obtain rfl := Option.some.inj (hn.symm.trans hd)
      have hlower : (Number.decimal d).lower offset = .ok (.decimal d') := by
        simp only [Number.lower, hsub]
      exact .inr ⟨_, hlower, .inl ⟨_, branch?_eq_error_iff.2 ⟨hexact, hcategory⟩, rfl⟩⟩
    | @plural _ _ _ _ _ n' lowered m e _ hn' hlower hbranch he hstops =>
      obtain rfl := Option.some.inj (hn.symm.trans hn')
      exact .inr ⟨lowered, hlower, .inr ⟨m, hbranch, e, he, hstops⟩⟩
  · rintro (⟨g, hlower, rfl⟩ | ⟨lowered, hlower, ⟨g, hbranch, rfl⟩ | ⟨m, hbranch, e, he, hstops⟩⟩)
    · exact stops_of_lower hn hlower
    · exact stops_of_branch? hn hlower hbranch
    · exact .plural hn hlower hbranch he hstops

end Plural

/-! ### Messages -/

/-- A message stops where one of its elements does. -/
def MessageStops (scene : Scene) (pound : Option Value) (m : Message) (f : Fault) : Prop :=
  ∃ e ∈ m, scene.Stops pound e f

/-- The outline of a message shows what it is meant to show. -/
def MessageMeans (scene : Scene) (pound : Option Value) (m : Message) : Prop :=
  (scene.message pound m).Means (scene.meantMessage pound m) (scene.MessageStops pound m)

/-- Variables can be asked for, and the arguments that are put aside are of known kinds. -/
structure Proper (scene : Scene) : Prop where
  named : scene.values ≠ .nameless
  known : ∀ x ∈ scene.asides, x.2.Known

/-- A formatter of the program never stops rendering. -/
theorem means_custom (name : String) (v : Value) (formatter : String) (style : Option String) :
    (scene.custom name v formatter style).Means
      ((if v.isAbsent then none else (scene.formatter? formatter).bind fun f ↦
        (f.format v scene.locale style).toOption).getD (inBraces name)) fun _ ↦ False := by
  unfold custom
  cases v.isAbsent with
  | true => exact means_hole name
  | false =>
    cases scene.formatter? formatter with
    | none => exact means_hole name
    | some g =>
      cases hg : g.format v scene.locale style with
      | ok s => simpa [hg, Except.toOption] using means_text .output s
      | error e => simpa [hg, Except.toOption] using means_notice _ (means_hole name)

/-- An argument beyond the message format shows what it is meant to show, unless it stops
rendering. -/
theorem means_extension (h : scene.values ≠ .nameless) {a : ExtensionArgument} (ha : a.Known) :
    (scene.extension a).Means (scene.meantAside a) (scene.AsideStops a) := by
  obtain ⟨name, extension⟩ := a
  unfold Scene.extension meantAside
  rw [withValue_eq h]
  dsimp only
  cases extension with
  | custom formatter style =>
    exact (means_custom name _ formatter style).congr fun f ↦ ⟨False.elim, nofun⟩
  | currency code =>
    refine (means_orHole fun n _ ↦ means_number (Format.numeric_currency _ _ _ _) fun hn ↦
      Format.givesUp_currency _ hn _ _).congr fun f ↦ ⟨?_, fun hstops ↦ ?_⟩
    · rintro ⟨n, hn, hstops⟩
      exact .currency hn hstops
    · cases hstops with
      | currency hn hstops => exact ⟨_, hn, hstops⟩
  | compact display =>
    refine (means_orHole fun n _ ↦ means_number (Format.numeric_compact _ _ _ _) fun hn ↦
      Format.givesUp_compact _ hn _ _).congr fun f ↦ ⟨?_, fun hstops ↦ ?_⟩
    · rintro ⟨n, hn, hstops⟩
      exact .compact hn hstops
    · cases hstops with
      | compact hn hstops => exact ⟨_, hn, hstops⟩
  | relativeTime style =>
    refine (means_orHole fun m _ ↦ means_relative m _ _ _ _).congr fun f ↦ ⟨?_, fun hstops ↦ ?_⟩
    · rintro ⟨m, hm, hpresent, rfl⟩
      exact .relativeTime hm hpresent
    · cases hstops with
      | relativeTime hm hpresent => exact ⟨_, hm, hpresent, rfl⟩
  | list kind length =>
    dsimp only
    cases hv : scene.valueOf name with
    | list items =>
      refine (means_list items _ _ _ _).congr fun f ↦ ⟨?_, fun hstops ↦ ?_⟩
      · rintro ⟨hlong, rfl⟩
        exact .list hv hlong
      · cases hstops with
        | list hitems hlong =>
          obtain rfl := Value.list.inj (hv.symm.trans hitems)
          exact ⟨hlong, rfl⟩
    | _ =>
      refine (means_hole name).congr fun f ↦ ⟨False.elim, fun hstops ↦ ?_⟩
      cases hstops with
      | list hitems =>
        rw [hv] at hitems
        cases hitems
  | unknown kind => exact absurd rfl (ha kind)

/-- A plain argument shows what it is meant to show, unless it stops rendering. A name in the form
of a placeholder without a value is left as it was written, which is how a hole is filled. -/
theorem means_argument (h : scene.Proper) (pound : Option Value) (name : String) :
    (scene.argument name).Means (scene.meant pound (.argument name))
      (scene.Stops pound (.argument name)) := by
  unfold argument
  rw [meant]
  cases hlookup : scene.asides.lookup name with
  | some a =>
    have ha : a.Known := h.known (name, a) (Table.mem_of_lookup hlookup)
    refine (means_extension h.named ha).congr fun f ↦ ⟨.aside hlookup, fun hstops ↦ ?_⟩
    cases hstops with
    | argument hnone =>
      rw [hlookup] at hnone
      cases hnone
    | aside hsome hstops =>
      obtain rfl := Option.some.inj (hlookup.symm.trans hsome)
      exact hstops
  | none =>
    rw [withValue_eq h.named]
    have hplain : Means (if (scene.valueOf name).isAbsent && hasPlaceholderForm name then
        [.text .template (inBraces name)] else plain name (scene.valueOf name))
        (meantPlain name (scene.valueOf name))
        fun f ↦ (scene.valueOf name).isOverlong = true ∧ f = .number .overlong := by
      split
      · rename_i hform
        obtain ⟨habsent, -⟩ := Bool.and_eq_true_iff.1 hform
        rw [meantPlain, if_pos habsent]
        exact (means_text _ _).congr fun f ↦ by simp [isOverlong_of_isAbsent habsent]
      · exact means_plain name _
    refine hplain.congr fun f ↦ ⟨?_, fun hstops ↦ ?_⟩
    · rintro ⟨hlong, rfl⟩
      exact .argument hlookup hlong
    · cases hstops with
      | argument _ hlong => exact ⟨hlong, rfl⟩
      | aside hsome =>
        rw [hlookup] at hsome
        cases hsome

/-- A branch that is chosen, or a hole. -/
theorem means_branch {pound : Option Value} {a : Option Message}
    (h : ∀ m, a = some m → scene.MessageMeans pound m) (name : String) :
    ((a.map (scene.message pound)).getD [.hole name]).Means
      ((a.map (scene.meantMessage pound)).getD (inBraces name))
      fun f ↦ ∃ m, a = some m ∧ scene.MessageStops pound m f := by
  cases a with
  | none => exact (means_hole name).congr fun f ↦ by simp
  | some m => exact (h m rfl).congr fun f ↦ by simp

/-- A plural argument shows what it is meant to show if its branches do. -/
theorem means_plural (h : scene.Proper) (pound : Option Value) (name : String) (kind : PluralKind)
    (offset : Int) {os : List (String × Message)}
    (hos : ∀ pound, ∀ o ∈ os, scene.MessageMeans pound o.2) :
    (scene.element pound (.plural name kind offset os)).Means
      (scene.meant pound (.plural name kind offset os))
      (scene.Stops pound (.plural name kind offset os)) := by
  rw [element, withValue_eq h.named, meant]
  cases hn : (scene.valueOf name).number? with
  | none =>
    refine (means_hole name).congr fun f ↦ ⟨False.elim, fun hstops ↦ ?_⟩
    obtain ⟨n, hsome⟩ := exists_number?_of_stops hstops
    rw [hn] at hsome
    cases hsome
  | some n =>
    dsimp only [orHole, Option.bind_some, bind]
    cases hlower : n.lower offset with
    | error g =>
      exact (means_fault (.number g) _).congr fun f ↦ by simp [stops_plural_iff hn, hlower]
    | ok lowered =>
      dsimp only [Except.toOption, Option.bind_some]
      rw [options_eq_map, meantOptions_eq_map, branch?_map, branch?_map]
      cases hbranch : Plural.branch? os n lowered scene.locale kind scene.book with
      | error g =>
        exact (means_fault (.number g) _).congr fun f ↦ by
          simp [stops_plural_iff hn, hlower, hbranch]
      | ok branch =>
        have hmeans (m : Message) (hm : branch = some m) :
            scene.MessageMeans (some (.number lowered)) m := by
          obtain ⟨o, ho, rfl⟩ := mem_of_branch? (hbranch.trans (congrArg _ hm))
          exact hos _ o ho
        exact (means_branch hmeans name).congr fun f ↦ by
          simp [stops_plural_iff hn, hlower, hbranch, MessageStops]

/-- A select argument shows what it is meant to show if its branches do. -/
theorem means_select (h : scene.Proper) (pound : Option Value) (name : String)
    {os : List (String × Message)} (hos : ∀ o ∈ os, scene.MessageMeans none o.2) :
    (scene.element pound (.select name os)).Means (scene.meant pound (.select name os))
      (scene.Stops pound (.select name os)) := by
  rw [element, withValue_eq h.named, meant, options_eq_map, meantOptions_eq_map]
  unfold selected
  cases hlong : (scene.valueOf name).isOverlong with
  | true =>
    refine (means_fault (.number .overlong) _).congr fun f ↦ ⟨?_, ?_⟩
    · rintro rfl
      exact .selector hlong
    · intro hstops
      cases hstops with
      | selector => rfl
      | select hshort =>
        rw [hlong] at hshort
        cases hshort
  | false =>
    rw [selectBranch?_map, selectBranch?_map]
    refine (means_branch (fun m hm ↦ ?_) name).congr fun f ↦ ⟨?_, ?_⟩
    · obtain ⟨o, ho, rfl⟩ := mem_of_selectBranch? hm
      exact hos o ho
    · rintro ⟨m, hm, e, he, hstops⟩
      exact .select hlong hm he hstops
    · intro hstops
      cases hstops with
      | selector hlong' =>
        rw [hlong] at hlong'
        cases hlong'
      | select _ hm he hstops => exact ⟨_, hm, _, he, hstops⟩

/-- A date or time never stops rendering. -/
theorem means_dateOrTime (h : scene.Proper) (name : String)
    {format : Value → String → LocaleBook → Except FormatFault String}
    (hformat : ∀ m, Format.Recovers (format (.moment m) scene.locale scene.book)) :
    (scene.moment name format).Means
      (((scene.valueOf name).readMoment?.map fun m ↦ orPlain (.moment m)
        (format (.moment m) scene.locale scene.book)).getD (inBraces name)) fun _ ↦ False := by
  rw [moment, withValue_eq h.named]
  exact (means_orHole fun m _ ↦ means_moment (hformat m)).congr fun f ↦ by simp

mutual

/-- An element shows what it is meant to show, unless it stops rendering. -/
theorem means_element (h : scene.Proper) (pound : Option Value)
    {e : Element} (he : ElementKnown e) :
    (scene.element pound e).Means (scene.meant pound e) (scene.Stops pound e) := by
  cases e with
  | literal s =>
    rw [element, meant]
    exact (means_text .template s).congr fun f ↦ ⟨False.elim, nofun⟩
  | argument name =>
    rw [element]
    exact means_argument h pound name
  | pound =>
    rw [element, meant]
    cases pound with
    | none => exact (means_text .template "#").congr fun f ↦ ⟨False.elim, nofun⟩
    | some v =>
      refine (means_shown v).congr fun f ↦ ⟨?_, fun hstops ↦ ?_⟩
      · rintro ⟨hlong, rfl⟩
        exact .pound hlong
      · cases hstops with
        | pound hlong => exact ⟨hlong, rfl⟩
  | plural name kind offset os =>
    exact means_plural h pound name kind offset fun pound ↦ means_options h pound he
  | select name os => exact means_select h pound name (means_options h none he)
  | number name style options =>
    rw [element, meant, Scene.number, withValue_eq h.named]
    refine (means_orHole fun n _ ↦ means_number (Format.numeric_number _ _ _ _ _) fun hn ↦
      Format.givesUp_number _ hn _ _ _).congr fun f ↦ ⟨?_, fun hstops ↦ ?_⟩
    · rintro ⟨n, hn, hstops⟩
      exact .number hn hstops
    · cases hstops with
      | number hn hstops => exact ⟨_, hn, hstops⟩
  | date name style skeleton =>
    rw [element, meant]
    exact (means_dateOrTime h name fun m ↦ Format.recovers_date _ m _ _ _).congr fun f ↦
      ⟨False.elim, nofun⟩
  | time name style skeleton =>
    rw [element, meant]
    exact (means_dateOrTime h name fun m ↦ Format.recovers_time _ m _ _ _).congr fun f ↦
      ⟨False.elim, nofun⟩
  | foreign kind => exact he.elim

theorem means_message (h : scene.Proper) (pound : Option Value)
    {m : Message} (hm : MessageKnown m) : scene.MessageMeans pound m := by
  cases m with
  | nil =>
    rw [MessageMeans, message, meantMessage]
    exact means_nil.congr fun f ↦ by simp [MessageStops]
  | cons e es =>
    rw [MessageMeans, message, meantMessage]
    have he := means_element h pound hm.1
    exact (he.append (means_message h pound hm.2)).congr fun f ↦ by simp [MessageStops]

theorem means_options (h : scene.Proper) (pound : Option Value)
    {os : List (String × Message)} (hos : OptionsKnown os) :
    ∀ o ∈ os, scene.MessageMeans pound o.2 := by
  cases os with
  | nil => exact List.forall_mem_nil _
  | cons o os =>
    obtain ⟨selector, branch⟩ := o
    exact List.forall_mem_cons.2
      ⟨means_message h pound hos.1, means_options h pound hos.2⟩

end

/-! ### Templates -/

theorem means_pieces (h : scene.Proper) (pieces : List (Piece String)) :
    Means (pieces.flatMap fun
      | .char c => [.text .template (String.singleton c)]
      | .found name => scene.withValue name (plain name)) (scene.meantPieces pieces)
      fun f ↦ ∃ name, .found name ∈ pieces ∧ (scene.valueOf name).isOverlong = true ∧
        f = .number .overlong := by
  induction pieces with
  | nil => exact means_nil.congr fun f ↦ by simp
  | cons piece pieces ih =>
    rw [List.flatMap_cons]
    cases piece with
    | char c => exact ((means_text .template _).append ih).congr fun f ↦ by simp
    | found name =>
      have hfirst := means_plain name (scene.valueOf name)
      rw [← withValue_eq h.named name (plain name)] at hfirst
      exact (hfirst.append ih).congr fun f ↦ by simp [or_and_right, exists_or]

/-! ### Faults of the template -/

theorem NumberStops.ne_template {n : Number} {r : Except FormatFault String} {f : Fault}
    (h : NumberStops n r f) (e : TemplateFault) : f ≠ .template e := by
  cases h <;> simp

theorem AsideStops.ne_template {a : ExtensionArgument} {f : Fault} (h : scene.AsideStops a f)
    (e : TemplateFault) : f ≠ .template e := by
  cases h with
  | currency _ h => exact h.ne_template e
  | compact _ h => exact h.ne_template e
  | relativeTime => simp
  | list => simp

/-- An element does not stop with a fault of the template, which has been read. -/
theorem Stops.ne_template {pound : Option Value} {element : Element} {f : Fault}
    (h : scene.Stops pound element f) (e : TemplateFault) : f ≠ .template e := by
  induction h with
  | aside _ h => exact h.ne_template e
  | number _ h => exact h.ne_template e
  | plural _ _ _ _ _ ih => exact ih
  | select _ _ _ _ ih => exact ih
  | _ => simp

end Scene

namespace Renderer

variable (r : Renderer) (clock : Calendar.Moment) (template : String) (values : Values)
  (tag : String)

/-- The form in which a template is read. -/
def readForm : String :=
  String.ofList (r.prepared template).text

/-- What the message of a template is rendered with. -/
def preparedScene : Scene :=
  (r.scene clock values tag).withAsides (r.prepared template).asides

/-- What a template is meant to be rendered to: what its message is meant to show, or the template
itself if it is no message. -/
def meant : String :=
  if needsMessage r.roster.names template.toList then
    match Message.parse (r.readForm template) with
    | .ok m => (r.preparedScene clock template values tag).meantMessage none m
    | .error _ => template
  else (r.scene clock values tag).meantPieces (plainVariable.pieces template.toList)

/-- Why a template is not rendered. -/
inductive Stops : Fault → Prop
  /-- A template of plain variables shows a value with too many digits. -/
  | value {name : String} : needsMessage r.roster.names template.toList = false →
      .found name ∈ plainVariable.pieces template.toList →
      ((r.scene clock values tag).valueOf name).isOverlong = true → Stops (.number .overlong)
  /-- The template comes to an offset with too many digits. -/
  | offset {l : Text.LongNumeral} : needsMessage r.roster.names template.toList = true →
      HasLongOffset (r.readForm template) l.digits → Stops (.template (.longOffset l))
  /-- An element of the message stops rendering. -/
  | element {m : Message} {f : Fault} : needsMessage r.roster.names template.toList = true →
      Derives (r.readForm template) m → (¬ ∃ n, HasLongOffset (r.readForm template) n) →
      (r.preparedScene clock template values tag).MessageStops none m f → Stops f

section Outcome

variable {r template values}

theorem proper_preparedScene (h : values ≠ .nameless) :
    (r.preparedScene clock template values tag).Proper where
  named := h
  known := known_prepare r.roster.braceFree_names _

/-- The message of a template shows what it is meant to show. -/
theorem means_readForm (h : values ≠ .nameless)
    (hneeds : needsMessage r.roster.names template.toList = true) {m : Message}
    (hm : Message.parse (r.readForm template) = .ok m) :
    ((r.preparedScene clock template values tag).message none m).Means
      (r.meant clock template values tag) (r.Stops clock template values tag) := by
  obtain ⟨hderives, hlong⟩ := parse_eq_ok_iff.1 hm
  rw [meant, if_pos hneeds, hm]
  have hknown := (elements_of_parse hm).known
  refine (Scene.means_message (proper_preparedScene clock tag h) none hknown).congr fun f ↦ ⟨?_, ?_⟩
  · exact .element hneeds hderives hlong
  · intro hstops
    cases hstops with
    | value hplain =>
      rw [hneeds] at hplain
      cases hplain
    | offset _ hl => exact absurd ⟨_, hl⟩ hlong
    | element _ hderives' _ hstops =>
      obtain rfl := (hderives.unique hderives').1
      exact hstops

/-- A template of plain variables shows what it is meant to show. -/
theorem means_simple (h : values ≠ .nameless)
    (hplain : needsMessage r.roster.names template.toList = false) :
    ((r.scene clock values tag).simple template.toList).Means (r.meant clock template values tag)
      (r.Stops clock template values tag) := by
  have hproper : (r.scene clock values tag).Proper := ⟨h, List.forall_mem_nil _⟩
  rw [meant, hplain, if_neg Bool.false_ne_true]
  refine (Scene.means_pieces hproper (plainVariable.pieces template.toList)).congr fun f ↦ ⟨?_, ?_⟩
  · rintro ⟨name, hfound, hlong, rfl⟩
    exact .value hplain hfound hlong
  · intro hstops
    cases hstops with
    | value _ hfound hlong => exact ⟨_, hfound, hlong, rfl⟩
    | offset hneeds =>
      rw [hplain] at hneeds
      cases hneeds
    | element hneeds =>
      rw [hplain] at hneeds
      cases hneeds

/-- What a template that needs to be read is rendered to, by its message. -/
theorem result_tryRender_readForm (hneeds : needsMessage r.roster.names template.toList = true)
    (values : Values) (locale : Option String) :
    (r.tryRender clock template values locale).2.result =
      (((Message.parse (r.readForm template)).mapError .template).map
        ((r.preparedScene clock template values (r.settings.localeOr locale)).message none)).bind
          fun o ↦ (o.fill (r.missing (r.settings.localeOr locale))).result :=
  result_tryRender_of_needsMessage r hneeds clock values locale

variable {clock tag}

/-- What stops rendering a template is not that it is no message. -/
theorem Stops.ne_notMessage {f : Fault} (h : r.Stops clock template values tag f)
    (e : SyntaxError) : f ≠ .template (.notMessage e) := by
  cases h with
  | value => simp
  | offset => simp
  | element _ _ _ hstops =>
    obtain ⟨element, -, hstops⟩ := hstops
    exact hstops.ne_template _

/-- Nothing stops rendering a template that is no message, which is rendered to itself. -/
theorem not_stops_of_notMessage (hneeds : needsMessage r.roster.names template.toList = true)
    {e : SyntaxError} (h : Message.parse (r.readForm template) = .error (.notMessage e))
    (f : Fault) : ¬ r.Stops clock template values tag f := by
  obtain ⟨hnone, hlong⟩ := parse_eq_notMessage_iff.1 ⟨e, h⟩
  intro hstops
  cases hstops with
  | value hplain =>
    rw [hneeds] at hplain
    cases hplain
  | offset _ hl => exact hlong ⟨_, hl⟩
  | element _ hderives => exact hnone ⟨_, hderives⟩

theorem meant_of_notMessage (hneeds : needsMessage r.roster.names template.toList = true)
    {e : SyntaxError} (h : Message.parse (r.readForm template) = .error (.notMessage e)) :
    r.meant clock template values tag = template := by
  rw [meant, if_pos hneeds, h]

/-- Rendering fills an outline that means what is meant, since what it can fail with is not that the
template is no message. -/
theorem result_render_of_means {locale : Option String}
    (hmissing : r.settings.missingVariable = none) {o : Outline}
    (hmeans : o.Means (r.meant clock template values tag)
      (r.Stops clock template values tag))
    (ho : (r.tryRender clock template values locale).2.result = (o.fill (r.missing tag)).result) :
    (r.render clock template values locale).2.result = (o.fill Outline.braced).result := by
  have hbraced : r.missing tag = Outline.braced := funext (missing_of_none hmissing tag)
  rw [hbraced] at ho
  rw [result_render, ho]
  split
  · rename_i e he
    exact absurd rfl ((hmeans.outcome.2 _ he).ne_notMessage e)
  · rfl

/-- Whatever is shown for missing values, rendering fails with one of the things that stop it, or
because a missing value cannot be shown. -/
theorem stops_or_call_of_render {locale : Option String} (hvalues : values ≠ .nameless) {f : Fault}
    (h : (r.render clock template values locale).2.result = .error f) :
    (∃ name c, r.missing (r.settings.localeOr locale) name = .error c ∧ f = .call c) ∨
      r.Stops clock template values (r.settings.localeOr locale) f := by
  let tag := r.settings.localeOr locale
  have htry : (r.tryRender clock template values locale).2.result = .error f := by
    rw [result_render] at h
    split at h
    · cases h
    · exact h
  have hfilled {o : Outline} (hmeans : o.Means (r.meant clock template values tag)
      (r.Stops clock template values tag)) (ho : (o.fill (r.missing tag)).result = .error f) :
      (∃ name c, r.missing tag name = .error c ∧ f = .call c) ∨
        r.Stops clock template values tag f :=
    (Outline.fault_mem_or_call_of_fill ho).symm.imp_right (hmeans.1 f).1
  cases hneeds : needsMessage r.roster.names template.toList with
  | false =>
    rw [result_tryRender_of_plain r hneeds] at htry
    exact hfilled (means_simple clock tag hvalues hneeds) htry
  | true =>
    rw [result_tryRender_readForm clock hneeds] at htry
    cases hm : Message.parse (r.readForm template) with
    | ok m =>
      rw [hm] at htry
      exact hfilled (means_readForm clock tag hvalues hneeds hm) htry
    | error g =>
      rw [hm] at htry
      obtain rfl : .template g = f := Except.error.inj htry
      cases g with
      | longOffset l => exact .inr (.offset hneeds (parse_eq_longOffset_iff.1 hm))
      | notMessage e =>
        rw [result_render, result_tryRender_readForm clock hneeds, hm] at h
        cases h

end Outcome

/-- Where missing values show their names, a template is rendered just when nothing stops that, and
then to what it is meant to be rendered to. Rendering fails with one of the things that stop it. -/
theorem render_eq_ok_iff (locale : Option String) (hmissing : r.settings.missingVariable = none)
    (hvalues : values ≠ .nameless) :
    let tag := r.settings.localeOr locale
    let result := (r.render clock template values locale).2.result
    (∀ text, result = .ok text ↔
      (∀ f, ¬ r.Stops clock template values tag f) ∧ text = r.meant clock template values tag) ∧
    ∀ f, result = .error f → r.Stops clock template values tag f := by
  intro tag result
  cases hneeds : needsMessage r.roster.names template.toList with
  | false =>
    have hmeans := means_simple clock tag hvalues hneeds
    have hfilled := result_tryRender_of_plain r hneeds clock values locale
    have hresult : result = _ := result_render_of_means hmissing hmeans hfilled
    rw [hresult]
    exact hmeans.outcome
  | true =>
    have hread := result_tryRender_readForm clock hneeds values locale
    cases hm : Message.parse (r.readForm template) with
    | ok m =>
      have hmeans := means_readForm clock tag hvalues hneeds hm
      rw [hm] at hread
      have hresult : result = _ := result_render_of_means hmissing hmeans hread
      rw [hresult]
      exact hmeans.outcome
    | error f =>
      rw [hm] at hread
      cases f with
      | notMessage e =>
        have hresult : result = .ok template := by
          simp only [result, result_render, hread]
          rfl
        have hnone (f : Fault) : ¬ r.Stops clock template values tag f :=
          not_stops_of_notMessage hneeds hm f
        rw [hresult, meant_of_notMessage hneeds hm]
        exact ⟨fun text ↦ by simp [hnone, eq_comm], nofun⟩
      | longOffset l =>
        have hresult : result = .error (.template (.longOffset l)) := by
          simp only [result, result_render, hread]
          rfl
        have hstops : r.Stops clock template values tag (.template (.longOffset l)) :=
          .offset hneeds (parse_eq_longOffset_iff.1 hm)
        rw [hresult]
        refine ⟨fun text ↦ ⟨nofun, fun h ↦ absurd hstops (h.1 _)⟩, fun f hf ↦ ?_⟩
        rwa [← Except.error.inj hf]

/-- A template with one branch for every number. -/
def anyCount : String := "\x7bn, plural, other \x7bx\x7d\x7d"

/-- What is no number leaves the name of the count, and a number that is too large for a double
stops rendering. -/
theorem render_anyCount :
    let r := ofSettings {} {}
    let count (v : Value) := Values.ofList [("n", v)]
    (∀ f, ¬ r.Stops default anyCount (count (.text "many")) "en" f) ∧
      r.meant default anyCount (count (.text "many")) "en" = "\x7bn\x7d" ∧
      r.Stops default anyCount (count (.number (.integer (10 ^ 400)))) "en" (.number .tooLarge) ∧
      ∀ text, (r.render default anyCount (count (.number (.integer (10 ^ 400)))) none).2.result ≠
        .ok text := by
  intro r count
  have hword : (r.render default anyCount (count (.text "many")) none).2.result =
      .ok "\x7bn\x7d" := by
    decide +kernel
  have hlarge : (r.render default anyCount (count (.number (.integer (10 ^ 400)))) none).2.result =
      .error (.number .tooLarge) := by
    decide +kernel
  obtain ⟨hok, -⟩ := render_eq_ok_iff r default anyCount (count (.text "many")) none rfl nofun
  obtain ⟨hok', herror⟩ :=
    render_eq_ok_iff r default anyCount (count (.number (.integer (10 ^ 400)))) none rfl nofun
  obtain ⟨hnone, hmeant⟩ := (hok "\x7bn\x7d").1 hword
  have hstops := herror _ hlarge
  exact ⟨hnone, hmeant.symm, hstops, fun text htext ↦ ((hok' text).1 htext).1 _ hstops⟩

end Renderer

end Phrasebook
