import Phrasebook.Proofs.ServedPhrases
import Phrasebook.Proofs.VerbatimValues
import Phrasebook.Proofs.WholeDoubles

/-!
A count may be a whole number or the double that is it.

Both have one plain text, equal the same selectors and have one plural category
(`Number.Whole`). Lowered by an offset they are again a whole number and the double that is it, as
long as nothing leaves the numbers of at most `2 ^ 53`, among which differences of doubles are
exact. So a message that uses a variable in no other way than to show it, to choose a branch by its
text or to count is rendered alike for both (`Scene.message_count`), and so is a phrase that is
looked up by the category of its count (`Catalog.phrase_count`).
-/

set_option autoImplicit false

namespace Phrasebook

open Arithmetic Message Template

/-! ### Numbers -/

/-- A whole number and the double that it is. -/
structure Number.Whole (n : Int) (x : Binary64) : Prop where
  natAbs_le : n.natAbs ≤ 2 ^ 53
  toInt? : x.toInt? = some n

namespace Number.Whole

variable {n : Int} {x : Binary64}

theorem ofIntExact (h : n.natAbs ≤ 2 ^ 53) : ofIntExact n = .ok (.ofInt n) := by
  have hfinite := Binary64.isFinite_of_toInt? (Binary64.toInt?_ofInt h)
  unfold Number.ofIntExact
  split
  · rename_i s hs
    rw [hs] at hfinite
    cases hfinite
  · rfl

theorem isNaN (h : Whole n x) : (binary x).isNaN = false := by
  have hfinite := Binary64.isFinite_of_toInt? h.toInt?
  cases x with
  | nan => cases hfinite
  | _ => rfl

theorem plainText (h : Whole n x) : (integer n).plainText = (binary x).plainText := by
  simp only [Number.plainText, h.toInt?]
  rfl

theorem isOverlong (h : Whole n x) : (integer n).isOverlong = false :=
  isOverlong_of_lt_bound (Nat.lt_of_le_of_lt h.natAbs_le
    (Nat.lt_of_lt_of_le (by norm_num) Binary64.le_bound))

/-- A difference that is not too large is exact. -/
theorem exists_lower (h : Whole n x) {offset : Int} (hoffset : offset.natAbs ≤ 2 ^ 53)
    (hdiff : (n - offset).natAbs ≤ 2 ^ 53) :
    ∃ y, (binary x).lower offset = .ok (.binary y) ∧ Whole (n - offset) y := by
  refine ⟨x.sub (.ofInt offset), ?_, hdiff,
    Binary64.toInt?_sub h.toInt? (Binary64.toInt?_ofInt hoffset) hdiff⟩
  rw [Number.lower, ofIntExact hoffset]
  rfl

theorem ofNumber (h : Whole n x) (tag : String) (kind : PluralKind) (book : LocaleBook) :
    Plural.ofNumber (.integer n) tag kind book = Plural.ofNumber (.binary x) tag kind book := by
  have hfinite := Binary64.isFinite_of_toInt? h.toInt?
  have hfinite' := Binary64.isFinite_of_toInt? (Binary64.toInt?_ofInt h.natAbs_le)
  have hoperands :
      Plural.Operands.ofNumber (.integer n) = Plural.Operands.ofNumber (.binary x) := by
    simp only [Plural.Operands.ofNumber, h.toInt?]
  have hunit : Plural.isUnit (.integer n) = Plural.isUnit (.binary x) := by
    have hone : (n.natAbs == 1) = (some |n| == some 1) := by
      rw [Bool.eq_iff_iff, beq_iff_eq, beq_iff_eq, Option.some.injEq, Int.abs_eq_natAbs]
      omega
    simp only [Plural.isUnit, Binary64.toInt?_abs h.toInt?, hone]
  rw [Plural.ofNumber_of_toBinary64 (n := .integer n) (ofIntExact h.natAbs_le),
    Plural.ofNumber_of_toBinary64 (n := .binary x) rfl, if_pos hfinite, if_pos hfinite']
  simp only [Plural.ofFinite, hoperands, hunit]

theorem isExact (h : Whole n x) (selector : String) :
    Plural.isExact selector (.integer n) = Plural.isExact selector (.binary x) := by
  unfold Plural.isExact
  split
  · split
    · exact (equalsBinary_binary h.toInt?).symm
    · rfl
  · rfl

/-- The branch for a count is the same for both. -/
theorem branch? {α : Type} (h : Whole n x) {k : Int} {y : Binary64} (hlowered : Whole k y)
    (options : List (String × α)) (locale : String) (kind : PluralKind) (book : LocaleBook) :
    Plural.branch? options (.integer n) (.integer k) locale kind book =
      Plural.branch? options (.binary x) (.binary y) locale kind book := by
  simp only [Plural.branch?, h.isExact, hlowered.ofNumber]

end Number.Whole

/-! ### Variables that are counted -/

mutual

/-- An element uses a variable in no other way than to show it, to choose a branch by its text, or
to count, and the count `n` and all that it is lowered by stay within the doubles that are exact. -/
def Element.Counts (asides : Asides) (x : String) (n : Int) : Element → Prop
  | .argument name => ∀ a, asides.lookup name = some a → a.name ≠ x
  | .plural name _ offset os =>
    (name = x → offset.natAbs ≤ 2 ^ 53 ∧ (n - offset).natAbs ≤ 2 ^ 53) ∧ OptionsCount asides x n os
  | .select _ os => OptionsCount asides x n os
  | .number name _ _ | .date name _ _ | .time name _ _ => name ≠ x
  | .literal _ | .pound | .foreign _ => True

/-- All elements of a message use the variable so. -/
def MessageCounts (asides : Asides) (x : String) (n : Int) : Message → Prop
  | [] => True
  | e :: m => e.Counts asides x n ∧ MessageCounts asides x n m

/-- All branches use the variable so. -/
def OptionsCount (asides : Asides) (x : String) (n : Int) : List (String × Message) → Prop
  | [] => True
  | (_, m) :: os => MessageCounts asides x n m ∧ OptionsCount asides x n os

end

/-! Whether a variable is counted can be found out. -/

mutual

instance Element.decidableCounts (asides : Asides) (x : String) (n : Int) :
    (e : Element) → Decidable (e.Counts asides x n)
  | .argument name =>
    decidable_of_iff ((asides.lookup name).all fun a ↦ decide (a.name ≠ x)) (by
      cases h : asides.lookup name <;> simp [Element.Counts, h])
  | .plural name _ offset os =>
    haveI := OptionsCount.decidable asides x n os
    decidable_of_iff ((name = x → offset.natAbs ≤ 2 ^ 53 ∧ (n - offset).natAbs ≤ 2 ^ 53) ∧
      OptionsCount asides x n os) (by rw [Element.Counts])
  | .select _ os =>
    haveI := OptionsCount.decidable asides x n os
    decidable_of_iff (OptionsCount asides x n os) (by rw [Element.Counts])
  | .number name _ _ | .date name _ _ | .time name _ _ =>
    decidable_of_iff (name ≠ x) (by rw [Element.Counts])
  | .literal _ | .pound | .foreign _ => isTrue (by simp only [Element.Counts])

instance MessageCounts.decidable (asides : Asides) (x : String) (n : Int) :
    (m : Message) → Decidable (MessageCounts asides x n m)
  | [] => isTrue (by simp only [MessageCounts])
  | e :: m =>
    haveI := Element.decidableCounts asides x n e
    haveI := MessageCounts.decidable asides x n m
    decidable_of_iff (e.Counts asides x n ∧ MessageCounts asides x n m) (by rw [MessageCounts])

instance OptionsCount.decidable (asides : Asides) (x : String) (n : Int) :
    (os : List (String × Message)) → Decidable (OptionsCount asides x n os)
  | [] => isTrue (by simp only [OptionsCount])
  | (_, m) :: os =>
    haveI := MessageCounts.decidable asides x n m
    haveI := OptionsCount.decidable asides x n os
    decidable_of_iff (MessageCounts asides x n m ∧ OptionsCount asides x n os) (by
      rw [OptionsCount])

end

namespace Scene

section Count

variable {scene : Scene} {value : String → Value} {x name : String} {n : Int} {d : Binary64}

theorem shown_whole (h : Number.Whole n d) :
    shown (.number (.integer n)) = shown (.number (.binary d)) := by
  simp only [shown, Value.isOverlong, Value.plainText, h.isOverlong, h.plainText]
  rfl

theorem withValue_binding_congr {v v' : Value} {f f' : Value → Outline} (hx : f v = f' v')
    (hother : name ≠ x → f (value name) = f' (value name)) :
    (scene.binding value x v).withValue name f = (scene.binding value x v').withValue name f' := by
  by_cases hname : name = x
  · subst hname
    rw [withValue_binding_self, withValue_binding_self, hx]
  · rw [withValue_binding_of_ne hname, withValue_binding_of_ne hname, hother hname]

/-- What a variable other than `x` is shown as does not depend on `x`. -/
theorem withValue_binding_other (h : name ≠ x) (v v' : Value) (f : Value → Outline) :
    (scene.binding value x v).withValue name f = (scene.binding value x v').withValue name f := by
  rw [withValue_binding_of_ne h, withValue_binding_of_ne h]

theorem plain_whole (name : String) (h : Number.Whole n d) :
    plain name (.number (.integer n)) = plain name (.number (.binary d)) := by
  rw [plain, plain, shown_whole h]
  rfl

theorem argument_count (h : Number.Whole n d)
    (hname : ∀ a, scene.asides.lookup name = some a → a.name ≠ x) :
    (scene.binding value x (.number (.integer n))).argument name =
      (scene.binding value x (.number (.binary d))).argument name := by
  have hasides (v : Value) : (scene.binding value x v).asides = scene.asides := rfl
  unfold argument
  simp only [hasides]
  cases hlookup : scene.asides.lookup name with
  | some a => exact withValue_binding_other (hname a hlookup) _ _ _
  | none => exact withValue_binding_congr (plain_whole name h) fun _ ↦ rfl

theorem number?_whole (h : Number.Whole n d) :
    (Value.number (.integer n)).number? = some (.integer n) ∧
      (Value.number (.binary d)).number? = some (.binary d) := by
  refine ⟨rfl, ?_⟩
  rw [Value.number?, h.isNaN]
  rfl

theorem plural_count (h : Number.Whole n d) (pound pound' : Option Value) (kind : PluralKind)
    {offset : Int} {os : List (String × Message)}
    (hname : name = x → offset.natAbs ≤ 2 ^ 53 ∧ (n - offset).natAbs ≤ 2 ^ 53)
    (hos : ∀ pound pound' : Option Value, pound.map shown = pound'.map shown →
      (scene.binding value x (.number (.integer n))).options pound os =
        (scene.binding value x (.number (.binary d))).options pound' os) :
    (scene.binding value x (.number (.integer n))).element pound (.plural name kind offset os) =
      (scene.binding value x (.number (.binary d))).element pound'
        (.plural name kind offset os) := by
  have hlocale (v : Value) : (scene.binding value x v).locale = scene.locale := rfl
  have hbook (v : Value) : (scene.binding value x v).book = scene.book := rfl
  simp only [element, hlocale, hbook]
  by_cases hx : name = x
  · subst hx
    obtain ⟨hoffset, hdiff⟩ := hname rfl
    obtain ⟨hn, hd⟩ := number?_whole h
    have hlower : (Number.integer n).lower offset = .ok (.integer (n - offset)) := rfl
    obtain ⟨y, hy, hlowered⟩ := h.exists_lower hoffset hdiff
    -- the branches now stand around two numbers, but these are shown alike
    have hoptions := hos (some (.number (.integer (n - offset)))) (some (.number (.binary y)))
      (congrArg some (shown_whole hlowered))
    simp only [withValue_binding_self, hn, hd, orHole, hlower, hy, hoptions,
      h.branch? hlowered]
  · simp only [withValue_binding_of_ne hx, hos _ _ rfl]

theorem select_count (h : Number.Whole n d) (pound pound' : Option Value)
    {os : List (String × Message)}
    (hos : ∀ pound pound' : Option Value, pound.map shown = pound'.map shown →
      (scene.binding value x (.number (.integer n))).options pound os =
        (scene.binding value x (.number (.binary d))).options pound' os) :
    (scene.binding value x (.number (.integer n))).element pound (.select name os) =
      (scene.binding value x (.number (.binary d))).element pound' (.select name os) := by
  simp only [element, hos none none rfl]
  refine withValue_binding_congr ?_ fun _ ↦ rfl
  simp only [selected, selectBranch?, Value.isOverlong, Value.isAbsent, Value.plainText,
    h.isOverlong, h.plainText]
  rfl

mutual

/-- An element that counts with a variable is rendered alike for a whole number and for the double
that is it. -/
theorem element_count (h : Number.Whole n d) {pound pound' : Option Value}
    (hpound : pound.map shown = pound'.map shown) (e : Element)
    (he : e.Counts scene.asides x n) :
    (scene.binding value x (.number (.integer n))).element pound e =
      (scene.binding value x (.number (.binary d))).element pound' e := by
  cases e with
  | literal s => simp only [element]
  | argument name =>
    simp only [element]
    exact argument_count h he
  | pound => simp only [element, hpound]
  | plural name kind offset os =>
    exact plural_count h pound pound' kind he.1 fun _ _ hpound ↦ options_count h hpound os he.2
  | select name os =>
    exact select_count h pound pound' fun _ _ hpound ↦ options_count h hpound os he
  | number name style options =>
    simp only [element]
    exact withValue_binding_other he _ _ _
  | date name style skeleton | time name style skeleton =>
    simp only [element]
    exact withValue_binding_other he _ _ _
  | foreign kind => simp only [element]

theorem message_count (h : Number.Whole n d) {pound pound' : Option Value}
    (hpound : pound.map shown = pound'.map shown) (m : Message)
    (hm : MessageCounts scene.asides x n m) :
    (scene.binding value x (.number (.integer n))).message pound m =
      (scene.binding value x (.number (.binary d))).message pound' m := by
  cases m with
  | nil => simp only [message]
  | cons e m =>
    rw [message, message, element_count h hpound e hm.1, message_count h hpound m hm.2]

theorem options_count (h : Number.Whole n d) {pound pound' : Option Value}
    (hpound : pound.map shown = pound'.map shown) (os : List (String × Message))
    (hos : OptionsCount scene.asides x n os) :
    (scene.binding value x (.number (.integer n))).options pound os =
      (scene.binding value x (.number (.binary d))).options pound' os := by
  cases os with
  | nil => simp only [options]
  | cons o os =>
    obtain ⟨selector, m⟩ := o
    rw [options, options, message_count h hpound m hos.1, options_count h hpound os hos.2]

end

/-- A template that is filled in directly shows both in the same way. -/
theorem simple_count (h : Number.Whole n d) (s : List Char) :
    (scene.binding value x (.number (.integer n))).simple s =
      (scene.binding value x (.number (.binary d))).simple s := by
  unfold simple
  congr 1
  funext piece
  cases piece with
  | char c => rfl
  | found name => exact withValue_binding_congr (plain_whole name h) fun _ ↦ rfl

end Count

end Scene

/-! ### Templates -/

namespace Renderer

/-- A template counts with a variable if the message does that is read for it: the one in which
plurals in short are written out and arguments beyond the message format are put aside. A template
that is filled in directly only shows its variables. -/
def Counts (r : Renderer) (template x : String) (n : Int) : Prop :=
  needsMessage r.roster.names template.toList = true →
    ∀ m, Message.parse (r.readForm template) = .ok m →
      MessageCounts (r.prepared template).asides x n m

instance (r : Renderer) (template x : String) (n : Int) : Decidable (r.Counts template x n) :=
  decidable_of_iff (needsMessage r.roster.names template.toList = true →
    (Message.parse (r.readForm template)).toOption.all fun m ↦
      decide (MessageCounts (r.prepared template).asides x n m)) (by
    cases h : Message.parse (r.readForm template) <;> simp [Counts, h, Except.toOption])

variable {r : Renderer} {template x : String} {n : Int} {d : Binary64}

/-- Where there is nothing to write out or to put aside, the message is the template's own. -/
theorem counts_of_parse {m : Message} (hprepared : r.prepared template = ⟨template.toList, []⟩)
    (hm : Message.parse template = .ok m) (hcounts : MessageCounts [] x n m) :
    r.Counts template x n := by
  intro _ m' hm'
  rw [readForm, hprepared, String.ofList_toList, hm] at hm'
  cases hm'
  rwa [hprepared]

theorem outline_count (h : Number.Whole n d) (hcounts : r.Counts template x n)
    (clock : Calendar.Moment) (value : String → Value) (tag : String) :
    r.outline clock template (.named (Function.update value x (.number (.integer n)))) tag =
      r.outline clock template (.named (Function.update value x (.number (.binary d)))) tag := by
  let scene := r.scene clock (.named value) tag
  let given (v : Value) := scene.binding value x v
  let prepared (v : Value) := (scene.withAsides (r.prepared template).asides).binding value x v
  cases hneeds : needsMessage r.roster.names template.toList with
  | false =>
    have hsimple : (given (.number (.integer n))).simple template.toList =
        (given (.number (.binary d))).simple template.toList :=
      Scene.simple_count h template.toList
    simp only [outline, hneeds, Bool.not_false, if_true]
    exact congrArg (fun o : Outline ↦ (r, (⟨.ok o, []⟩ : Answer Outline))) hsimple
  | true =>
    have hmessage : (r.parse (r.readForm template)).2.result.map
          ((prepared (.number (.integer n))).message none) =
        (r.parse (r.readForm template)).2.result.map
          ((prepared (.number (.binary d))).message none) := by
      rw [result_parse]
      cases hm : Message.parse (r.readForm template) with
      | error f => rfl
      | ok m =>
        exact congrArg Except.ok (Scene.message_count h rfl m (hcounts hneeds m hm))
    simp only [outline, hneeds, Bool.not_true, Bool.false_eq_true, if_false]
    exact congrArg (fun result : Except Fault Outline ↦ ((r.parse (r.readForm template)).1,
      (⟨result, (r.parse (r.readForm template)).2.events⟩ : Answer Outline))) hmessage

theorem tryRender_count (h : Number.Whole n d) (hcounts : r.Counts template x n)
    (clock : Calendar.Moment) (value : String → Value) (locale : Option String) :
    r.tryRender clock template (.named (Function.update value x (.number (.integer n)))) locale =
      r.tryRender clock template (.named (Function.update value x (.number (.binary d))))
        locale := by
  rw [tryRender, tryRender, outline_count h hcounts]

theorem render_count (h : Number.Whole n d) (hcounts : r.Counts template x n)
    (clock : Calendar.Moment) (value : String → Value) (locale : Option String) :
    r.render clock template (.named (Function.update value x (.number (.integer n)))) locale =
      r.render clock template (.named (Function.update value x (.number (.binary d)))) locale := by
  rw [render, render, tryRender_count h hcounts]

end Renderer

/-! ### Phrases -/

namespace Catalog

variable {c : Catalog} {key : String} {n : Int} {d : Binary64}

/-- The phrase under a key is found by the category of the count, which is the same for both. -/
theorem find?_count (c : Catalog) (key : String) (h : Number.Whole n d)
    (value : String → Value) (chain : List String) :
    c.find? key (.named (Function.update value "count" (.number (.integer n)))) chain =
      c.find? key (.named (Function.update value "count" (.number (.binary d)))) chain := by
  have htemplate (dictionary : Dictionary) (locale : String) :
      template? dictionary key (.named (Function.update value "count" (.number (.integer n))))
          locale c.renderer.book =
        template? dictionary key (.named (Function.update value "count" (.number (.binary d))))
          locale c.renderer.book := by
    obtain ⟨hn, hd⟩ := Scene.number?_whole h
    simp only [template?, Function.update_self, hn, hd, h.ofNumber]
  induction chain with
  | nil => rfl
  | cons locale chain ih => simp only [find?, htemplate, ih]

theorem phrase_count (h : Number.Whole n d) (clock : Calendar.Moment) (value : String → Value)
    (locale : Option String)
    (hcounts : ∀ used template,
      c.find? key (.named (Function.update value "count" (.number (.integer n))))
          (c.settings.chain (c.localeOr locale)) = .ok (some (used, template)) →
        c.renderer.Counts template "count" n) :
    c.phrase clock key (.named (Function.update value "count" (.number (.integer n)))) locale =
      c.phrase clock key (.named (Function.update value "count" (.number (.binary d))))
        locale := by
  have hfound := find?_count c key h value (c.settings.chain (c.localeOr locale))
  unfold phrase
  dsimp only
  rw [← hfound]
  cases hfind : c.find? key (.named (Function.update value "count" (.number (.integer n))))
      (c.settings.chain (c.localeOr locale)) with
  | error f => rfl
  | ok found =>
    cases found with
    | none => rfl
    | some found =>
      obtain ⟨used, template⟩ := found
      dsimp only
      rw [serve, serve, Renderer.render_count h (hcounts used template hfind)]

/-- A count may be a whole number or the double that is it: a template that counts with a variable
is rendered alike for both, and so is a phrase whose template counts with its count. The count and
the offsets are read off the message that is rendered, in which plurals in short are written out
even between apostrophes. -/
theorem equal_counts {n : Int} {d : Binary64} (hn : n.natAbs ≤ 2 ^ 53) (hd : d.toInt? = some n)
    (clock : Calendar.Moment) (value : String → Value) (locale : Option String) :
    (∀ (r : Renderer) (template x : String), r.Counts template x n →
      r.tryRender clock template (.named (Function.update value x (.number (.integer n)))) locale =
        r.tryRender clock template (.named (Function.update value x (.number (.binary d))))
          locale) ∧
    ∀ (c : Catalog) (key : String),
      (∀ used template,
        c.find? key (.named (Function.update value "count" (.number (.integer n))))
            (c.settings.chain (c.localeOr locale)) = .ok (some (used, template)) →
          c.renderer.Counts template "count" n) →
      c.phrase clock key (.named (Function.update value "count" (.number (.integer n)))) locale =
        c.phrase clock key (.named (Function.update value "count" (.number (.binary d))))
          locale :=
  ⟨fun _ _ _ hcounts ↦ Renderer.tryRender_count ⟨hn, hd⟩ hcounts clock value locale,
    fun _ _ hcounts ↦ phrase_count ⟨hn, hd⟩ clock value locale hcounts⟩

/-- The double one is shown as the number one is, by its own branch of a plural with an offset and
as the number of items on a shelf. -/
theorem equal_counts_shelf :
    let guests := "\x7bn, plural, offset:1 =1 \x7bonly you\x7d other \x7byou and # more\x7d\x7d"
    let one : Value := .number (.binary (.ofInt 1))
    (shelf.renderer.tryRender default guests (.named (Function.update (fun _ ↦ .absent) "n" one))
      none).2.result = .ok "only you" ∧
    (shelf.phrase default "items" (.named (Function.update (fun _ ↦ .absent) "count" one))
      (some "ko-KR")).2.result = .ok "[ko-KR -> ko] 1개" := by
  intro guests one
  obtain ⟨hrender, -⟩ := equal_counts (n := 1) (d := .ofInt 1) (by decide) (by decide +kernel)
    default (fun _ ↦ .absent) none
  obtain ⟨-, hphrase⟩ := equal_counts (n := 1) (d := .ofInt 1) (by decide) (by decide +kernel)
    default (fun _ ↦ .absent) (some "ko-KR")
  have hguests : shelf.renderer.Counts guests "n" 1 := by decide +kernel
  have hitems : shelf.renderer.Counts "\x7bcount\x7d개" "count" 1 := by decide +kernel
  have hserves : shelf.Serves "items"
      (Function.update (fun _ ↦ Value.absent) "count" (.number (.integer 1)) "count").number?
      (shelf.settings.chain (shelf.localeOr (some "ko-KR"))) "ko" "\x7bcount\x7d개" :=
    serves_shelf
  constructor
  · rw [← hrender _ _ _ hguests]
    decide +kernel
  · rw [← hphrase shelf "items" fun used template hfind ↦ by
      cases hserves.find?_eq.symm.trans hfind
      exact hitems]
    rw [phrase_of_serves hserves]
    decide +kernel

end Catalog

end Phrasebook
