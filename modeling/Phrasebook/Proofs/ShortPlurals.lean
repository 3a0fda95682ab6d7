import Phrasebook.Proofs.ClearTemplates
import Phrasebook.Proofs.Interpolation
import Phrasebook.Proofs.SplicedForms
import Phrasebook.Proofs.SteadyNumbers
import Phrasebook.Proofs.WrittenOut

/-!
What a plural in short says for a number.

A plural in short is meant to say its form for zero, or the number, a space and the form for the
category of the number (`PluralForms.saidFor`). Its forms are trimmed and put into the options of a
plural argument as they are. That goes well if none of them ends with an apostrophe, which would
quote the closing brace of its option, and if the form for zero does not look like the inside of an
argument beyond the message format, which would be put aside (`exists_prepare_argument`). So such a
plural is shown as it was meant for all numbers just if its forms are `Intact`
(`tryRender_shorthand_iff`): otherwise zero or one tell, since then a closing brace is shown, the
argument is never closed, or a placeholder stands for the form for zero.
-/

set_option autoImplicit false

namespace Phrasebook

open Arithmetic Grammar Message Template Text

open Phrase (IsWordName)

/-! ### Branches -/

namespace Plural

/-- The selector for zero names zero of either sign. -/
theorem isExact_zero (n : Number) : isExact "=0" n = n.isZero := by
  obtain ⟨x, hx, hwhole, e, hdecimal⟩ : ∃ x, Binary64.ofText? ['0'] = some x ∧
      x.toInt? = some 0 ∧ ∃ e, Decimal.ofBinary64Exact x = .finite false 0 e := by
    refine ⟨.zero false, by decide +kernel, Binary64.toInt?_eq_zero_iff.2 rfl, -1074, ?_⟩
    rw [Binary64.zero, Decimal.ofBinary64Exact, if_neg (by decide), Nat.zero_mul]
  have hexact : isExact "=0" n = n.equalsBinary x := by
    have htext : "=0".toList = ['=', '0'] := rfl
    rw [isExact, htext]
    simp only [hx]
  rw [hexact, Bool.eq_iff_iff]
  cases n with
  | integer i =>
    rw [Number.equalsBinary, Number.isZero, hwhole, decide_eq_true_iff, beq_iff_eq,
      Option.some.injEq, eq_comm]
  | binary y =>
    rw [Number.equalsBinary, Number.isZero, hdecimal, decide_eq_true_iff, beq_iff_eq]
    cases y with
    | nan => exact iff_of_false (by simp [Decimal.ofBinary64Exact, Decimal.compare?]) (by decide)
    | infinite s =>
      cases s <;>
        exact iff_of_false (by simp [Decimal.ofBinary64Exact, Decimal.compare?]) (by decide)
    | finite s m e h =>
      rw [Binary64.toInt?_eq_zero_iff, Decimal.ofBinary64Exact]
      split <;> simp [Decimal.compare?_zero]
  | decimal d =>
    rw [Number.equalsBinary, hdecimal, decide_eq_true_iff]
    cases d with
    | nan => exact iff_of_false (by simp [Decimal.compare?]) Bool.false_ne_true
    | infinite s => cases s <;> exact iff_of_false (by simp [Decimal.compare?]) Bool.false_ne_true
    | finite s c e => simp [Decimal.compare?_zero, Number.isZero]

section Branch

variable {n lowered : Number} {locale : String} {kind : PluralKind} {book : LocaleBook}
  {category : Plural}

/-- Behind an option for zero, which counts first, an option is chosen by the category. -/
theorem branch?_withZero {α : Type} (zero : Option α) {os : List (String × α)}
    (hos : ∀ o ∈ os, isExact o.1 n = false)
    (h : ofNumber lowered locale kind book = .ok category) :
    branch? ((zero.map fun a ↦ ("=0", a)).toList ++ os) n lowered locale kind book =
      .ok ((zero.filter fun _ ↦ n.isZero).or
        ((os.lookup category.word).or (os.lookup "other"))) := by
  have hnone : os.find? (fun o ↦ isExact o.1 n) = none := by simpa using hos
  have hword : (category.word == "=0") = false := by cases category <;> rfl
  have hother : ("other" == "=0") = false := rfl
  unfold branch?
  rw [h]
  cases zero with
  | none =>
    simp only [Option.map_none, Option.toList_none, List.nil_append, hnone]
    rfl
  | some zero =>
    simp only [Option.map_some, Option.toList_some, List.singleton_append, List.find?_cons,
      isExact_zero, hnone, Except.map, List.lookup_cons, hword, hother, Option.filter_some]
    cases n.isZero <;> rfl

/-- By a tag that means no locale one is one. -/
theorem ofNumber_one_of_unknown {tag : String} (h : Locale.ofTag? tag = none) (book : LocaleBook) :
    ofNumber (.integer 1) tag .cardinal book = .ok .one := by
  rw [ofNumber_of_toBinary64 (n := .integer 1) (x := .ofInt 1) (by decide +kernel),
    if_pos (by decide +kernel), h]
  rfl

/-- The branch of an argument with the options of a plural in short. -/
theorem branch?_short {α : Type} (zero : Option α) (one other : α)
    (h : ofNumber lowered locale kind book = .ok category) :
    branch? ((zero.map fun a ↦ ("=0", a)).toList ++ [("one", one), ("other", other)])
      n lowered locale kind book = .ok (some ((zero.filter fun _ ↦ n.isZero).getD
        (if category = .one then one else other))) := by
  have hexact : ∀ o ∈ [("one", one), ("other", other)], isExact o.1 n = false := by
    simp [isExact]
  rw [branch?_withZero zero hexact h]
  cases zero.filter fun _ ↦ n.isZero with
  | none => cases category <;> rfl
  | some zero => rfl

end Branch

end Plural

namespace Template.PluralForms

/-! ### What is meant -/

/-- What a plural in short says for a number: the form for zero if there is one and the number is
zero, or else what is shown for the number, a space, and the form for its category. -/
def saidFor (f : PluralForms) (n : Number) (shown : String) (category : Plural) : String :=
  (f.zero.filter fun _ ↦ n.isZero).getD
    (shown ++ (" " ++ if category = .one then f.one else f.other))

/-- No form ends with an apostrophe, and no form for zero looks like the inside of an argument
beyond the message format. -/
def Intact (names : List String) (f : PluralForms) : Prop :=
  (∀ w ∈ f.forms, w.toList.getLast? ≠ some '\'') ∧
    ∀ z ∈ f.zero, firstFound (passes names) z.toList = none

section Meaning

variable {f : PluralForms} {scene : Scene} {value : String → Value} {n lowered : Number}
  {category : Plural}

/-- A plural argument is shown as its branch for the number. -/
theorem pluralOutline_of_branch {name : String} {kind : PluralKind} {offset : Int}
    {branches : Number → List (String × Outline)} {o : Outline}
    (hvalues : scene.values = .named value) (hvalue : value name = .number n)
    (hdefined : n.isNaN = false) (hlower : n.lower offset = .ok lowered)
    (hbranch :
      Plural.branch? (branches lowered) n lowered scene.locale kind scene.book = .ok (some o)) :
    Phrase.pluralOutline scene name kind offset branches = o := by
  have hnumber : (value name).number? = some n := by
    rw [hvalue, Value.number?, hdefined]
    rfl
  simp only [Phrase.pluralOutline, Scene.withValue, hvalues, hnumber, Scene.orHole, hlower, hbranch,
    Option.getD_some]

theorem options_zeroOption (pound : Option Value) (m : Message) :
    scene.options pound (f.zeroOption ++ [("one", m)]) =
      ((f.zero.map fun z ↦ scene.message pound (addText z.toList [])).map
        fun o ↦ ("=0", o)).toList ++ [("one", scene.message pound m)] := by
  rw [zeroOption]
  cases f.zero <;> simp [Scene.options]

theorem shown_number
    (h : Plural.ofNumber lowered scene.locale .cardinal scene.book = .ok category) :
    Scene.shown (.number lowered) = .text .value lowered.plainText := by
  rw [Scene.shown, Value.isOverlong, Plural.isOverlong_of_ofNumber h]
  rfl

/-- The outline of a plural in short is filled to what the plural says. -/
theorem result_fill_shorthandOutline (hvalues : scene.values = .named value)
    (hvalue : value f.name = .number n) (hdefined : n.isNaN = false)
    (hlower : n.lower 0 = .ok lowered)
    (hcategory : Plural.ofNumber lowered scene.locale .cardinal scene.book = .ok category)
    (missing : String → Except CallFault String) :
    ((Phrase.shorthandOutline scene f).fill missing).result =
      .ok (f.saidFor n lowered.plainText category) := by
  have hbranch := Plural.branch?_short (n := n)
    (f.zero.map fun s ↦ [Segment.text .template s])
    [Scene.shown (.number lowered), .text .template (" " ++ f.one)]
    [Scene.shown (.number lowered), .text .template (" " ++ f.other)] hcategory
  rw [Option.map_map] at hbranch
  rw [Phrase.shorthandOutline, pluralOutline_of_branch hvalues hvalue hdefined hlower hbranch,
    shown_number hcategory, saidFor]
  have hcounted (w : String) : (Outline.fill missing
      [.text .value lowered.plainText, .text .template (" " ++ w)]).result =
        .ok (lowered.plainText ++ (" " ++ w)) := by
    simp [Outline.fill, Answer.map, Except.map]
  have hzero (w : String) : (Outline.fill missing [.text .template w]).result = .ok w := by
    simp [Outline.fill, Answer.map, Except.map]
  cases f.zero with
  | none =>
    cases category <;> exact hcounted _
  | some z =>
    rw [Option.map_some, Option.filter_some, Option.filter_some]
    cases n.isZero with
    | true => exact hzero z
    | false => cases category <;> exact hcounted _

/-- The argument that the forms stand for is shown as the plural in short. -/
theorem same_shorthandOutline (scene : Scene) (f : PluralForms) :
    Outline.Same (scene.message none [.plural f.name .cardinal 0 f.options])
      (Phrase.shorthandOutline scene f) := by
  have hmessage : scene.message none [.plural f.name .cardinal 0 f.options] =
      Phrase.pluralOutline scene f.name .cardinal 0
        fun number ↦ scene.options (some (.number number)) f.options := by
    rw [Scene.message, Scene.message, List.append_nil]
    rfl
  rw [hmessage]
  refine Outline.same_pluralOutline (fun number ↦ ?_) scene f.name .cardinal 0
  unfold options zeroOption
  have hcounted : Outline.SameBranches
      (scene.options (some (.number number)) [("one", [.pound, .literal (" " ++ f.one)]),
        ("other", [.pound, .literal (" " ++ f.other)])])
      [("one", [Scene.shown (.number number), .text .template (" " ++ f.one)]),
        ("other", [Scene.shown (.number number), .text .template (" " ++ f.other)])] :=
    .cons ⟨rfl, .refl _⟩ (.cons ⟨rfl, .refl _⟩ .nil)
  cases f.zero with
  | none => exact hcounted
  | some z =>
    refine .cons ⟨rfl, ?_⟩ hcounted
    have hadd := Phrase.same_addText (s := z.toList) scene (some (.number number)) []
    rwa [String.ofList_toList] at hadd

/-- A closing brace in the text of a message is shown. -/
theorem close_mem_of_fill {pound : Option Value} {u v : List Char} {m : Message}
    {missing : String → Except CallFault String} {text : String}
    (h : ((scene.message pound (addText (u ++ '}' :: v) m)).fill missing).result = .ok text) :
    '}' ∈ text.toList := by
  rw [Phrase.same_addText scene pound m missing] at h
  have hin := Outline.infix_of_fill h List.mem_cons_self
  rw [String.toList_ofList] at hin
  exact hin.mem (by simp)

/-- Nothing but a form or what is shown for the number can bring a closing brace. -/
theorem close_notMem_saidFor {shown : String} (hforms : ∀ w ∈ f.forms, BraceFree w.toList)
    (hshown : '}' ∉ shown.toList) : '}' ∉ (f.saidFor n shown category).toList := by
  have hform {w : String} (hw : w ∈ f.forms) : '}' ∉ w.toList :=
    fun hmem ↦ (hforms w hw _ hmem).2 rfl
  have hcounted {w : String} (hw : w ∈ f.forms) : '}' ∉ (shown ++ (" " ++ w)).toList := by
    simpa using ⟨hshown, hform hw⟩
  unfold saidFor
  cases hz : f.zero.filter fun _ ↦ n.isZero with
  | none =>
    rw [Option.getD_none]
    split
    · exact hcounted f.one_mem_forms
    · exact hcounted f.other_mem_forms
  | some z => exact hform (f.mem_forms_of_zero (Option.filter_eq_some_iff.1 hz).1)

end Meaning

/-! ### What is prepared -/

section Prepared

variable {f : PluralForms} {names : List String}

theorem forms_trimmed {w : String} (h : w ∈ f.trimmed.forms) :
    ∃ v ∈ f.forms, w = String.ofList (trim v.toList) := by
  obtain ⟨name, zero, one, other⟩ := f
  cases zero <;> simpa [forms, trimmed, eq_comm] using h

theorem forms_withZero {zero : Option String} {w : String}
    (h : w ∈ ({ f with zero } : PluralForms).forms) : w ∈ zero ∨ w ∈ f.forms := by
  rcases List.mem_append.1 h with h | h
  · exact .inl (Option.mem_toList.1 h)
  · exact .inr (List.mem_append_right _ h)

/-- A plural in short is written out with its forms trimmed. -/
theorem spellOut_text (hname : IsWordName f.name)
    (hforms : ∀ w ∈ f.forms, ∀ c ∈ w.toList, isFormChar c = true) :
    shorthand.occursIn ('{' :: (f.text ++ ['}'])) = true ∧
      spellOut ('{' :: (f.text ++ ['}'])) = f.trimmed.argument.toList := by
  have hfound := found?_shorthand hname (fun w hw ↦ hforms w (f.mem_forms_of_zero hw))
    (hforms _ f.one_mem_forms) (hforms _ f.other_mem_forms)
  have hforms' {w : String} (hw : w ∈ f.forms) : BraceFree w.toList :=
    braceFree_of_isFormChar (hforms w hw)
  have hbraces : BraceFree f.text := by
    have hzero : BraceFree ((f.zero.map fun z ↦ z.toList ++ ['|']).getD []) := by
      cases hz : f.zero with
      | none => exact .nil
      | some z => exact (hforms' (f.mem_forms_of_zero hz)).append (by decide)
    have hhead := (braceFree_of_isWord hname.2).append (by decide : BraceFree ", p, ".toList)
    exact ((hhead.append hzero).append (hforms' f.one_mem_forms)).append
      ((hforms' f.other_mem_forms).cons (by decide))
  have hsettled : Settled [.group f.text] := .group hbraces .nil
  have htext : '{' :: (f.text ++ ['}']) = textOf [.group f.text] := by
    simp [textOf_group]
  rw [htext]
  constructor
  · by_contra hnone
    have hleaves := (Shape.occursIn_textOf closes_shorthand hsettled).1 (Bool.of_not_eq_true hnone)
    rw [hleaves f.text (by simp)] at hfound
    cases hfound
  · rw [spellOut, replace_textOf closes_shorthand hsettled]
    simp [Shape.replaceItem, hfound]

/-- What the passes make of an option: they leave it, or they put a placeholder into it. -/
theorem exists_of_labelled_option {asides : Asides} {selector branch : String} {is : List Item}
    (h : List.Forall₂ (Labelled (passes names) asides) (optionItems selector branch) is) :
    firstFound (passes names) branch.toList = none ∧ is = optionItems selector branch ∨
      firstFound (passes names) branch.toList ≠ none ∧ ∃ (kind : PlaceholderKind) (n : Nat),
        is = optionItems selector (kind.token n) := by
  obtain ⟨is', rfl, his⟩ := exists_of_labelled_chars h
  cases hfound : firstFound (passes names) branch.toList with
  | none =>
    obtain rfl := Phrase.eq_of_labelled_group hfound his
    exact .inl ⟨rfl, rfl⟩
  | some a =>
    obtain ⟨kind, n, rfl, -⟩ := Phrase.exists_of_labelled_group hfound his
    exact .inr ⟨by simp, kind, n, rfl⟩

/-- What the passes make of a form for zero: they leave it, or they put a placeholder in its
place. -/
inductive ZeroPrepared (names : List String) : Option String → Option String → Prop
  | kept {zero : Option String} : (∀ z ∈ zero, firstFound (passes names) z.toList = none) →
      ZeroPrepared names zero zero
  | aside {z : String} (kind : PlaceholderKind) (n : Nat) :
      firstFound (passes names) z.toList ≠ none →
      ZeroPrepared names (some z) (some (kind.token n))

theorem ZeroPrepared.isSpliced {zero zero' : Option String} (h : ZeroPrepared names zero zero')
    (hzero : ∀ z ∈ zero, IsSpliced z.toList) : ∀ z ∈ zero', IsSpliced z.toList := by
  cases h with
  | kept _ => exact hzero
  | aside kind n _ =>
    intro z hz
    obtain rfl := Option.mem_some.1 hz
    exact isSpliced_of_isWord (kind.isWord_of_mem_token n)

theorem ZeroPrepared.eq_of_kept {zero zero' : Option String} (h : ZeroPrepared names zero zero')
    (hzero : ∀ z ∈ zero, firstFound (passes names) z.toList = none) : zero' = zero := by
  cases h with
  | kept _ => rfl
  | aside _ _ hfound => exact absurd (hzero _ rfl) hfound

/-- If the same is said for zero, the form for zero has been left. -/
theorem ZeroPrepared.kept_of_saidFor {zero : Option String} {shown : String} {category : Plural}
    (h : ZeroPrepared names f.zero zero)
    (hsaid : ({ f with zero } : PluralForms).saidFor (.integer 0) shown category =
      f.saidFor (.integer 0) shown category) :
    ∀ z ∈ f.zero, firstFound (passes names) z.toList = none := by
  obtain ⟨name, before, one, other⟩ := f
  cases h with
  | kept hkept => exact hkept
  | @aside z kind n hfound =>
    -- a placeholder would have to be the form for zero, but it has no comma
    obtain rfl : kind.token n = z := hsaid
    exact absurd (Phrase.isUntouched_of_notMem (kind.comma_notMem_token n)).2 hfound

/-- No pass takes the number and a form from an option. -/
theorem eq_of_labelled_counted {selector w : String} {asides : Asides} {js : List Item}
    (h : List.Forall₂ (Labelled (passes names) asides) (optionItems selector ("# " ++ w)) js) :
    js = optionItems selector ("# " ++ w) := by
  have hpound : firstFound (passes names) ("# " ++ w).toList = none := by
    rw [toList_counted]
    exact (Phrase.isUntouched_pound _).2
  rcases exists_of_labelled_option h with ⟨-, hjs⟩ | ⟨hfound, -⟩
  · exact hjs
  · exact absurd hpound hfound

/-- The passes leave the argument, but for a form for zero that looks like the inside of another
argument. -/
theorem exists_prepare_argument (hnames : ∀ name ∈ names, BraceFree name.toList)
    (hname : BraceFree f.name.toList) (hforms : ∀ w ∈ f.forms, BraceFree w.toList) :
    ∃ zero, ZeroPrepared names f.zero zero ∧ (prepare names f.argument.toList).text =
      ({ f with zero } : PluralForms).argument.toList := by
  have hsettled : Settled f.items := by
    have := settled_items hname hforms .nil
    rwa [List.append_nil] at this
  obtain ⟨is, htext, his⟩ := (follows_prepare hnames hsettled).labelled
  rw [textOf_items] at htext his
  rw [← htext]
  obtain ⟨inside, rfl, hinside⟩ := exists_of_labelled_chars (w := ['{']) his
  obtain ⟨options, rfl, hoptions⟩ := exists_of_labelled_chars hinside
  obtain ⟨zeros, counted, rfl, hzeros, hcounts⟩ := exists_of_labelled_append hoptions
  obtain ⟨ones, later, rfl, hones, hlater⟩ := exists_of_labelled_append hcounts
  obtain ⟨others, close, rfl, hothers, hclose⟩ := exists_of_labelled_append hlater
  obtain ⟨rest, rfl, hrest⟩ := exists_of_labelled_chars (w := ['}']) hclose
  cases hrest
  obtain rfl := eq_of_labelled_counted hones
  obtain rfl := eq_of_labelled_counted hothers
  have hitems (zero : Option String) (h : zeros = (zero.map (optionItems "=0")).getD []) :
      textOf (['{'].map .char ++ ((f.name ++ ", plural,").toList.map .char ++
        (zeros ++ (optionItems "one" ("# " ++ f.one) ++ (optionItems "other" ("# " ++ f.other) ++
          (['}'].map .char ++ [])))))) = ({ f with zero } : PluralForms).argument.toList := by
    rw [← textOf_items, h]
    rfl
  cases hz : f.zero with
  | none =>
    rw [hz] at hzeros
    cases hzeros
    exact ⟨none, .kept nofun, hitems none rfl⟩
  | some z =>
    rw [hz] at hzeros
    rcases exists_of_labelled_option hzeros with ⟨hfound, hzero⟩ | ⟨hfound, kind, n, hzero⟩
    · refine ⟨some z, .kept fun w hw ↦ ?_, hitems (some z) hzero⟩
      rwa [← Option.mem_some.1 hw]
    · exact ⟨_, .aside kind n hfound, hitems (some (kind.token n)) hzero⟩

end Prepared

end Template.PluralForms

/-! ### What is shown -/

namespace Renderer

open Template.PluralForms

section Argument

variable {r : Renderer} {clock : Calendar.Moment} {template text : String} {g : PluralForms}
  {value : String → Value} {locale : Option String} {n lowered : Number} {category : Plural}

-- the template is prepared as the argument that forms stand for
variable (hneeds : needsMessage r.roster.names template.toList = true)
  (htext : (r.prepared template).text = g.argument.toList) (hname : IsWordName g.name)

include hneeds htext hname

/-- Forms that do not end with an apostrophe are shown as they are. -/
theorem result_tryRender_of_closed (hforms : ∀ w ∈ g.forms, IsSpliced w.toList)
    (hclosed : ∀ w ∈ g.forms, w.toList.getLast? ≠ some '\'')
    (hvalue : value g.name = .number n) (hdefined : n.isNaN = false)
    (hlower : n.lower 0 = .ok lowered)
    (hcategory :
      Plural.ofNumber lowered (r.settings.localeOr locale) .cardinal r.book = .ok category) :
    (r.tryRender clock template (.named value) locale).2.result =
      .ok (g.saidFor n lowered.plainText category) := by
  have hparse : Message.parse (String.ofList (r.prepared template).text) =
      .ok [.plural g.name .cardinal 0 g.options] := by
    refine parse_of_elements ?_
    rw [String.toList_ofList, htext]
    exact elements_argument hname hforms hclosed
  let scene := (r.scene clock (.named value) (r.settings.localeOr locale)).withAsides
    (r.prepared template).asides
  let missing := r.missing (r.settings.localeOr locale)
  rw [result_tryRender_of_needsMessage r hneeds, hparse]
  change ((scene.message none [.plural g.name .cardinal 0 g.options]).fill missing).result = _
  rw [same_shorthandOutline scene g missing]
  have hvalues : scene.values = .named value := rfl
  exact result_fill_shorthandOutline hvalues hvalue hdefined hlower hcategory missing

/-- What is shown for the argument begins with what is shown for its first element. -/
theorem exists_of_tryRender
    (h : (r.tryRender clock template (.named value) locale).2.result = .ok text) :
    ∃ os w x, Options Readable true [] g.optionsText os w ∧ Sign '}' w x ∧
      ∃ (scene : Scene) (shown : String), scene.values = .named value ∧
        scene.locale = r.settings.localeOr locale ∧ scene.book = r.book ∧
        shown.toList <+: text.toList ∧
        ((Phrase.pluralOutline scene g.name .cardinal 0 fun number ↦
          scene.options (some (.number number)) os).fill
            (r.missing (r.settings.localeOr locale))).result = .ok shown := by
  rw [result_tryRender_of_needsMessage r hneeds] at h
  cases hparse : Message.parse (String.ofList (r.prepared template).text) with
  | error f =>
    rw [hparse] at h
    cases h
  | ok m =>
    have helements := elements_of_parse hparse
    rw [String.toList_ofList, htext] at helements
    obtain ⟨os, w, x, m', rfl, hos, hclose⟩ := exists_options hname helements
    let scene := (r.scene clock (.named value) (r.settings.localeOr locale)).withAsides
      (r.prepared template).asides
    let missing := r.missing (r.settings.localeOr locale)
    let shown := Phrase.pluralOutline scene g.name .cardinal 0 fun number ↦
      scene.options (some (.number number)) os
    rw [hparse] at h
    change ((shown ++ scene.message none m').fill missing).result = .ok text at h
    obtain ⟨s, t, hs, -, rfl⟩ := Outline.exists_of_fill_append h
    refine ⟨os, w, x, hos, hclose, scene, s, rfl, rfl, rfl, ?_, hs⟩
    rw [String.toList_append]
    exact List.prefix_append _ _

/-- A form for zero that ends with an apostrophe is shown for zero with the closing brace. -/
theorem close_mem_of_open_zero {z : String} (hz : g.zero = some z) (hspliced : IsSpliced z.toList)
    (hopen : z.toList.getLast? = some '\'') (hvalue : value g.name = .number (.integer 0))
    (h : (r.tryRender clock template (.named value) locale).2.result = .ok text) :
    '}' ∈ text.toList := by
  obtain ⟨os, w, x, hos, hclose, scene, shown, hvalues, -, -, hshown, hfill⟩ :=
    exists_of_tryRender hneeds htext hname h
  obtain ⟨u, v, m, os', rfl⟩ := exists_of_open_zero hz hspliced hopen hos hclose
  have hbranch : Plural.branch?
      (scene.options (some (.number (.integer 0))) (("=0", addText (u ++ '}' :: v) m) :: os'))
      (.integer 0) (.integer 0) scene.locale .cardinal scene.book =
        .ok (some (scene.message (some (.number (.integer 0))) (addText (u ++ '}' :: v) m))) := by
    rw [Scene.options, Plural.branch?, List.find?_cons, Plural.isExact_zero]
    rfl
  rw [pluralOutline_of_branch hvalues hvalue rfl rfl hbranch] at hfill
  exact hshown.mem (close_mem_of_fill hfill)

/-- A form for one that ends with an apostrophe is shown for one with the closing brace. -/
theorem close_mem_of_open_one (hforms : ∀ w ∈ g.forms, IsSpliced w.toList)
    (hclosed : ∀ z ∈ g.zero, z.toList.getLast? ≠ some '\'')
    (hopen : g.one.toList.getLast? = some '\'') (hvalue : value g.name = .number (.integer 1))
    (hcategory :
      Plural.ofNumber (.integer 1) (r.settings.localeOr locale) .cardinal r.book = .ok .one)
    (h : (r.tryRender clock template (.named value) locale).2.result = .ok text) :
    '}' ∈ text.toList := by
  obtain ⟨os, w, x, hos, hclose, scene, shown, hvalues, hlocale, hbook, hshown, hfill⟩ :=
    exists_of_tryRender hneeds htext hname h
  obtain ⟨seen, os', rfl, hos'⟩ := exists_of_closed_zero
    (fun z hz ↦ hforms z (g.mem_forms_of_zero hz)) hclosed hos hclose
  obtain ⟨u, v, m, rfl⟩ := exists_of_open_one (hforms _ g.one_mem_forms) hopen
    (hforms _ g.other_mem_forms) hos' hclose
  have hbranch : Plural.branch? (scene.options (some (.number (.integer 1)))
      (g.zeroOption ++ [("one", .pound :: addText (u ++ '}' :: v) m)]))
      (.integer 1) (.integer 1) scene.locale .cardinal scene.book =
        .ok (some (scene.message (some (.number (.integer 1)))
          (.pound :: addText (u ++ '}' :: v) m))) := by
    rw [hlocale, hbook, options_zeroOption,
      Plural.branch?_withZero _ (by simp [Plural.isExact]) hcategory]
    cases g.zero <;> rfl
  rw [pluralOutline_of_branch hvalues hvalue rfl rfl hbranch] at hfill
  obtain ⟨s, t, -, ht, rfl⟩ := Outline.exists_of_fill_append (o := [_]) hfill
  refine hshown.mem ?_
  rw [String.toList_append]
  exact List.mem_append_right _ (close_mem_of_fill ht)

/-- A form for other numbers that ends with an apostrophe leaves the argument open. -/
theorem not_of_open_other (hforms : ∀ w ∈ g.forms, IsSpliced w.toList)
    (hzero : ∀ z ∈ g.zero, z.toList.getLast? ≠ some '\'')
    (hone : g.one.toList.getLast? ≠ some '\'') (hopen : g.other.toList.getLast? = some '\'') :
    (r.tryRender clock template (.named value) locale).2.result ≠ .ok text := by
  intro h
  obtain ⟨os, w, x, hos, hclose, -⟩ := exists_of_tryRender hneeds htext hname h
  obtain ⟨seen, os', rfl, hos'⟩ := exists_of_closed_zero
    (fun z hz ↦ hforms z (g.mem_forms_of_zero hz)) hzero hos hclose
  exact PluralForms.not_of_open_other (hforms _ g.one_mem_forms) hone
    (hforms _ g.other_mem_forms) hopen hos' hclose

end Argument

section Shorthand

variable {f : PluralForms} {value : String → Value} {locale : Option String}

/-- A plural in short is prepared as the argument that its forms stand for, but for a form for zero
that is put aside. -/
theorem exists_prepared_shorthand (r : Renderer) (hname : IsWordName f.name)
    (hforms : ∀ w ∈ f.forms, IsSpliced w.toList ∧ '|' ∉ w.toList) :
    needsMessage r.roster.names (Phrase.print [.shorthand f]).toList = true ∧
      (∀ w ∈ f.trimmed.forms, IsSpliced w.toList) ∧
      ∃ zero, ZeroPrepared r.roster.names f.trimmed.zero zero ∧
        (r.prepared (Phrase.print [.shorthand f])).text =
          ({ f.trimmed with zero } : PluralForms).argument.toList := by
  have hchars : ∀ w ∈ f.forms, ∀ c ∈ w.toList, isFormChar c = true := by
    intro w hw c hc
    obtain ⟨hspliced, hbar⟩ := hforms w hw
    have hne : c ≠ '|' := fun he ↦ hbar (he ▸ hc)
    simp [isFormChar, hspliced.braceFree c hc, hne]
  have hspliced : ∀ w ∈ f.trimmed.forms, IsSpliced w.toList := by
    intro w hw
    obtain ⟨v, hv, rfl⟩ := forms_trimmed hw
    rw [String.toList_ofList]
    exact (hforms v hv).1.of_isInfix (trim_isInfix _)
  have htemplate : (Phrase.print [.shorthand f]).toList = '{' :: (f.text ++ ['}']) := by
    rw [Phrase.print, String.toList_ofList]
    exact List.append_nil _
  obtain ⟨hoccurs, hspelled⟩ := spellOut_text hname hchars
  refine ⟨?_, hspliced, ?_⟩
  · rw [needsMessage, htemplate, hoccurs, Bool.or_true]
  · rw [prepared, htemplate, hspelled]
    exact exists_prepare_argument r.roster.braceFree_names (braceFree_of_isWord hname.2)
      fun w hw ↦ (hspliced w hw).braceFree

/-- A plural in short with intact forms says what it means. -/
theorem result_tryRender_of_intact (r : Renderer) (clock : Calendar.Moment)
    (hname : IsWordName f.name) (hforms : ∀ w ∈ f.forms, IsSpliced w.toList ∧ '|' ∉ w.toList)
    (hintact : f.trimmed.Intact r.roster.names) {n lowered : Number} {category : Plural}
    (hvalue : value f.name = .number n) (hdefined : n.isNaN = false)
    (hlower : n.lower 0 = .ok lowered)
    (hcategory :
      Plural.ofNumber lowered (r.settings.localeOr locale) .cardinal r.book = .ok category) :
    (r.tryRender clock (Phrase.print [.shorthand f]) (.named value) locale).2.result =
      .ok (f.trimmed.saidFor n lowered.plainText category) := by
  obtain ⟨hneeds, hspliced, zero, hzero, htext⟩ := exists_prepared_shorthand r hname hforms
  obtain rfl := hzero.eq_of_kept hintact.2
  exact result_tryRender_of_closed hneeds htext hname hspliced hintact.1 hvalue hdefined hlower
    hcategory

/-- A plural in short that says what it means for zero and for one, in a locale that knows no more
than one and many, has intact forms. -/
theorem intact_of_tryRender (r : Renderer) (clock : Calendar.Moment) (hname : IsWordName f.name)
    (hforms : ∀ w ∈ f.forms, IsSpliced w.toList ∧ '|' ∉ w.toList)
    (h : ∀ i : Int, i.natAbs < Binary64.bound → ∃ category,
      Plural.ofNumber (.integer i) "?" .cardinal r.book = .ok category ∧
      (r.tryRender clock (Phrase.print [.shorthand f]) (.named fun _ ↦ .number (.integer i))
        (some "?")).2.result =
          .ok (f.trimmed.saidFor (.integer i) (Number.integer i).plainText category)) :
    f.trimmed.Intact r.roster.names := by
  obtain ⟨hneeds, hspliced, zero, hzero, htext⟩ := exists_prepared_shorthand r hname hforms
  let g : PluralForms := { f.trimmed with zero }
  have hgforms : ∀ w ∈ g.forms, IsSpliced w.toList := by
    intro w hw
    rcases forms_withZero hw with hw | hw
    · exact hzero.isSpliced (fun z hz ↦ hspliced z (f.trimmed.mem_forms_of_zero hz)) w hw
    · exact hspliced w hw
  -- what is meant has no closing brace
  have hclean {i : Int} {category : Plural} (hi : '}' ∉ (Number.integer i).plainText.toList) :
      '}' ∉ (f.trimmed.saidFor (.integer i) (Number.integer i).plainText category).toList :=
    close_notMem_saidFor (fun w hw ↦ (hspliced w hw).braceFree) hi
  obtain ⟨category₀, hcategory₀, hshown₀⟩ := h 0 (by decide +kernel)
  obtain ⟨category₁, -, hshown₁⟩ := h 1 (by decide +kernel)
  have hunknown : Locale.ofTag? "?" = none := by decide +kernel
  have hone : Plural.ofNumber (.integer 1) (r.settings.localeOr (some "?")) .cardinal r.book =
      .ok .one := Plural.ofNumber_one_of_unknown hunknown r.book
  -- zero tells how the form for zero ends, one how the form for one ends, and then either the last
  have hclosed₀ : ∀ z ∈ g.zero, z.toList.getLast? ≠ some '\'' := fun z hz hopen ↦
    hclean (by decide) (close_mem_of_open_zero hneeds htext hname hz
      (hgforms z (g.mem_forms_of_zero hz)) hopen rfl hshown₀)
  have hclosed₁ : g.one.toList.getLast? ≠ some '\'' := fun hopen ↦
    hclean (by decide) (close_mem_of_open_one hneeds htext hname hgforms hclosed₀ hopen rfl hone
      hshown₁)
  have hclosed : g.other.toList.getLast? ≠ some '\'' := fun hopen ↦
    not_of_open_other hneeds htext hname hgforms hclosed₀ hclosed₁ hopen hshown₀
  have hall : ∀ w ∈ g.forms, w.toList.getLast? ≠ some '\'' := by
    intro w hw
    rcases List.mem_append.1 hw with hw | hw
    · exact hclosed₀ w (Option.mem_toList.1 hw)
    · rcases List.mem_pair.1 hw with rfl | rfl
      · exact hclosed₁
      · exact hclosed
  have hshown : (r.tryRender clock (Phrase.print [.shorthand f])
      (.named fun _ ↦ .number (.integer 0)) (some "?")).2.result =
        .ok (g.saidFor (.integer 0) (Number.integer 0).plainText category₀) :=
    result_tryRender_of_closed hneeds htext hname hgforms hall rfl rfl rfl hcategory₀
  have hkept := hzero.kept_of_saidFor (Except.ok.inj (hshown.symm.trans hshown₀))
  obtain rfl := hzero.eq_of_kept hkept
  exact ⟨hall, hkept⟩

/-- A plural in short is shown as it was meant for all numbers and in every locale just if its forms
are intact. A number that taking zero from it changes is shown as it is after that. -/
theorem tryRender_shorthand_iff (r : Renderer) (clock : Calendar.Moment) (hname : IsWordName f.name)
    (hforms : ∀ w ∈ f.forms, IsSpliced w.toList ∧ '|' ∉ w.toList) :
    ((∀ (value : String → Value) (locale : Option String) (n : Number),
        value f.name = .number n → n.Steady → ∃ category,
          Plural.ofNumber n (r.settings.localeOr locale) .cardinal r.book = .ok category ∧
          (r.tryRender clock (Phrase.print [.shorthand f]) (.named value) locale).2.result =
            .ok (f.trimmed.saidFor n n.plainText category)) ↔
      f.trimmed.Intact r.roster.names) ∧
    (f.trimmed.Intact r.roster.names →
      ∀ (value : String → Value) (locale : Option String) (n lowered : Number) (category : Plural),
        value f.name = .number n → n.isNaN = false → n.lower 0 = .ok lowered →
        Plural.ofNumber lowered (r.settings.localeOr locale) .cardinal r.book = .ok category →
        (r.tryRender clock (Phrase.print [.shorthand f]) (.named value) locale).2.result =
          .ok (f.trimmed.saidFor n lowered.plainText category)) := by
  have hshown (hintact : f.trimmed.Intact r.roster.names) (value : String → Value)
      (locale : Option String) (n lowered : Number) (category : Plural)
      (hvalue : value f.name = .number n) (hdefined : n.isNaN = false)
      (hlower : n.lower 0 = .ok lowered)
      (hcategory :
        Plural.ofNumber lowered (r.settings.localeOr locale) .cardinal r.book = .ok category) :=
    result_tryRender_of_intact r clock hname hforms hintact hvalue hdefined hlower hcategory
  refine ⟨⟨fun h ↦ ?_, fun hintact value locale n hvalue hsteady ↦ ?_⟩, hshown⟩
  · refine intact_of_tryRender r clock hname hforms (fun i hi ↦ ?_)
    exact h (fun _ ↦ .number (.integer i)) (some "?") (.integer i) rfl hi
  · obtain ⟨category, hcategory⟩ :=
      Plural.exists_ofNumber_steady hsteady (r.settings.localeOr locale) .cardinal
    exact ⟨category, hcategory, hshown hintact value locale n n category hvalue hsteady.isNaN
      hsteady.lower_zero hcategory⟩

/-- A renderer without formatters of the program. -/
def plainRenderer : Renderer :=
  .ofSettings {} ⟨[], by decide⟩

/-- Forms with an apostrophe inside a word and with a comma. -/
def leashForms : PluralForms := ⟨"n", none, "dog's leash", "dogs, all"⟩

/-- A form with an apostrophe before white space at its end. -/
def kennelForms : PluralForms := ⟨"n", none, "dog's kennel", "dogs' "⟩

/-- The apostrophe inside a word is shown, and the one at the end is not. -/
theorem tryRender_shorthand_dogs :
    (IsWordName leashForms.name ∧
        (∀ w ∈ leashForms.forms, IsSpliced w.toList ∧ '|' ∉ w.toList) ∧
        (plainRenderer.tryRender default (Phrase.print [.shorthand leashForms])
          (.named fun _ ↦ .number (.integer 2)) (some "en")).2.result = .ok "2 dogs, all") ∧
      IsWordName kennelForms.name ∧
        (∀ w ∈ kennelForms.forms, IsSpliced w.toList ∧ '|' ∉ w.toList) ∧
        ¬ ∀ (value : String → Value) (locale : Option String) (n : Number),
          value kennelForms.name = .number n → n.Steady → ∃ category,
            Plural.ofNumber n (plainRenderer.settings.localeOr locale) .cardinal
              plainRenderer.book = .ok category ∧
            (plainRenderer.tryRender default (Phrase.print [.shorthand kennelForms])
              (.named value) locale).2.result =
                .ok (kennelForms.trimmed.saidFor n n.plainText category) := by
  have hleash : ∀ w ∈ leashForms.forms, IsSpliced w.toList ∧ '|' ∉ w.toList := by
    intro w hw
    rcases List.mem_pair.1 hw with rfl | rfl <;> exact ⟨⟨by decide, by decide⟩, by decide⟩
  have hkennel : ∀ w ∈ kennelForms.forms, IsSpliced w.toList ∧ '|' ∉ w.toList := by
    intro w hw
    rcases List.mem_pair.1 hw with rfl | rfl <;> exact ⟨⟨by decide, by decide⟩, by decide⟩
  have hintact : leashForms.trimmed.Intact plainRenderer.roster.names := by
    refine ⟨?_, nofun⟩
    decide +kernel
  have hother : Plural.ofNumber (.integer 2) "en" .cardinal plainRenderer.book = .ok .other :=
    Plural.ofNumber_english (x := .ofInt 2) rfl (by decide +kernel)
  have hsaid : leashForms.trimmed.saidFor (.integer 2) (Number.integer 2).plainText .other =
      "2 dogs, all" := by
    decide +kernel
  refine ⟨⟨by decide, hleash, ?_⟩, by decide, hkennel, fun h ↦ ?_⟩
  · have hshown := (tryRender_shorthand_iff plainRenderer default (by decide) hleash).2 hintact
      (fun _ ↦ .number (.integer 2)) (some "en") (.integer 2) (.integer 2) .other rfl rfl rfl hother
    rwa [hsaid] at hshown
  · have hlast := ((tryRender_shorthand_iff plainRenderer default (by decide) hkennel).1.1 h).1
    exact hlast "dogs'" (by decide +kernel) (by decide)

end Shorthand

end Renderer

end Phrasebook
