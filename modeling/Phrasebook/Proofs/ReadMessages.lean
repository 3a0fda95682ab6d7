import Phrasebook.Proofs.Lowering

/-!
Messages that are read off a template are well formed.

A derivation fixes the shape of every part of its message, so what the grammar derives is well
formed in the sense of the printer: it could be written out again (`Elements.wellFormed`). A number
sign is read only directly inside an option of a plural argument, and there the argument around it
gives it its number. So no number from outside has an influence on how the message is rendered
(`Scene.message_pound`).
-/

set_option autoImplicit false

namespace Phrasebook

open Message Text

namespace Grammar

/-! ### Lexical parts -/

theorem Name.isName {s t : List Char} {name : String} (h : Name s name t) : IsName name := by
  obtain ⟨w, hne, hw, rfl, -⟩ := h
  unfold IsName
  rw [String.toList_ofList]
  exact ⟨hne, hw⟩

theorem Typed.isName {s t : List Char} {name word : String} (h : Typed s name word t) :
    IsName name := by
  obtain ⟨u, v, hname, -⟩ := h
  exact hname.isName

theorem Opening.selector {s t : List Char} {selector : String} (h : Opening s selector t) :
    Selector selector.toList := by
  obtain ⟨w, u, hw, rfl, -⟩ := h
  rwa [String.toList_ofList]

/-- A selector has neither white space nor braces. -/
theorem Selector.isPlain {w : List Char} (h : Selector w) : ∀ c ∈ w, isPlain c = true := by
  intro c hc
  refine isPlain_iff.2 ⟨?_, h.braceFree c hc⟩
  rcases h with h | ⟨-, hw, -⟩
  · obtain ⟨negative, ds, places, hds, hplaces, rfl⟩ := h
    simp only [List.cons_append, List.mem_cons, List.mem_append] at hc
    rcases hc with rfl | (hc | hc) | hc
    · decide
    · cases negative with
      | true =>
        obtain rfl := List.mem_singleton.1 hc
        decide
      | false => cases hc
    · exact isBlank_eq_false_of_isDigit (hds.2 c hc)
    · rcases hplaces with rfl | ⟨fs, hfs, rfl⟩
      · cases hc
      · rcases List.mem_cons.1 hc with rfl | hc
        · decide
        · exact isBlank_eq_false_of_isDigit (hfs.2 c hc)
  · have hc := hw c hc
    simp only [isSelectorChar, Bool.and_eq_true, Bool.not_eq_true'] at hc
    exact hc.1.1

theorem braceFree_trim {s : List Char} (h : BraceFree s) : BraceFree (trim s) :=
  h.sublist (trim_isInfix s).sublist

theorem isSkeleton_trim {s : List Char} (h : BraceFree s) :
    IsSkeleton (String.ofList (trim s)) := by
  unfold IsSkeleton
  rw [String.toList_ofList]
  exact ⟨trim_trim s, braceFree_trim h⟩

/-- An argument that shows one value has a style, a skeleton, or neither. -/
theorem StyleEnd.wellFormed {name : String} {type : FormattedType} {s t : List Char} {e : Element}
    (h : StyleEnd name type s e t) (hname : IsName name) (inPlural : Bool) :
    ElementWellFormed inPlural e := by
  cases h with
  | unstyled => cases type <;> exact ⟨hname, by simp, by simp, .inl rfl⟩
  | @styled w _ _ hstyle he =>
    obtain ⟨v, -, hv, hw, hne⟩ := hstyle
    have hfree : BraceFree w := hw ▸ braceFree_trim hv
    have htrim : trim w = w := by rw [hw, trim_trim]
    have hproper (hcolons : ¬ [':', ':'] <+: w) :
        ∀ style ∈ some (String.ofList w), IsStyle style := by
      intro style hstyle
      rw [← Option.mem_some.1 hstyle, IsStyle, String.toList_ofList]
      exact ⟨hne, htrim, hfree, hcolons⟩
    have hrest {k : List Char} (hk : w = ':' :: ':' :: k) : BraceFree k :=
      hfree.sublist (hk ▸ (List.sublist_cons_self _ _).trans (List.sublist_cons_self _ _))
    cases he with
    | number hcolons => exact ⟨hname, hproper hcolons, by simp, .inr rfl⟩
    | numberSkeleton k =>
      refine ⟨hname, by simp, fun o ho ↦ ?_, .inl rfl⟩
      exact ⟨trim k, braceFree_trim (hrest rfl), (Option.mem_some.1 ho).symm⟩
    | date hcolons => exact ⟨hname, hproper hcolons, by simp, .inr rfl⟩
    | dateSkeleton k =>
      refine ⟨hname, by simp, fun o ho ↦ ?_, .inl rfl⟩
      exact Option.mem_some.1 ho ▸ isSkeleton_trim (hrest rfl)
    | time hcolons => exact ⟨hname, hproper hcolons, by simp, .inr rfl⟩
    | timeSkeleton k =>
      refine ⟨hname, by simp, fun o ho ↦ ?_, .inl rfl⟩
      exact Option.mem_some.1 ho ▸ isSkeleton_trim (hrest rfl)

theorem StyleEnd.ne_literal {name : String} {type : FormattedType} {s r : List Char}
    {e : Element} (h : StyleEnd name type s e r) (t : String) : e ≠ .literal t :=
  h.forall_shown (fun _ _ ↦ Element.noConfusion) (fun _ _ ↦ Element.noConfusion)
    fun _ _ ↦ Element.noConfusion

/-! ### Messages -/

section WellFormed

variable {fits : Nat → Prop}

/-- No text stands before an element that is none. -/
theorem messageWellFormed_cons {inPlural : Bool} {e : Element} {m : Message}
    (he : ElementWellFormed inPlural e) (hm : MessageWellFormed inPlural m)
    (htext : ∀ s, e ≠ .literal s) : MessageWellFormed inPlural (e :: m) :=
  ⟨he, hm, fun s _ hs ↦ absurd hs (htext s)⟩

theorem ArgumentEnd.ne_literal {name : String} {type : ArgumentType} {s r : List Char}
    {e : Element} (h : ArgumentEnd fits name type s e r) (t : String) : e ≠ .literal t := by
  cases h with
  | formatted he => exact he.ne_literal t
  | plural | select => exact Element.noConfusion

theorem Argument.ne_literal {s r : List Char} {e : Element} (h : Argument fits s e r)
    (t : String) : e ≠ .literal t := by
  cases h with
  | plain => exact Element.noConfusion
  | typed _ he => exact he.ne_literal t

mutual

/-- What is derived is well formed. -/
theorem Elements.wellFormed {inPlural : Bool} {s r : List Char} {m : Message}
    (h : Elements fits inPlural s m r) : MessageWellFormed inPlural m :=
  match h with
  | .stop _ => trivial
  | .text _ hm => Phrase.messageWellFormed_addText hm.wellFormed
  | .pound hm => messageWellFormed_cons rfl hm.wellFormed fun _ ↦ Element.noConfusion
  | .argument he hm => messageWellFormed_cons (he.wellFormed _) hm.wellFormed he.ne_literal
termination_by structural h

theorem Argument.wellFormed {s r : List Char} {e : Element} (h : Argument fits s e r)
    (inPlural : Bool) : ElementWellFormed inPlural e :=
  match h with
  | .plain hname _ => hname.isName
  | .typed ht he => he.wellFormed ht.isName inPlural
termination_by structural h

theorem ArgumentEnd.wellFormed {name : String} {type : ArgumentType} {s r : List Char}
    {e : Element} (h : ArgumentEnd fits name type s e r) (hname : IsName name) (inPlural : Bool) :
    ElementWellFormed inPlural e :=
  match h with
  | .formatted he => he.wellFormed hname inPlural
  | .plural _ _ hos hne _ => ⟨hname, hne, hos.wellFormed.2.1, hos.wellFormed.1⟩
  | .select _ hos hne _ => ⟨hname, hne, hos.wellFormed.2.1, hos.wellFormed.1⟩
termination_by structural h

/-- The selectors of options differ from each other and from the ones seen before. -/
theorem Options.wellFormed {inPlural : Bool} {seen : List String} {s r : List Char}
    {os : List (String × Message)} (h : Options fits inPlural seen s os r) :
    OptionsWellFormed inPlural os ∧ (os.map Prod.fst).Nodup ∧
      ∀ selector ∈ os.map Prod.fst, selector ∉ seen :=
  match h with
  | .none => ⟨trivial, List.nodup_nil, List.forall_mem_nil _⟩
  | .one ho hsel hm hos => by
    obtain ⟨hwell, hdiff, hnew⟩ := hos.wellFormed
    refine ⟨⟨ho.selector, hm.wellFormed, hwell⟩, ?_, ?_⟩
    · rw [List.map_cons, List.nodup_cons]
      exact ⟨fun hmem ↦ hnew _ hmem List.mem_cons_self, hdiff⟩
    · rw [List.map_cons, List.forall_mem_cons]
      exact ⟨hsel, fun selector hmem hseen ↦ hnew selector hmem (List.mem_cons_of_mem _ hseen)⟩
termination_by structural h

end

end WellFormed

end Grammar

/-! ### Number signs -/

namespace Scene

open Grammar

/-- An element that stands outside of plural options has no use for a number around it. -/
theorem element_pound {e : Element} (h : ElementWellFormed false e) (scene : Scene)
    (pound : Option Value) : scene.element pound e = scene.element none e := by
  cases e with
  | pound => exact absurd h Bool.false_ne_true
  | _ => simp only [element]

theorem message_pound {m : Message} (h : MessageWellFormed false m) (scene : Scene)
    (pound : Option Value) : scene.message pound m = scene.message none m := by
  induction m with
  | nil => simp only [message]
  | cons e m ih => rw [message, message, element_pound h.1, ih h.2.1]

end Scene

namespace Grammar

/-- A message that is read is well formed. Its texts are not empty and never stand next to each
other, its names, selectors, styles and skeletons are what the grammar takes for one, an argument
has at least one option and no two with one selector, at most one of a style and a skeleton, and a
number sign stands only directly inside an option of a plural argument. A selector has characters,
none of them white space or a brace, and number options have both bounds on the fraction digits in
order or none, and a currency or a length where their style needs one. How the message is rendered
does not depend on any number around it. -/
theorem wellFormed_of_parse {template : String} {m : Message}
    (h : Message.parse template = .ok m) :
    MessageWellFormed false m ∧
      (∀ selector, Selector selector → selector ≠ [] ∧ ∀ c ∈ selector, isPlain c = true) ∧
      (∀ options, IsRequested options → options.Attainable) ∧
      ∀ (scene : Scene) (pound : Option Value), scene.message pound m = scene.message none m := by
  have hwell : MessageWellFormed false m := (elements_of_parse h).wellFormed
  refine ⟨hwell, fun selector hs ↦ ⟨?_, hs.isPlain⟩, ?_, Scene.message_pound hwell⟩
  · obtain ⟨c, r, rfl, -⟩ := hs.exists_cons
    exact List.cons_ne_nil c r
  · rintro options ⟨skeleton, hfree, rfl⟩
    exact NumberOptions.attainable_ofSkeleton hfree

/-- A count of files. The first number sign counts, and the one in the inner argument is a text. -/
def fileCount : String :=
  "\x7bn, plural, one \x7b# file\x7d other \x7b\x7bkind, select, other \x7b#\x7d\x7d\x7d\x7d"

theorem wellFormed_fileCount :
    let m : Message := [.plural "n" .cardinal 0 [("one", [.pound, .literal " file"]),
      ("other", [.select "kind" [("other", [.literal "#"])]])]]
    Message.parse fileCount = .ok m ∧ MessageWellFormed false m ∧
      (∀ selector, Selector selector → selector ≠ [] ∧ ∀ c ∈ selector, isPlain c = true) ∧
      (∀ options, IsRequested options → options.Attainable) ∧
      ∀ (scene : Scene) (pound : Option Value), scene.message pound m = scene.message none m := by
  intro m
  have hparse : Message.parse fileCount = .ok m := by
    with_unfolding_all rfl
  exact ⟨hparse, wellFormed_of_parse hparse⟩

end Grammar

end Phrasebook
