import Phrasebook.Proofs.ClearTemplates
import Phrasebook.Proofs.MessageParts
import Phrasebook.Proofs.SparedTexts
import Phrasebook.Table

/-!
Names that the author wrote.

Preparing a template replaces groups of braces. A name that stands after an opening brace of the
prepared template is told by the text up to the next brace, so it stands after a brace that is kept,
or in what replaces a group (`atBrace_of_rewritten`). What replaces a group has no name of its own
but that of a placeholder, which leads back to a name in the group. The name of a plural in short
stands in it, too, and no argument is read in place of its form for zero (`writesName_of_prepare`).
-/

set_option autoImplicit false

namespace Phrasebook

open Text Template

/-- The comma or the closing brace, one of which follows the name of an argument. -/
def EndsName (d : Char) : Prop :=
  d = ',' ∨ d = '}'

/-- The template has the name at the start of an argument. -/
def WritesName (template : List Char) (name : String) : Prop :=
  AtBrace (fun s ↦ ∃ d, EndsName d ∧ BeginsName name d s) template

/-- The form for zero of a plural in short begins with the name as an argument does: it stands alone
in its braces when the plural is written out. -/
def WritesInZeroForm (template : List Char) (name : String) : Prop :=
  AtBrace (fun s ↦ ∃ f r zero d, shorthand.read s = some (f, r) ∧ f.zero = some zero ∧
    EndsName d ∧ BeginsName name d (zero.toList ++ ['}'])) template

/-- The template has the name before a comma at the start of an argument, as one with a type and a
plural in short begin, or its form for zero begins so. -/
def WritesTyped (template : List Char) (name : String) : Prop :=
  AtBrace (fun s ↦ BeginsName name ',' s ∨
    ∃ f r zero, shorthand.read s = some (f, r) ∧ f.zero = some zero ∧
      BeginsName name ',' (zero.toList ++ ['}'])) template

/-- Neither a text without braces nor the brace that closes it opens one. -/
theorem Text.BraceFree.ne_open {v : List Char} (h : BraceFree v) : ∀ c ∈ v ++ ['}'], c ≠ '{' := by
  intro c hc
  rcases List.mem_append.1 hc with hc | hc
  · exact (h c hc).1
  · rw [List.mem_singleton.1 hc]
    decide

/-! ### Names behind a brace -/

section Names

variable {name name' : String} {c d d' : Char} {s s' t v : List Char}

theorem EndsName.classes (h : EndsName d) : isBlank d = false ∧ Message.isNameChar d = false := by
  rcases h with rfl | rfl <;> decide

theorem beginsName_of_isWordName (h : Phrase.IsWordName name) (hs : White s (name.toList ++ t))
    {u : List Char} (ht : White t (d :: u)) : BeginsName name d s :=
  ⟨⟨h.1, fun c hc ↦ Grammar.isNameChar_of_isWord (h.2 c hc)⟩, t, u, hs, ht⟩

/-- The name is the first run of characters of names, and the sign comes first behind it. -/
theorem BeginsName.scan (h : BeginsName name d s) (hd : EndsName d) :
    let r := s.dropWhile isBlank
    r.takeWhile Message.isNameChar = name.toList ∧
      ((r.dropWhile Message.isNameChar).dropWhile isBlank).head? = some d := by
  obtain ⟨⟨hne, hname⟩, t, u, ⟨b, hb, rfl⟩, ⟨b', hb', rfl⟩⟩ := h
  have hstart : ∀ c ∈ (name.toList ++ (b' ++ d :: u)).head?, isBlank c = false := by
    obtain ⟨c, w, hw⟩ := List.exists_cons_of_ne_nil hne
    rw [hw] at hname ⊢
    intro e he
    rw [← Option.mem_some.1 he]
    exact (classes_of_isNameChar (hname c List.mem_cons_self)).1
  have hstop : ∀ c ∈ (b' ++ d :: u).head?, Message.isNameChar c = false := by
    intro c hc
    rw [Bool.eq_false_iff]
    intro hc'
    rcases White.head ⟨b', hb', rfl⟩ c hc with hblank | rfl
    · rw [(classes_of_isNameChar hc').1] at hblank
      cases hblank
    · rw [hd.classes.2] at hc'
      cases hc'
  have hend : ∀ c ∈ (d :: u).head?, isBlank c = false := by
    intro c hc
    rw [← Option.mem_some.1 hc]
    exact hd.classes.1
  dsimp only
  rw [dropWhile_append_stop hb hstart, takeWhile_append_stop hname hstop,
    dropWhile_append_stop hname hstop, dropWhile_append_stop hb' hend]
  exact ⟨rfl, rfl⟩

/-- One name stands at the start of a text, and one sign behind it. -/
theorem BeginsName.unique (h : BeginsName name d s) (h' : BeginsName name' d' s) (hd : EndsName d)
    (hd' : EndsName d') : name = name' ∧ d = d' := by
  obtain ⟨hname, hsign⟩ := h.scan hd
  obtain ⟨hname', hsign'⟩ := h'.scan hd'
  exact ⟨String.toList_inj.1 (hname.symm.trans hname'), Option.some.inj (hsign.symm.trans hsign')⟩

/-- Whether a name stands at the start of a text is told by the text up to the next brace. -/
theorem BeginsName.of_stop (h : BeginsName name d (v ++ s)) (hd : EndsName d) (hs : Stop s)
    (hs' : s.head? = some '}' → s'.head? = some '}') : BeginsName name d (v ++ s') := by
  obtain ⟨hname, t, u, ⟨b, hb, ht⟩, ⟨b', hb', rfl⟩⟩ := h
  -- `p` is all that stands in front of the sign
  let p := b ++ (name.toList ++ b')
  have hfree : ∀ c ∈ p, c ≠ '{' ∧ c ≠ '}' := by
    have hblank {c : Char} (hc : isBlank c = true) : c ≠ '{' ∧ c ≠ '}' := by
      constructor <;> (rintro rfl; exact absurd hc (by decide))
    intro c hc
    simp only [p, List.mem_append] at hc
    rcases hc with hc | hc | hc
    · exact hblank (hb c hc)
    · exact (classes_of_isNameChar (hname.2 c hc)).2
    · exact hblank (hb' c hc)
  have hbegins (y : List Char) : BeginsName name d (p ++ d :: y) :=
    ⟨hname, b' ++ d :: y, y, ⟨b, hb, by simp [p]⟩, ⟨b', hb', rfl⟩⟩
  have hsplit : v ++ s = p ++ d :: u := by
    rw [ht]
    simp [p]
  -- if the sign is the brace, then that is the one that begins `s`
  have hbrace (hp : p = v) (hsign : s = d :: u) : BeginsName name d (v ++ s') := by
    rw [hsign] at hs hs'
    have hclose : d = '}' := by
      rcases hs d rfl with rfl | hclose
      · rcases hd with hd | hd <;> exact absurd hd (by decide)
      · exact hclose
    subst hclose
    obtain ⟨y, hy⟩ := List.head?_eq_some_iff.1 (hs' rfl)
    rw [hy, ← hp]
    exact hbegins y
  rcases List.append_eq_append_iff.1 hsplit with ⟨a, hp, hsign⟩ | ⟨a, hv, hsign⟩
  · cases a with
    | nil => exact hbrace (by simpa using hp) hsign
    | cons e a =>
      have hmem : e ∈ p := by
        rw [hp]
        simp
      rw [hsign] at hs
      rcases hs e rfl with rfl | rfl
      · exact absurd rfl (hfree _ hmem).1
      · exact absurd rfl (hfree _ hmem).2
  · cases a with
    | nil => exact hbrace (by simpa using hv.symm) hsign.symm
    | cons e a =>
      obtain ⟨rfl, rfl⟩ := List.cons.inj hsign
      rw [hv, List.append_assoc]
      exact hbegins (a ++ s')

end Names

/-! ### Groups that are replaced -/

/-- What may stand for a part of a template: the part itself, or another text in braces for a group,
where the property `B` of what stands behind a brace of it tells `B₀` of the group. -/
inductive Rewritten (B B₀ : List Char → Prop) : Item → List Char → Prop
  | char (c : Char) : Rewritten B B₀ (.char c) [c]
  | kept (v : List Char) : Rewritten B B₀ (.group v) (Item.group v).text
  | replaced {v w : List Char} : v.head? ≠ some '#' →
      (BraceFree v → ∀ s s', (oneForm <+: s' → oneForm <+: s) → AtBrace B ('{' :: (w ++ s)) →
        B₀ (v ++ '}' :: s') ∨ AtBrace B s) → Rewritten B B₀ (.group v) ('{' :: w)

/-- Whether the properties hold behind a brace is told by the text up to the next brace, and by a
form for one behind that. -/
structure Carries (B B₀ : List Char → Prop) : Prop where
  closed {v s s' : List Char} : BraceFree v → (oneForm <+: s' → oneForm <+: s) →
    B (v ++ '}' :: s) → B₀ (v ++ '}' :: s')
  opened {v s s' : List Char} : BraceFree v → (∀ c ∈ s.head?, c = '{') →
    (∀ c ∈ s'.head?, c = '{') → B (v ++ s) → B₀ (v ++ s')

section Carries

variable {B B₀ B₁ : List Char → Prop} {name : String} {d : Char}

theorem Carries.mono (h : Carries B B₀) (hB : ∀ s, B₀ s → B₁ s) : Carries B B₁ where
  closed hv hs hB₀ := hB _ (h.closed hv hs hB₀)
  opened hv hs hs' hB₀ := hB _ (h.opened hv hs hs' hB₀)

theorem carries_beginsName (hd : EndsName d) :
    Carries (BeginsName name d) (BeginsName name d) where
  closed _ _ h := h.of_stop hd (by simp [Stop]) fun _ ↦ rfl
  opened _ hs _ h := h.of_stop hd (fun c hc ↦ .inl (hs c hc)) fun hclose ↦
    absurd (hs _ hclose) (by decide)

theorem carries_beginsArgument (hd : EndsName d) :
    Carries (BeginsArgument name d) (BeginsArgument name d) where
  closed hv hs h := by
    refine ⟨(carries_beginsName hd).closed hv hs h.1, ?_⟩
    rw [beginsZeroForm_iff hv]
    exact fun hform ↦ h.2 ((beginsZeroForm_iff hv).2 (hs hform))
  opened hv hs hs' h :=
    ⟨(carries_beginsName hd).opened hv hs hs' h.1, not_beginsZeroForm hv hs'⟩

end Carries

section Rewritten

variable {B B₀ : List Char → Prop} {items : List Item} {ws : List (List Char)}

/-- Nothing is replaced before a brace. -/
theorem Template.append_of_prefix_rewritten {p q : List Char} (hp : ∀ c ∈ p, c ≠ '{')
    (h : List.Forall₂ (Rewritten B B₀) items ws) (hq : p ++ q <+: textOf items) :
    ∃ items' ws', List.Forall₂ (Rewritten B B₀) items' ws' ∧ q <+: textOf items' ∧
      ws.flatten = p ++ ws'.flatten := by
  induction p generalizing items ws with
  | nil => exact ⟨items, ws, h, hq, rfl⟩
  | cons c p ih =>
    obtain ⟨hc, hp⟩ := List.forall_mem_cons.1 hp
    cases h with
    | nil => exact absurd hq (by simp)
    | cons hi hrest =>
      cases hi with
      | char d =>
        obtain ⟨rfl, hrestq⟩ := List.cons_prefix_cons.1 hq
        obtain ⟨items', ws', h, hq, hflatten⟩ := ih hp hrest hrestq
        refine ⟨items', ws', h, hq, ?_⟩
        rw [List.flatten_cons, hflatten]
        rfl
      | kept v => exact absurd (List.cons_prefix_cons.1 hq).1 hc
      | replaced _ _ => exact absurd (List.cons_prefix_cons.1 hq).1 hc

theorem oneForm_eq : oneForm = " one ".toList ++ ['{', '#'] := by
  decide

/-- A form for one stays where it is. -/
theorem oneForm_prefix_rewritten (h : List.Forall₂ (Rewritten B B₀) items ws)
    (hform : oneForm <+: textOf items) : oneForm <+: ws.flatten := by
  obtain ⟨items, ws', h, hform, hflatten⟩ :=
    append_of_prefix_rewritten (p := " one ".toList) (q := ['{', '#']) (by decide) h hform
  rw [hflatten, oneForm_eq, List.prefix_append_right_inj]
  cases h with
  | nil => exact absurd hform (by simp)
  | cons hi hrest =>
    cases hi with
    | char c =>
      obtain ⟨rfl, hpound⟩ := List.cons_prefix_cons.1 hform
      obtain ⟨_, ws', -, -, hflatten⟩ :=
        append_of_prefix_rewritten (p := ['#']) (q := []) (by decide) hrest hpound
      rw [List.flatten_cons, hflatten]
      exact List.prefix_append ['{', '#'] _
    | kept v =>
      rw [textOf_group, List.cons_prefix_cons] at hform
      cases v with
      | nil => exact absurd (List.cons_prefix_cons.1 hform.2).1 (by decide)
      | cons c v =>
        obtain rfl := (List.cons_prefix_cons.1 hform.2).1
        exact List.prefix_append ['{', '#'] _
    | @replaced v w hv _ =>
      rw [textOf_group, List.cons_prefix_cons] at hform
      cases v with
      | nil => exact absurd (List.cons_prefix_cons.1 hform.2).1 (by decide)
      | cons c v =>
        obtain rfl := (List.cons_prefix_cons.1 hform.2).1
        exact absurd rfl hv

/-- Up to the next brace, which opens, nothing is replaced. -/
theorem Template.Opens.split_rewritten (h : List.Forall₂ (Rewritten B B₀) items ws)
    (ho : Opens items) :
    ∃ v s s', BraceFree v ∧ (∀ c ∈ s.head?, c = '{') ∧ (∀ c ∈ s'.head?, c = '{') ∧
      textOf items = v ++ s ∧ ws.flatten = v ++ s' := by
  induction h with
  | nil => exact ⟨[], [], [], .nil, by simp, by simp, rfl, rfl⟩
  | @cons i w items ws hi _ ih =>
    cases hi with
    | char c =>
      by_cases hc : c = '{'
      · exact ⟨[], _, _, .nil, by simp [hc], by simp [hc], rfl, rfl⟩
      · obtain ⟨hclose, ho⟩ := ho.resolve_left hc
        obtain ⟨v, s, s', hv, hs, hs', hitems, hws⟩ := ih ho
        refine ⟨c :: v, s, s', hv.cons ⟨hc, hclose⟩, hs, hs', ?_, ?_⟩
        · rw [textOf_char, hitems]
          rfl
        · rw [List.flatten_cons, hws]
          rfl
    | kept v => exact ⟨[], _, _, .nil, by simp, by simp, rfl, rfl⟩
    | replaced _ _ => exact ⟨[], _, _, .nil, by simp, by simp, rfl, rfl⟩

/-- What stands behind a brace stood there before, or it came with what replaces a group. -/
theorem atBrace_of_rewritten (hB : Carries B B₀) (hs : Settled items)
    (h : List.Forall₂ (Rewritten B B₀) items ws) (hat : AtBrace B ws.flatten) :
    AtBrace B₀ (textOf items) := by
  induction h with
  | nil => exact absurd hat atBrace_nil
  | @cons i w items ws hi hrest ih =>
    rw [List.flatten_cons] at hat
    cases hi with
    | char c =>
      cases hs with
      | char hopen hs =>
        rw [textOf_char, atBrace_cons]
        rcases atBrace_cons.1 hat with ⟨rfl, hbegins⟩ | hat
        · obtain ⟨v, s, s', hv, hs, hs', hitems, hws⟩ := (hopen rfl).split_rewritten hrest
          change B ws.flatten at hbegins
          rw [hws] at hbegins
          rw [hitems]
          exact .inl ⟨rfl, hB.opened hv hs' hs hbegins⟩
        · exact .inr (ih hs hat)
    | kept v =>
      cases hs with
      | group hv hs =>
        have htext : (Item.group v).text ++ ws.flatten = '{' :: (v ++ '}' :: ws.flatten) := by
          simp [Item.text]
        have hopen : ∀ c ∈ v, c ≠ '{' := fun c hc ↦ (hv c hc).1
        rw [textOf_group, atBrace_group hopen]
        rw [htext, atBrace_group hopen] at hat
        exact hat.imp (hB.closed hv (oneForm_prefix_rewritten hrest)) (ih hs)
    | @replaced v w _ hw =>
      cases hs with
      | group hv hs =>
        rw [textOf_group, atBrace_group fun c hc ↦ (hv c hc).1]
        exact (hw hv _ _ (oneForm_prefix_rewritten hrest) hat).imp id (ih hs)

end Rewritten

/-! ### Names in a prepared template -/

section Prepared

variable {names : List String} {template : List Char} {name : String} {d : Char}

/-- In a group that is put aside stands the name of what it is put aside as. -/
theorem beginsName_of_firstFound {v : List Char} {a : ExtensionArgument}
    (h : firstFound (passes names) v = some a) (s : List Char) :
    BeginsName a.name ',' (v ++ '}' :: s) := by
  obtain ⟨p, hp, hfound⟩ := List.exists_of_findSome?_eq_some h
  obtain ⟨f, hf, hname⟩ := named_passes names p hp
  obtain ⟨⟨b, t⟩, hr, hb⟩ := Option.map_eq_some_iff.1 hfound
  obtain rfl : b = a := hb
  rw [hf] at hr
  obtain ⟨name, u, hvariable, hr⟩ := Reader.exists_of_bind hr
  obtain rfl := hname name u b t (fun _ _ ↦ trivial) hr
  obtain ⟨hword, u', hs, hcomma⟩ := Reader.exists_of_variableName hvariable
  exact (beginsName_of_isWordName hword hs hcomma).of_stop (.inl rfl) (by simp [Stop]) fun _ ↦ rfl

/-- The variable of an argument that has been put aside stood after a brace. -/
theorem atBrace_of_mem_asides (hnames : ∀ name ∈ names, BraceFree name.toList)
    {x : String × ExtensionArgument} (hx : x ∈ (prepare names template).asides) :
    AtBrace (BeginsName x.2.name ',') template := by
  obtain ⟨items, hsettled, rfl⟩ := exists_settled template
  obtain ⟨v, hv, hfound⟩ := (follows_prepare hnames hsettled).found x hx
  obtain ⟨before, after, rfl⟩ := List.append_of_mem hv
  refine ⟨v ++ '}' :: textOf after, ?_, beginsName_of_firstFound hfound _⟩
  rw [textOf_append, textOf_group]
  exact List.suffix_append _ _

/-- An argument of a template whose arguments have been put aside stood there before, or it is a
placeholder in the place of one. -/
theorem nameIn_of_prepare (hnames : ∀ name ∈ names, BraceFree name.toList) (hd : EndsName d)
    (h : Grammar.NameIn (prepare names template).text d name) :
    Grammar.NameIn template d name ∨
      d = '}' ∧ ∃ a, (name, a) ∈ (prepare names template).asides ∧
        Grammar.NameIn template ',' a.name := by
  obtain ⟨items, hsettled, rfl⟩ := exists_settled template
  obtain ⟨items', htext, hlabelled⟩ := (follows_prepare hnames hsettled).labelled
  let asides := (prepare names (textOf items)).asides
  let Stood (s : List Char) : Prop := BeginsArgument name d s ∨
    d = '}' ∧ ∃ a, (name, a) ∈ asides ∧ BeginsArgument a.name ',' s
  have hcarries : Carries (BeginsArgument name d) Stood :=
    (carries_beginsArgument hd).mono fun s hs ↦ .inl hs
  have hrewritten : List.Forall₂ (Rewritten (BeginsArgument name d) Stood) items
      (items'.map Item.text) := by
    rw [List.forall₂_map_right_iff]
    refine hlabelled.imp fun i j hij ↦ ?_
    cases hij with
    | char c => exact .char c
    | @kept v _ => exact .kept v
    | @aside v a kind n hfound hmem =>
      have hgroup : (Item.group (kind.token n).toList).text =
          '{' :: ((kind.token n).toList ++ ['}']) := rfl
      rw [hgroup]
      refine .replaced (fun hhead ↦ ?_) fun hv s s' hform hat ↦ ?_
      · obtain ⟨u, rfl⟩ := List.head?_eq_some_iff.1 hhead
        exact not_beginsName (by decide) (by decide) (beginsName_of_firstFound hfound [])
      · rw [List.append_assoc, List.singleton_append,
          atBrace_group fun c hc ↦ (kind.braceFree_token n c hc).1] at hat
        refine hat.imp_left fun ⟨hbegins, hzero⟩ ↦ ?_
        have htoken : BeginsName (kind.token n) '}' ((kind.token n).toList ++ '}' :: s) :=
          beginsName_of_isWordName (Phrase.isWordName_token kind n) (.refl _) (.refl _)
        obtain ⟨rfl, rfl⟩ := hbegins.unique htoken hd (.inr rfl)
        refine .inr ⟨rfl, a, hmem, beginsName_of_firstFound hfound s', ?_⟩
        rw [beginsZeroForm_iff (kind.braceFree_token n)] at hzero
        rw [beginsZeroForm_iff hv]
        exact fun h ↦ hzero (hform h)
  have hat : AtBrace (BeginsArgument name d) (items'.map Item.text).flatten := by
    rw [← List.flatMap_def]
    change AtBrace _ (textOf items')
    rw [htext]
    exact h
  rcases atBrace_or (atBrace_of_rewritten hcarries hsettled hrewritten hat) with h | h
  · exact .inl h
  · obtain ⟨t, ht, hd, a, ha, hbegins⟩ := h
    exact .inr ⟨hd, a, ha, t, ht, hbegins⟩

end Prepared

/-! ### Names in a template that is written out -/

section SpelledOut

variable {template s t : List Char} {name : String} {f : PluralForms} {d : Char}
  {B B₀ : List Char → Prop}

theorem braceFree_zero_of_shorthand (h : shorthand.read s = some (f, t)) :
    ∀ zero ∈ f.zero, BraceFree zero.toList := fun zero hzero ↦
  braceFree_of_isFormChar (isFormChar_of_shorthand h zero (f.mem_forms_of_zero hzero))

/-- What stands behind the braces of a plural that is written out: the name, the form for zero, or
the number sign of another form. -/
theorem atBrace_argument (hname : ∀ c ∈ f.name.toList, c ≠ '{')
    (hzero : ∀ w ∈ f.zero, ∀ c ∈ w.toList, c ≠ '{') (hone : ∀ c ∈ f.one.toList, c ≠ '{')
    (hother : ∀ c ∈ f.other.toList, c ≠ '{') (h : AtBrace B (f.argument.toList ++ s)) :
    (∃ t, B (f.name.toList ++ ", plural,".toList ++ t)) ∨
      (∃ zero ∈ f.zero, ∃ t, B (zero.toList ++ '}' :: (oneForm ++ t))) ∨
      (∃ t, B ('#' :: t)) ∨ AtBrace B s := by
  -- behind the brace of a form stands the number sign
  have skip {selector w : List Char} {t : List Char} (hselector : ∀ c ∈ selector, c ≠ '{')
      (hw : ∀ c ∈ w, c ≠ '{') (h : AtBrace B (selector ++ '{' :: ('#' :: ' ' :: w ++ '}' :: t))) :
      (∃ t, B ('#' :: t)) ∨ AtBrace B t := by
    have hform : ∀ c ∈ '#' :: ' ' :: w, c ≠ '{' := by
      simpa using hw
    rw [atBrace_append hselector, atBrace_group hform] at h
    exact h.imp_left fun h ↦ ⟨_, h⟩
  let others := " other ".toList ++ '{' :: ('#' :: ' ' :: f.other.toList ++ '}' :: '}' :: s)
  let tail := " one ".toList ++ '{' :: ('#' :: ' ' :: f.one.toList ++ '}' :: others)
  have htail (h : AtBrace B tail) : (∃ t, B ('#' :: t)) ∨ AtBrace B s := by
    rcases skip (by decide) hone h with h | h
    · exact .inl h
    · refine (skip (by decide) hother h).imp_right fun h ↦ ?_
      exact (atBrace_cons.1 h).resolve_left fun h ↦ absurd h.1 (by decide)
  let head := f.name.toList ++ ", plural,".toList
  have hhead : ∀ c ∈ head, c ≠ '{' := by
    intro c hc
    rcases List.mem_append.1 hc with hc | hc
    · exact hname c hc
    · exact (by decide : ∀ c ∈ ", plural,".toList, c ≠ '{') c hc
  cases hz : f.zero with
  | none =>
    have hargument : f.argument.toList ++ s = '{' :: (head ++ tail) := by
      simp [PluralForms.argument, PluralForms.option, hz, head, tail, others]
    rw [hargument, atBrace_cons, atBrace_append hhead] at h
    rcases h with ⟨-, h⟩ | h
    · exact .inl ⟨_, h⟩
    · exact .inr (.inr (htail h))
  | some zero =>
    have hargument : f.argument.toList ++ s =
        '{' :: (head ++ (" =0 ".toList ++ '{' :: (zero.toList ++ '}' :: tail))) := by
      simp [PluralForms.argument, PluralForms.option, hz, head, tail, others]
    have hone : tail = oneForm ++ (' ' :: f.one.toList ++ '}' :: others) := by
      rw [oneForm_eq, List.append_assoc]
      rfl
    rw [hargument, atBrace_cons, atBrace_append hhead, atBrace_append (by decide),
      atBrace_group (hzero zero hz)] at h
    rcases h with ⟨-, h⟩ | h | h
    · exact .inl ⟨_, h⟩
    · rw [hone] at h
      exact .inr (.inl ⟨zero, rfl, _, h⟩)
    · exact .inr (.inr (htail h))

/-- What stands behind a brace when plurals are written out stood there before, or stands behind a
brace of such a plural. -/
theorem atBrace_of_spellOut (hB : Carries B B₀) (hpound : ∀ s, ¬ B ('#' :: s))
    (hwritten : ∀ s f t, shorthand.read s = some (f, t) →
      (∀ r, B (f.name.toList ++ ", plural,".toList ++ r) → B₀ s) ∧
        ∀ zero ∈ f.zero, ∀ r, B (zero.toList ++ '}' :: (oneForm ++ r)) → B₀ s)
    (h : AtBrace B (spellOut template)) : AtBrace B₀ template := by
  obtain ⟨items, hsettled, rfl⟩ := exists_settled template
  let write : Item → List Char := shorthand.replaceItem fun f ↦ f.argument.toList
  have hpart (i : Item) : Rewritten B B₀ i (write i) := by
    cases i with
    | char c => exact .char c
    | group v =>
      simp only [write, Shape.replaceItem]
      cases hfound : shorthand.found? v with
      | none => exact .kept v
      | some f =>
        obtain ⟨k, y, hw, -⟩ := f.exists_argument
        dsimp only
        rw [hw]
        obtain ⟨x, hx, rfl⟩ := Option.map_eq_some_iff.1 hfound
        refine .replaced (fun hhead ↦ ?_) fun hv s s' _ hat ↦ ?_
        · obtain ⟨u, rfl⟩ := List.head?_eq_some_iff.1 hhead
          obtain ⟨hword, s₁, s₂, _, _, hs, hs₁, -⟩ := exists_of_shorthand hx
          exact not_beginsName (by decide) (by decide) (beginsName_of_isWordName hword hs hs₁)
        · rw [← List.cons_append, ← hw] at hat
          have hread : shorthand.read (v ++ '}' :: s') = some (x.1, s') := by
            rw [Shape.read_group closes_shorthand hv, hfound]
            rfl
          obtain ⟨hname, hzero, hone, hother⟩ :=
            Reader.finds_shorthand _ x.1 x.2 hv.ne_open hx
          rcases atBrace_argument hname hzero hone hother hat with
            ⟨t, ht⟩ | ⟨zero, hz, t, ht⟩ | ⟨t, ht⟩ | hat
          · exact .inl ((hwritten _ _ _ hread).1 t ht)
          · exact .inl ((hwritten _ _ _ hread).2 zero hz t ht)
          · exact absurd ht (hpound t)
          · exact .inr hat
  have hrewritten : List.Forall₂ (Rewritten B B₀) items (items.map write) := by
    rw [List.forall₂_map_right_iff, List.forall₂_same]
    exact fun i _ ↦ hpart i
  have hat : AtBrace B (items.map write).flatten := by
    rw [← List.flatMap_def, ← replace_textOf closes_shorthand hsettled]
    exact h
  exact atBrace_of_rewritten hB hsettled hrewritten hat

/-- A plural that is written out has its name from the short form. -/
theorem beginsName_of_shorthand {f : PluralForms} {s t r : List Char} (hd : EndsName d)
    (hread : shorthand.read s = some (f, t))
    (h : BeginsName name d (f.name.toList ++ ", plural,".toList ++ r)) :
    BeginsName name ',' s := by
  obtain ⟨hword, s₁, s₂, _, _, hs, hs₁, -⟩ := exists_of_shorthand hread
  have hbegins : BeginsName f.name ',' (f.name.toList ++ ", plural,".toList ++ r) := by
    refine beginsName_of_isWordName hword ?_ (White.refl (',' :: (" plural,".toList ++ r)))
    simpa using White.refl _
  obtain ⟨rfl, -⟩ := h.unique hbegins hd (.inl rfl)
  exact beginsName_of_isWordName hword hs hs₁

theorem not_beginsName_pound (s : List Char) : ¬ BeginsName name d ('#' :: s) :=
  not_beginsName (by decide) (by decide)

/-- The name of an argument in a template whose plurals are written out is one of the author. -/
theorem writesName_of_spellOut (hd : EndsName d) (h : Grammar.NameIn (spellOut template) d name) :
    WritesName template name := by
  have hcarries : Carries (BeginsArgument name d) fun s ↦ ∃ d, EndsName d ∧ BeginsName name d s :=
    (carries_beginsArgument hd).mono fun s hs ↦ ⟨d, hd, hs.1⟩
  refine atBrace_of_spellOut hcarries (fun s hs ↦ not_beginsName_pound s hs.1) ?_ h
  intro s f t hread
  refine ⟨fun r hr ↦ ⟨_, .inl rfl, beginsName_of_shorthand hd hread hr.1⟩, ?_⟩
  intro zero hz r hr
  exact absurd ⟨_, r, braceFree_zero_of_shorthand hread zero hz, rfl⟩ hr.2

/-- A name behind a brace of a template whose plurals are written out stood behind one before, with
its sign or with the comma of a plural in short, or it begins the form for zero of such a plural. -/
theorem atBrace_name_of_spellOut (hd : EndsName d)
    (h : AtBrace (BeginsName name d) (spellOut template)) :
    AtBrace (fun s ↦ (BeginsName name d s ∨ BeginsName name ',' s) ∨
      ∃ f r zero, shorthand.read s = some (f, r) ∧ f.zero = some zero ∧
        BeginsName name d (zero.toList ++ ['}'])) template := by
  refine atBrace_of_spellOut ((carries_beginsName hd).mono fun s hs ↦ .inl (.inl hs))
    not_beginsName_pound ?_ h
  intro s f t hread
  refine ⟨fun r hr ↦ .inl (.inr (beginsName_of_shorthand hd hread hr)), ?_⟩
  intro zero hz r hr
  exact .inr ⟨f, t, zero, hread, hz, hr.of_stop hd (by simp [Stop]) fun _ ↦ rfl⟩

/-- A name behind a brace of a template whose plurals are written out is one of the author, perhaps
in a form for zero. -/
theorem writesInZeroForm_of_spellOut (hd : EndsName d)
    (h : AtBrace (BeginsName name d) (spellOut template)) :
    WritesName template name ∨ WritesInZeroForm template name := by
  refine atBrace_or ((atBrace_name_of_spellOut hd h).mono fun s hs ↦ ?_)
  rcases hs with (hs | hs) | ⟨f, r, zero, hread, hz, hs⟩
  · exact .inl ⟨d, hd, hs⟩
  · exact .inl ⟨',', .inl rfl, hs⟩
  · exact .inr ⟨f, r, zero, d, hread, hz, hd, hs⟩

/-- The name before a comma is the author's, too. -/
theorem writesTyped_of_spellOut (h : AtBrace (BeginsName name ',') (spellOut template)) :
    WritesTyped template name :=
  (atBrace_name_of_spellOut (.inl rfl) h).mono fun _ hs ↦ hs.imp_left (or_self_iff.1 ·)

/-- In a template that has been prepared, the name of an argument is one of the author, or it is a
placeholder for an argument with a name of the author. The arguments put aside have names of the
author, perhaps in a form for zero. -/
theorem writesName_of_prepare {names : List String} (hnames : ∀ name ∈ names, BraceFree name.toList)
    (template : List Char) :
    let prepared := prepare names (spellOut template)
    (∀ name, Grammar.NameIn prepared.text ',' name → WritesName template name) ∧
      (∀ name, Grammar.NameIn prepared.text '}' name → WritesName template name ∨
        ∃ a, prepared.asides.lookup name = some a ∧ WritesName template a.name) ∧
      ∀ name a, prepared.asides.lookup name = some a → hasPlaceholderForm name = true ∧
        (WritesName template a.name ∨ WritesInZeroForm template a.name) := by
  have hindex := Phrase.isIndex_prepare hnames (spellOut template)
  refine ⟨fun name h ↦ ?_, fun name h ↦ ?_, fun name a h ↦ ?_⟩
  · rcases nameIn_of_prepare hnames (.inl rfl) h with h | ⟨hd, -⟩
    · exact writesName_of_spellOut (.inl rfl) h
    · exact absurd hd (by decide)
  · rcases nameIn_of_prepare hnames (.inr rfl) h with h | ⟨-, a, ha, h⟩
    · exact .inl (writesName_of_spellOut (.inr rfl) h)
    · exact .inr ⟨a, lookup_of_mem hindex.1 ha, writesName_of_spellOut (.inl rfl) h⟩
  · have hmem : (name, a) ∈ (prepare names (spellOut template)).asides :=
      Table.mem_of_lookup h
    have hbegins : AtBrace (BeginsName a.name ',') (spellOut template) :=
      atBrace_of_mem_asides hnames hmem
    exact ⟨hindex.2 (name, a) hmem, writesInZeroForm_of_spellOut (.inl rfl) hbegins⟩

/-- In a template that has been prepared, an argument with a type is one of the author, and so is an
argument that was put aside. -/
theorem writesTyped_of_prepare {names : List String}
    (hnames : ∀ name ∈ names, BraceFree name.toList) (template : List Char) :
    let prepared := prepare names (spellOut template)
    (∀ name, Grammar.NameIn prepared.text ',' name → WritesTyped template name) ∧
      ∀ name a, prepared.asides.lookup name = some a → WritesTyped template a.name := by
  refine ⟨fun name h ↦ ?_, fun name a h ↦ ?_⟩
  · rcases nameIn_of_prepare hnames (.inl rfl) h with h | ⟨hd, -⟩
    · exact writesTyped_of_spellOut (h.mono fun s hs ↦ hs.1)
    · exact absurd hd (by decide)
  · exact writesTyped_of_spellOut (atBrace_of_mem_asides hnames (Table.mem_of_lookup h))

end SpelledOut

end Phrasebook
