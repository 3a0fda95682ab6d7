import Phrasebook.Proofs.Acceptance
import Phrasebook.Proofs.DirectPhrases
import Phrasebook.Proofs.Passes
import Phrasebook.Proofs.Results

/-!
Templates that are filled in without being read.

Where neither an argument with a type nor a call nor a plural in short is found in a template,
preparing it changes nothing and its message, if it has one, consists of texts and plain arguments
(`prepare_eq_self`, `Grammar.Elements.isDirect`). If moreover there is no apostrophe and every
opening brace begins a variable, the template is a message just when there are as many closing
braces as opening ones, and filling it in directly shows what its message shows
(`Renderer.tryRender_of_not_needsMessage`). A closing brace that closes nothing is shown as it was
written, though it makes the template no message (`Renderer.tryRender_closingBrace`).
-/

set_option autoImplicit false

namespace Phrasebook

open Text Template

/-! ### Nothing to prepare -/

namespace Template

/-- Where no argument of the shape begins at any brace, none occurs. -/
theorem Shape.occursIn_of_refused {α : Type} {shape : Shape α} {s : List Char}
    (h : ∀ u t, s = u ++ '{' :: t → shape.read t = none) : shape.occursIn s = false := by
  rw [occursIn]
  fun_induction pieces shape s with
  | case1 => rfl
  | case2 s a t hr _ ih =>
    rw [h [] s rfl] at hr
    cases hr
  | case3 s hr ih => simpa using ih fun u t hs ↦ h ('{' :: u) t (by rw [hs, List.cons_append])
  | case4 c s hc ih => simpa using ih fun u t hs ↦ h (c :: u) t (by rw [hs, List.cons_append])

section Typed

variable {s : List Char}

/-- Where the start of no argument with a type is found, no such argument stands. -/
theorem not_beginsTyped_of_occursIn (h : typedArgument.occursIn s = false) {u t : List Char}
    (hs : s = u ++ '{' :: t) : ¬ BeginsTyped t := by
  intro ht
  obtain ⟨x, hx⟩ := exists_read_of_beginsTyped ht
  rw [Shape.refused_of_occursIn h hs] at hx
  cases hx

theorem occursIn_of_typed {α : Type} {shape : Shape α}
    (hshape : ∀ {t x}, shape.read t = some x → BeginsTyped t)
    (h : typedArgument.occursIn s = false) : shape.occursIn s = false := by
  refine Shape.occursIn_of_refused fun u t hs ↦ ?_
  cases hr : shape.read t with
  | none => rfl
  | some x => exact absurd (hshape hr) (not_beginsTyped_of_occursIn h hs)

end Typed

theorem Prepared.putAside_of_occursIn {kind : PlaceholderKind} {shape : Shape ExtensionArgument}
    {w : Prepared} (h : shape.occursIn w.text = false) : w.putAside kind shape = w := by
  have hrest := withPlaceholders_chars kind 0 w.text []
  rw [List.append_nil] at hrest
  rw [putAside, Shape.pieces_eq_map_char h, hrest]
  simp [withPlaceholders]

/-- A template that does not need to be read has nothing to be put aside. -/
theorem prepare_eq_self {names : List String} {s : List Char}
    (h : Renderer.needsMessage names s = false) : prepare names s = ⟨s, []⟩ := by
  rw [Renderer.needsMessage, Bool.or_eq_false_iff, Bool.or_eq_false_iff] at h
  obtain ⟨⟨htyped, hcustom⟩, -⟩ := h
  have hcustom : (if names.isEmpty then (⟨s, []⟩ : Prepared)
      else (⟨s, []⟩ : Prepared).putAside .custom (customArgument names)) = ⟨s, []⟩ := by
    cases hnames : names.isEmpty with
    | true => rfl
    | false =>
      rw [callsFormatter, hnames, Bool.not_false, Bool.true_and] at hcustom
      exact Prepared.putAside_of_occursIn hcustom
  have hpass {kind : PlaceholderKind} {shape : Shape ExtensionArgument}
      (hshape : ∀ {t x}, shape.read t = some x → BeginsTyped t) :
      (⟨s, []⟩ : Prepared).putAside kind shape = ⟨s, []⟩ :=
    Prepared.putAside_of_occursIn (occursIn_of_typed hshape htyped)
  rw [prepare, hcustom, hpass beginsTyped_of_currencyArgument, hpass beginsTyped_of_compactArgument,
    hpass beginsTyped_of_relativeTimeArgument, hpass beginsTyped_of_listArgument]

end Template

/-! ### Messages without types -/

/-- A text or a plain argument. -/
def Element.isDirect : Element → Bool
  | .literal _ | .argument _ => true
  | _ => false

namespace Grammar

open Message

theorem Run.suffix {s w t : List Char} (h : Run s w t) : t <:+ s := by
  induction h with
  | unclosed => exact List.suffix_refl _
  | closed => exact List.suffix_cons _ _
  | doubled _ ih => exact (ih.trans (List.suffix_cons _ _)).trans (List.suffix_cons _ _)
  | char _ _ ih => exact ih.trans (List.suffix_cons _ _)

theorem Piece.suffix {inPlural : Bool} {s w t : List Char} (h : Piece inPlural s w t) :
    t <:+ s := by
  cases h with
  | char => exact List.suffix_cons _ _
  | doubled => exact (List.suffix_cons _ _).trans (List.suffix_cons _ _)
  | quoted _ hrun => exact hrun.suffix.trans (List.suffix_cons _ _)
  | lone => exact List.suffix_cons _ _

theorem Blanks.suffix {s t : List Char} (h : Blanks s t) : t <:+ s := by
  obtain ⟨b, -, rfl⟩ := h
  exact List.suffix_append _ _

theorem Sign.suffix {c : Char} {s t : List Char} (h : Sign c s t) : t <:+ s :=
  (List.suffix_cons c t).trans (Blanks.suffix h)

theorem Name.suffix {s t : List Char} {name : String} (h : Name s name t) : t <:+ s := by
  obtain ⟨w, -, -, -, hw⟩ := h
  exact (List.suffix_append w t).trans hw.suffix

theorem forall_mem_addText {P : Element → Prop} {w : List Char} {m : Message}
    (hliteral : ∀ s, P (.literal s)) (hm : ∀ e ∈ m, P e) : ∀ e ∈ addText w m, P e := by
  unfold addText
  split
  · exact List.forall_mem_cons.2 ⟨hliteral _, (List.forall_mem_cons.1 hm).2⟩
  · split
    · exact hm
    · exact List.forall_mem_cons.2 ⟨hliteral _, hm⟩

theorem mem_addText {w : List Char} {m : Message} {e : Element} (he : ∀ s, e ≠ .literal s)
    (hm : e ∈ m) : e ∈ addText w m := by
  unfold addText
  split
  · exact List.mem_cons_of_mem _ ((List.mem_cons.1 hm).resolve_left (he _))
  · split
    · exact hm
    · exact List.mem_cons_of_mem _ hm

/-- No argument with a type begins at any brace. -/
def Untyped (s : List Char) : Prop :=
  ∀ u t, s = u ++ '{' :: t → ¬ BeginsTyped t

/-- What holds behind every brace of a text holds behind every brace of its end. -/
theorem braces_of_suffix {p : List Char → Prop} {s t : List Char}
    (h : ∀ u r, s = u ++ '{' :: r → p r) (ht : t <:+ s) : ∀ u r, t = u ++ '{' :: r → p r := by
  obtain ⟨v, rfl⟩ := ht
  intro u r hr
  exact h (v ++ u) r (by rw [hr, List.append_assoc])

theorem Untyped.of_suffix {s t : List Char} (h : Untyped s) (ht : t <:+ s) : Untyped t :=
  braces_of_suffix h ht

theorem Untyped.not_argumentEnd {fits : Nat → Prop} {s t r : List Char} {name : String}
    {type : ArgumentType} {e : Element} (h : Untyped ('{' :: s))
    (ht : Typed s name (typeWord type) t) : ¬ ArgumentEnd fits name type t e r := by
  intro he
  obtain ⟨c, u, hc, hu⟩ := he.exists_sign
  exact h [] s rfl (ht.beginsTyped hc hu)

theorem Untyped.not_sign {s t u : List Char} {name : String} {type : ArgumentType}
    (h : Untyped ('{' :: s)) (ht : Typed s name (typeWord type) t) : ¬ Sign ',' t u :=
  fun hu ↦ h [] s rfl (ht.beginsTyped (.inl rfl) hu)

section Untyped

variable {fits : Nat → Prop}

/-- A message in which no argument has a type consists of texts and plain arguments. -/
theorem Elements.isDirect {inPlural : Bool} {s r : List Char} {m : Message}
    (h : Elements fits inPlural s m r) (hplural : inPlural = false) (hs : Untyped s) :
    ∀ e ∈ m, e.isDirect = true :=
  match h with
  | .stop _ => by simp
  | .text hp hm => forall_mem_addText (fun _ ↦ rfl) (hm.isDirect hplural (hs.of_suffix hp.suffix))
  | .pound _ => absurd hplural (by decide)
  | .argument (.plain hname hsign) hm => by
    have hsuffix := (hsign.suffix.trans hname.suffix).trans (List.suffix_cons '{' _)
    exact List.forall_mem_cons.2 ⟨rfl, hm.isDirect hplural (hs.of_suffix hsuffix)⟩
  | .argument (.typed ht he) _ => absurd he (hs.not_argumentEnd ht)
termination_by structural h

/-- Where no argument has a type, no offset is too long. -/
theorem LongOffset.not_untyped {inPlural : Bool} {s : List Char} {n : Nat}
    (h : LongOffset inPlural s n) (hplural : inPlural = false) (hs : Untyped s) : False :=
  match h with
  | .text hp hn => hn.not_untyped hplural (hs.of_suffix hp.suffix)
  | .pound _ => absurd hplural (by decide)
  | .argument (.plain hname hsign) hn =>
    have hsuffix := (hsign.suffix.trans hname.suffix).trans (List.suffix_cons '{' _)
    hn.not_untyped hplural (hs.of_suffix hsuffix)
  | .argument (.typed ht he) _ => hs.not_argumentEnd ht he
  | .inArgument (.here ht hu _ _) => hs.not_sign ht hu
  | .inArgument (.plural ht hu _ _) => hs.not_sign ht hu
  | .inArgument (.select ht hu _) => hs.not_sign ht hu
termination_by structural h

end Untyped

end Grammar

/-! ### Variables in braces -/

open Phrase (IsWordName)

/-- A variable in braces is a word. -/
theorem append_of_plainVariable {name : String} {s t : List Char}
    (h : plainVariable.read s = some (name, t)) :
    IsWordName name ∧ s = name.toList ++ '}' :: t := by
  obtain ⟨w, t₁, hw, h⟩ := Reader.exists_of_bind h
  obtain ⟨_, t₂, hclose, h⟩ := Reader.exists_of_bind h
  obtain ⟨rfl, rfl⟩ := Prod.mk.inj (Option.some.inj h)
  obtain ⟨hne, hword, rfl⟩ := Reader.append_of_run hw
  obtain rfl := Reader.append_of_exactly hclose
  rw [IsWordName, String.toList_ofList]
  exact ⟨⟨hne, hword⟩, rfl⟩

/-- Every opening brace begins a variable: a word and the closing brace. -/
def PlainBraces (s : List Char) : Prop :=
  ∀ u t, s = u ++ '{' :: t → ∃ name v, IsWordName name ∧ t = name.toList ++ '}' :: v

/-- A row of characters and variables in braces. -/
inductive VariableRow : List Char → Prop
  | nil : VariableRow []
  | char {c : Char} {s : List Char} : c ≠ '{' → VariableRow s → VariableRow (c :: s)
  | braces {name : String} {s : List Char} : IsWordName name → VariableRow s →
      VariableRow ('{' :: (name.toList ++ '}' :: s))

theorem PlainBraces.of_suffix {s t : List Char} (h : PlainBraces s) (ht : t <:+ s) :
    PlainBraces t :=
  Grammar.braces_of_suffix h ht

theorem PlainBraces.variableRow {s : List Char} (h : PlainBraces s) : VariableRow s := by
  induction hn : s.length using Nat.strong_induction_on generalizing s with
  | h n ih =>
    cases s with
    | nil => exact .nil
    | cons c s =>
      by_cases hc : c = '{'
      · subst hc
        obtain ⟨name, t, hname, rfl⟩ := h [] s rfl
        have hsuffix : t <:+ '{' :: (name.toList ++ '}' :: t) :=
          ((List.suffix_cons _ _).trans (List.suffix_append _ _)).trans (List.suffix_cons _ _)
        refine .braces hname (ih t.length ?_ (h.of_suffix hsuffix) rfl)
        rw [← hn]
        simp only [List.length_cons, List.length_append]
        omega
      · refine .char hc (ih s.length ?_ (h.of_suffix (List.suffix_cons _ _)) rfl)
        rw [← hn, List.length_cons]
        exact Nat.lt_succ_self _

namespace VariableRow

theorem append {w s : List Char} (h : VariableRow s) (hw : '{' ∉ w) : VariableRow (w ++ s) := by
  induction w with
  | nil => exact h
  | cons c w ih =>
    rw [List.mem_cons, not_or] at hw
    exact .char (Ne.symm hw.1) (ih hw.2)

theorem plainBraces {s : List Char} (h : VariableRow s) : PlainBraces s := by
  induction h with
  | nil => exact fun u t hs ↦ absurd hs (by simp)
  | char hc _ ih =>
    intro u t hs
    cases u with
    | nil => exact absurd (List.cons.inj hs).1 hc
    | cons d u => exact ih u t (List.cons.inj hs).2
  | @braces name s hname _ ih =>
    intro u t hs
    cases u with
    | nil => exact ⟨name, s, hname, (List.cons.inj hs).2.symm⟩
    | cons d u =>
      have hinside : (name.toList ++ ['}']) ++ s = u ++ '{' :: t := by
        simpa using (List.cons.inj hs).2
      rcases List.append_eq_append_iff.1 hinside with ⟨v, rfl, hv⟩ | ⟨v, hv, hs'⟩
      · exact ih v t hv
      · cases v with
        | nil => exact ih [] t hs'.symm
        | cons e v =>
          obtain ⟨rfl, -⟩ := List.cons.inj hs'
          have hmem : '{' ∈ name.toList ++ ['}'] := by simp [hv]
          rcases List.mem_append.1 hmem with hmem | hmem
          · exact absurd (hname.2 _ hmem) (by decide)
          · exact absurd (List.mem_singleton.1 hmem) (by decide)

open Grammar Message

variable {s : List Char} {fits : Nat → Prop}

theorem count_braces {name : String} (hname : IsWordName name) (s : List Char) :
    ('{' :: (name.toList ++ '}' :: s)).count '{' = s.count '{' + 1 ∧
      ('{' :: (name.toList ++ '}' :: s)).count '}' = s.count '}' + 1 := by
  have hopen : '{' ∉ name.toList := fun h ↦ absurd (hname.2 _ h) (by decide)
  have hclose : '}' ∉ name.toList := fun h ↦ absurd (hname.2 _ h) (by decide)
  constructor
  · rw [List.count_cons_self, List.count_append, List.count_eq_zero.2 hopen, Nat.zero_add,
      List.count_cons_of_ne (by decide)]
  · rw [List.count_cons_of_ne (by decide), List.count_append, List.count_eq_zero.2 hclose,
      Nat.zero_add, List.count_cons_self]

/-- Every variable has its closing brace. -/
theorem count_le (h : VariableRow s) : s.count '{' ≤ s.count '}' := by
  induction h with
  | nil => exact Nat.le_refl _
  | char hc _ ih =>
    rw [List.count_cons_of_ne hc]
    exact ih.trans List.count_le_count_cons
  | @braces name s hname _ ih =>
    rw [(count_braces hname s).1, (count_braces hname s).2]
    exact Nat.succ_le_succ ih

/-! #### The message of a row -/

theorem argument_braces {name : String} (hname : IsWordName name) (s : List Char) :
    Argument fits (name.toList ++ '}' :: s) (.argument name) s :=
  .plain ⟨name.toList, hname.1, fun c hc ↦ isNameChar_of_isWord (hname.2 c hc),
    String.ofList_toList.symm, Blanks.refl _⟩ (Sign.of_cons _ _)

theorem piece_char {c : Char} (hopen : c ≠ '{') (hclose : c ≠ '}') (hapostrophe : c ≠ '\'')
    (s : List Char) : Piece false (c :: s) [c] s :=
  .char hapostrophe fun h ↦ by
    rcases h with h | h | ⟨h, -⟩
    · exact hopen h
    · exact hclose h
    · cases h

/-- A message that begins with a character other than an opening brace and an apostrophe. -/
theorem exists_of_elements_char {c : Char} {m : Message} (hopen : c ≠ '{')
    (hapostrophe : c ≠ '\'') (h : Elements fits false (c :: s) m []) :
    c ≠ '}' ∧ ∃ m', Elements fits false s m' [] ∧ m = addText [c] m' := by
  cases h with
  | text hp hm =>
    obtain ⟨d, u, hd, -, hclose, -⟩ := hp.head
    obtain ⟨rfl, -⟩ := List.cons.inj hd
    obtain ⟨rfl, rfl⟩ := hp.unique (piece_char hopen hclose hapostrophe s)
    exact ⟨hclose, _, hm, rfl⟩
  | argument => exact absurd rfl hopen

theorem exists_of_elements_braces {name : String} {m : Message} (hname : IsWordName name)
    (h : Elements fits false ('{' :: (name.toList ++ '}' :: s)) m []) :
    ∃ m', Elements fits false s m' [] ∧ m = .argument name :: m' := by
  cases h with
  | text hp =>
    obtain ⟨d, u, hd, hopen, -⟩ := hp.head
    exact absurd (List.cons.inj hd).1.symm hopen
  | argument he hm =>
    obtain ⟨rfl, rfl⟩ := he.unique (argument_braces hname s)
    exact ⟨_, hm, rfl⟩

/-- A message has a closing brace for every opening one. -/
theorem count_eq {m : Message} (h : VariableRow s) (hapostrophe : '\'' ∉ s)
    (hm : Elements fits false s m []) : s.count '{' = s.count '}' := by
  induction h generalizing m with
  | nil => rfl
  | @char c s hc _ ih =>
    rw [List.mem_cons, not_or] at hapostrophe
    obtain ⟨hclose, m', hm', -⟩ := exists_of_elements_char hc (Ne.symm hapostrophe.1) hm
    rw [List.count_cons_of_ne hc, List.count_cons_of_ne hclose]
    exact ih hapostrophe.2 hm'
  | @braces name s hname _ ih =>
    obtain ⟨m', hm', -⟩ := exists_of_elements_braces hname hm
    rw [(count_braces hname s).1, (count_braces hname s).2, ih (by simp_all) hm']

/-- A row with a closing brace for every opening one is a message. -/
theorem exists_elements (h : VariableRow s) (hapostrophe : '\'' ∉ s)
    (hcount : s.count '{' = s.count '}') : ∃ m, Elements fits false s m [] := by
  induction h with
  | nil => exact ⟨[], .stop (by simp)⟩
  | @char c s hc hrow ih =>
    rw [List.mem_cons, not_or] at hapostrophe
    have hclose : c ≠ '}' := by
      rintro rfl
      rw [List.count_cons_of_ne hc, List.count_cons_self] at hcount
      have := hrow.count_le
      omega
    rw [List.count_cons_of_ne hc, List.count_cons_of_ne hclose] at hcount
    obtain ⟨m, hm⟩ := ih hapostrophe.2 hcount
    exact ⟨_, .text (piece_char hc hclose (Ne.symm hapostrophe.1) s) hm⟩
  | @braces name s hname _ ih =>
    rw [(count_braces hname s).1, (count_braces hname s).2] at hcount
    obtain ⟨m, hm⟩ := ih (by simp_all) (Nat.succ.inj hcount)
    exact ⟨_, .argument (argument_braces hname s) hm⟩

/-! #### Filling a row -/

open Outline

variable {missing : String → Except CallFault String} {scene : Scene}

/-- A plain argument is shown as the value of its variable, unless it is missing and has a name in
the form of a placeholder, which may be shown another way. -/
theorem fill_argument {name : String} (hasides : scene.asides = [])
    (hmissing : ∀ value, scene.values = .named value → (value name).isAbsent = true →
      hasPlaceholderForm name = true → missing name = .ok (inBraces name)) :
    fill missing (scene.argument name) =
      fill missing (scene.withValue name (Scene.plain name)) := by
  rw [Scene.argument, hasides, List.lookup_nil, Scene.withValue, Scene.withValue]
  cases hvalues : scene.values with
  | nameless => rfl
  | named value =>
    dsimp only
    split
    · rename_i h
      obtain ⟨habsent, hform⟩ := Bool.and_eq_true_iff.1 h
      have hhole : fill missing [.hole name] = fill missing [.text .template (inBraces name)] := by
        simp only [fill, hmissing value hvalues habsent hform]
      rw [Scene.plain, if_pos habsent, hhole]
    · rfl

theorem simple_char {c : Char} (hc : c ≠ '{') (s : List Char) :
    scene.simple (c :: s) = .text .template (String.singleton c) :: scene.simple s := by
  rw [Phrase.simple_eq, Phrase.simple_eq, Shape.pieces_cons _ hc]
  rfl

theorem simple_braces {name : String} (hname : IsWordName name) (s : List Char) :
    scene.simple ('{' :: (name.toList ++ '}' :: s)) =
      scene.withValue name (Scene.plain name) ++ scene.simple s := by
  have hread : plainVariable.read (name.toList ++ '}' :: s) = some (name, s) := by
    rw [Shape.read_group Phrase.closes_plainVariable (braceFree_of_isWord hname.2),
      Phrase.found?_plainVariable hname]
    rfl
  rw [Phrase.simple_eq, Phrase.simple_eq, Shape.pieces_of_read _ hread]
  rfl

/-- Filling a row in directly shows what its message shows. -/
theorem fill_simple {m : Message} (h : VariableRow s) (hapostrophe : '\'' ∉ s)
    (hm : Elements fits false s m []) (hasides : scene.asides = [])
    (hmissing : ∀ name value, .argument name ∈ m → scene.values = .named value →
      (value name).isAbsent = true → hasPlaceholderForm name = true →
        missing name = .ok (inBraces name)) :
    fill missing (scene.simple s) = fill missing (scene.message none m) := by
  induction h generalizing m with
  | nil =>
    cases hm with
    | stop =>
      rw [Phrase.simple_eq, Shape.pieces, Scene.message]
      rfl
    | text hp => obtain ⟨c, u, hu, -⟩ := hp.head; cases hu
  | @char c s hc _ ih =>
    rw [List.mem_cons, not_or] at hapostrophe
    obtain ⟨-, m', hm', rfl⟩ := exists_of_elements_char hc (Ne.symm hapostrophe.1) hm
    have hrest := ih hapostrophe.2 hm' fun name value hmem ↦
      hmissing name value (mem_addText (by simp) hmem)
    rw [simple_char hc, Phrase.same_addText scene none m' missing, fill, fill, hrest]
    rfl
  | @braces name s hname _ ih =>
    obtain ⟨m', hm', rfl⟩ := exists_of_elements_braces hname hm
    have hfirst := fill_argument hasides fun value ↦ hmissing name value List.mem_cons_self
    have hrest := ih (by simp_all) hm' fun name' value hmem ↦
      hmissing name' value (List.mem_cons_of_mem _ hmem)
    rw [simple_braces hname, Scene.message, Scene.element, fill_append, fill_append, hfirst, hrest]

end VariableRow

namespace Renderer

open Message

/-- A template that does not need to be read is its own prepared form, and is a message of texts and
plain arguments or no message. Without apostrophes, and with braces around variables only, it is one
just when there is a closing brace for every opening one; then it is shown as its message is, unless
the program shows a missing value whose name has the form of a placeholder in a way of its own. -/
theorem tryRender_of_not_needsMessage (r : Renderer) (template : String)
    (h : needsMessage r.roster.names template.toList = false) :
    spellOut template.toList = template.toList ∧
    prepare r.roster.names template.toList = ⟨template.toList, []⟩ ∧
    ((∃ m, Message.parse template = .ok m ∧ ∀ e ∈ m, e.isDirect = true) ∨
      ∃ e, Message.parse template = .error (.notMessage e)) ∧
    ('\'' ∉ template.toList → PlainBraces template.toList →
      ((∃ m, Message.parse template = .ok m) ↔
        template.toList.count '{' = template.toList.count '}') ∧
      ∀ m, Message.parse template = .ok m → ∀ clock values locale,
        (r.settings.missingVariable = none ∨ ∀ name value, .argument name ∈ m →
          values = .named value → (value name).isAbsent = true → hasPlaceholderForm name = false) →
        r.tryRender clock template values locale =
          (r, ((r.scene clock values (r.settings.localeOr locale)).message none m).fill
            (r.missing (r.settings.localeOr locale)))) := by
  have hneeds := h
  rw [needsMessage, Bool.or_eq_false_iff, Bool.or_eq_false_iff] at h
  have huntyped : Grammar.Untyped template.toList := fun _ _ ↦ not_beginsTyped_of_occursIn h.1.1
  refine ⟨Shape.replace_eq_self h.2, prepare_eq_self hneeds, ?_, fun hapostrophe hbraces ↦ ?_⟩
  · cases hp : Message.parse template with
    | ok m =>
      exact .inl ⟨m, rfl, (Grammar.elements_of_parse hp).isDirect rfl huntyped⟩
    | error f =>
      cases f with
      | notMessage e => exact .inr ⟨e, rfl⟩
      | longOffset l =>
        exact ((Grammar.hasLongOffset_of_parse hp).not_untyped rfl huntyped).elim
  · have hrow := hbraces.variableRow
    refine ⟨⟨?_, fun hcount ↦ ?_⟩, fun m hp clock values locale hmissing ↦ ?_⟩
    · rintro ⟨m, hm⟩
      exact hrow.count_eq hapostrophe (Grammar.elements_of_parse hm)
    · obtain ⟨m, hm⟩ := hrow.exists_elements hapostrophe hcount
      exact ⟨m, Grammar.parse_of_elements hm⟩
    · let scene := r.scene clock values (r.settings.localeOr locale)
      let missing := r.missing (r.settings.localeOr locale)
      have hform (name : String) (value : String → Value) (hmem : .argument name ∈ m)
          (hvalues : values = .named value) (habsent : (value name).isAbsent = true)
          (hform : hasPlaceholderForm name = true) : missing name = .ok (inBraces name) := by
        rcases hmissing with hnone | hnone
        · exact missing_of_none hnone _ name
        · rw [hnone name value hmem hvalues habsent] at hform
          cases hform
      have hfill : (scene.simple template.toList).fill missing =
          (scene.message none m).fill missing :=
        hrow.fill_simple hapostrophe (Grammar.elements_of_parse hp) rfl hform
      rw [← hfill]
      simp only [tryRender, outline, hneeds, Bool.not_false, if_true, Answer.after, List.nil_append]
      rfl

/-- A greeting, and a name in the form of a placeholder for which there is no value. -/
def greeting : String := "Hello {name}, {__LIST_0__}!"

theorem plainBraces_greeting : PlainBraces greeting.toList := by
  have hname : IsWordName "name" := by decide
  have hlist : IsWordName "__LIST_0__" := by decide
  have hend : VariableRow ['!'] := .char (by decide) .nil
  have hrow := ((VariableRow.braces hlist hend).append (w := [',', ' ']) (by decide)).braces hname
  exact (hrow.append (w := "Hello ".toList) (by decide)).plainBraces

/-- The message of the greeting is shown as it is filled in: the name in the form of a placeholder
is left as it was written. -/
theorem tryRender_greeting :
    let r := ofSettings {} {}
    let values := Values.ofList [("name", .text "Ada")]
    needsMessage [] greeting.toList = false ∧ ∃ m, Message.parse greeting = .ok m ∧
      (((r.scene default values "en").message none m).fill (r.missing "en")).result =
        .ok "Hello Ada, \x7b__LIST_0__\x7d!" := by
  intro r values
  have hneeds : needsMessage [] greeting.toList = false := by decide +kernel
  obtain ⟨-, -, -, hplain⟩ := tryRender_of_not_needsMessage r greeting hneeds
  obtain ⟨hcount, hshown⟩ := hplain (by decide +kernel) plainBraces_greeting
  obtain ⟨m, hm⟩ := hcount.2 (by decide +kernel)
  have hdirect : (r.tryRender default greeting values none).2.result =
      .ok "Hello Ada, \x7b__LIST_0__\x7d!" := by
    decide +kernel
  rw [hshown m hm default values none (.inl rfl)] at hdirect
  exact ⟨hneeds, m, hm, hdirect⟩

/-- A closing brace that closes nothing is filled in directly, and it is no message. -/
theorem tryRender_closingBrace :
    needsMessage [] ['}'] = false ∧ '\'' ∉ ['}'] ∧ PlainBraces ['}'] ∧
      ((ofSettings {} {}).tryRender default "\x7d" .none none).2.result = .ok "\x7d" ∧
      ∃ e : SyntaxError, e.message = "unmatched closing brace at position 0 in '\x7d'" ∧
        Message.parse "\x7d" = .error (.notMessage e) := by
  have hbraces : PlainBraces ['}'] := (VariableRow.char (by decide) .nil).plainBraces
  have hparse : ((Message.parse "\x7d").map fun _ ↦ ()) =
      .error (.notMessage ⟨.unmatchedBrace, 0, "\x7d"⟩) := by
    decide +kernel
  refine ⟨by decide +kernel, by decide, hbraces, by decide +kernel, ⟨.unmatchedBrace, 0, "\x7d"⟩,
    by decide +kernel, ?_⟩
  cases hp : Message.parse "\x7d" with
  | ok m =>
    rw [hp] at hparse
    cases hparse
  | error f =>
    rw [hp] at hparse
    cases hparse
    rfl

end Renderer

end Phrasebook
