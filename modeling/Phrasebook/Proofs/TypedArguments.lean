import Phrasebook.Proofs.Finding
import Phrasebook.Proofs.Lexemes

/-!
Arguments with a type are found by their start.

`BeginsTyped` says what stands after the opening brace of an argument with a type. The shape of such
arguments takes every text of this form (`exists_read_of_beginsTyped`), and both the arguments
beyond the message format (`beginsTyped_of_currencyArgument` and its siblings) and the arguments
that the grammar of messages gives a type (`Grammar.Typed.beginsTyped`) are of this form. The
grammar has fewer blanks and fewer names than the shape, so no argument with a type is overlooked.
-/

set_option autoImplicit false

namespace Phrasebook

open Text

open Phrase (IsWordName)

namespace Template

open Reader

/-! ### What readers took -/

/-- White space, perhaps none, and then `t`. -/
def White (s t : List Char) : Prop :=
  ∃ b : List Char, (∀ c ∈ b, isBlank c = true) ∧ s = b ++ t

section White

variable {s t w : List Char} {c : Char}

theorem White.refl (s : List Char) : White s s :=
  ⟨[], by simp, rfl⟩

theorem White.blanks_eq (h : White s t) (ht : ∀ c ∈ t.head?, isBlank c = false) :
    blanks s = some ((), t) := by
  obtain ⟨b, hb, rfl⟩ := h
  rw [blanks, dropWhile_append_stop hb ht]

theorem White.blanks_cons (h : White s (c :: t)) (hc : isBlank c = false) :
    blanks s = some ((), c :: t) :=
  h.blanks_eq fun d hd ↦ by rwa [← Option.mem_some.1 hd]

theorem white_dropWhile (s : List Char) : White s (s.dropWhile isBlank) :=
  ⟨s.takeWhile isBlank, fun _ hc ↦ List.mem_takeWhile_imp hc, List.takeWhile_append_dropWhile.symm⟩

/-- Before a sign stands white space only. -/
theorem White.head (h : White s (c :: t)) : ∀ d ∈ s.head?, isBlank d = true ∨ d = c := by
  obtain ⟨b, hb, rfl⟩ := h
  intro d hd
  cases b with
  | nil => exact .inr (Option.mem_some.1 hd).symm
  | cons e b => exact .inl (Option.mem_some.1 hd ▸ hb e List.mem_cons_self)

theorem White.unique (h : White s t) (h' : White s w) (ht : ∀ c ∈ t.head?, isBlank c = false)
    (hw : ∀ c ∈ w.head?, isBlank c = false) : t = w :=
  (Prod.mk.inj (Option.some.inj ((h.blanks_eq ht).symm.trans (h'.blanks_eq hw)))).2

/-- A text begins with one word only. -/
theorem White.word_unique {name name' : String} {u u' : List Char} (hname : IsWordName name)
    (hname' : IsWordName name') (h : White s (name.toList ++ u)) (h' : White s (name'.toList ++ u'))
    (hu : EndsWord u) (hu' : EndsWord u') : u = u' := by
  have he := h.unique h' (hname.head_blank u) (hname'.head_blank u')
  rw [← dropWhile_append_stop hname.2 hu, he, dropWhile_append_stop hname'.2 hu']

/-- White space and a sign end a row of characters of a class that has neither. -/
theorem White.head_class {p : Char → Bool} (h : White s (c :: t))
    (hblank : ∀ d, isBlank d = true → p d = false) (hc : p c = false) :
    ∀ d ∈ s.head?, p d = false := by
  intro d hd
  rcases h.head d hd with hd | rfl
  · exact hblank d hd
  · exact hc

theorem White.endsWord (h : White s (c :: t)) (hc : isWord c = false) : EndsWord s := by
  refine h.head_class (fun d hd ↦ ?_) hc
  by_contra hword
  rw [isBlank_eq_false_of_isWord (Bool.of_not_eq_false hword)] at hd
  cases hd

end White

namespace Reader

variable {α β : Type} {r : Reader α} {f : α → Reader β} {s t : List Char} {x : β × List Char}

/-- What two readers take one after the other. -/
theorem exists_of_bind (h : (r >>= f) s = some x) : ∃ a t, r s = some (a, t) ∧ f a t = some x := by
  obtain ⟨⟨a, t⟩, ha, hx⟩ := Option.bind_eq_some_iff.1 h
  exact ⟨a, t, ha, hx⟩

theorem white_of_blanks {u : Unit} (h : blanks s = some (u, t)) : White s t := by
  obtain ⟨-, rfl⟩ := Prod.mk.inj (Option.some.inj h)
  exact white_dropWhile s

theorem append_of_exactly {w : List Char} {u : Unit} (h : exactly w s = some (u, t)) :
    s = w ++ t := by
  obtain ⟨v, hv, he⟩ := Option.map_eq_some_iff.1 h
  obtain ⟨-, rfl⟩ := Prod.mk.inj he
  exact append_of_after? hv

theorem append_of_run {p : Char → Bool} {w : List Char} (h : run p s = some (w, t)) :
    w ≠ [] ∧ (∀ c ∈ w, p c = true) ∧ s = w ++ t := by
  rw [run] at h
  split at h
  · cases h
  · rename_i hne
    obtain ⟨rfl, rfl⟩ := Prod.mk.inj (Option.some.inj h)
    exact ⟨by simpa using hne, fun _ hc ↦ List.mem_takeWhile_imp hc,
      List.takeWhile_append_dropWhile.symm⟩

/-- The variable of an argument, with what stands around it. -/
theorem exists_of_variableName {name : String} (h : variableName s = some (name, t)) :
    IsWordName name ∧ ∃ u, White s (name.toList ++ u) ∧ White u (',' :: t) := by
  obtain ⟨_, s₁, h₁, h⟩ := exists_of_bind h
  obtain ⟨w, s₂, h₂, h⟩ := exists_of_bind h
  obtain ⟨_, s₃, h₃, h⟩ := exists_of_bind h
  obtain ⟨_, s₄, h₄, h⟩ := exists_of_bind h
  obtain ⟨hname, rfl⟩ := Prod.mk.inj (Option.some.inj h)
  obtain ⟨hne, hword, rfl⟩ := append_of_run h₂
  obtain rfl := append_of_exactly h₄
  have hlist : name.toList = w := by rw [← hname, String.toList_ofList]
  rw [IsWordName, hlist]
  exact ⟨⟨hne, hword⟩, s₂, white_of_blanks h₁, white_of_blanks h₃⟩

/-- A keyword with the white space before it. -/
theorem white_of_keyword {ws : List String} {k : String} (h : keyword ws s = some (k, t)) :
    k ∈ ws ∧ White s (k.toList ++ t) := by
  obtain ⟨_, s₁, h₁, h⟩ := exists_of_bind h
  obtain ⟨w, hmem, hw⟩ := List.exists_of_findSome?_eq_some h
  obtain ⟨u, hu, he⟩ := Option.map_eq_some_iff.1 hw
  obtain ⟨rfl, rfl⟩ := Prod.mk.inj he
  rw [← append_of_after? hu]
  exact ⟨hmem, white_of_blanks h₁⟩

end Reader

/-! ### The start of an argument with a type -/

/-- What stands after the opening brace of an argument with a type: a name, a comma, a word for a
type, and a comma or the closing brace, with white space between them. -/
def BeginsTyped (s : List Char) : Prop :=
  ∃ (name s₁ s₂ : List Char) (word : String) (s₃ : List Char) (c : Char) (t : List Char),
    (name ≠ [] ∧ ∀ d ∈ name, isLooseNameChar d = true) ∧ word ∈ typeWords ∧ (c = ',' ∨ c = '}') ∧
      White s (name ++ s₁) ∧ White s₁ (',' :: s₂) ∧ White s₂ (word.toList ++ s₃) ∧ White s₃ (c :: t)

/-- No white space, brace or comma belongs to a name. -/
theorem classes_of_isLooseNameChar {c : Char} (h : isLooseNameChar c = true) :
    isBlank c = false ∧ c ≠ ',' := by
  simp only [isLooseNameChar, Bool.and_eq_true, Bool.not_eq_true', bne_iff_ne] at h
  exact ⟨h.1.1.1, h.2⟩

theorem isLooseNameChar_of_isWord {c : Char} (h : isWord c = true) : isLooseNameChar c = true := by
  have hopen : c ≠ '{' := ne_of_isWord h
  have hclose : c ≠ '}' := ne_of_isWord h
  have hcomma : c ≠ ',' := ne_of_isWord h
  simp [isLooseNameChar, isBlank_eq_false_of_isWord h, hopen, hclose, hcomma]

theorem isLetter_eq_false_of_isBlank {c : Char} (h : isBlank c = true) : isLetter c = false := by
  by_contra hc
  rw [isBlank_eq_false_of_isWord (isWord_of_isLetter (Bool.of_not_eq_false hc))] at h
  cases h

/-- White space and a comma end a name. -/
theorem White.not_isLooseNameChar {s t : List Char} (h : White s (',' :: t)) :
    ∀ c ∈ s.head?, isLooseNameChar c = false :=
  h.head_class (fun d hd ↦ by simp [isLooseNameChar, hd]) (by decide)

/-- An argument with a type is found by its start. -/
theorem exists_read_of_beginsTyped {s : List Char} (h : BeginsTyped s) :
    ∃ x, typedArgument.read s = some x := by
  obtain ⟨name, s₁, s₂, word, s₃, c, t, ⟨hne, hloose⟩, hword, hc, hs, hs₁, hs₂, hs₃⟩ := h
  obtain ⟨a, name', rfl⟩ := List.exists_cons_of_ne_nil hne
  have hstart : blanks s = some ((), (a :: name') ++ s₁) :=
    hs.blanks_cons (classes_of_isLooseNameChar (hloose a (by simp))).1
  have hrun : run isLooseNameChar ((a :: name') ++ s₁) = some (a :: name', s₁) := by
    have hstop := hs₁.not_isLooseNameChar
    rw [run, takeWhile_append_stop hloose hstop, dropWhile_append_stop hloose hstop]
    rfl
  have hcommaBlanks : blanks s₁ = some ((), ',' :: s₂) := hs₁.blanks_cons (by decide)
  have hcomma : comma (',' :: s₂) = some ((), s₂) := rfl
  have hletters : ∀ d ∈ word.toList, isLetter d = true :=
    (by decide +kernel : ∀ w ∈ typeWords, ∀ d ∈ w.toList, isLetter d = true) word hword
  have hwordName : IsWordName word :=
    (by decide +kernel : ∀ w ∈ typeWords, IsWordName w) word hword
  have hspace : blanks s₂ = some ((), word.toList ++ s₃) := hs₂.blanks_eq (hwordName.head_blank s₃)
  have htype : typeWord (word.toList ++ s₃) = some ((), s₃) := by
    have hstop : ∀ d ∈ s₃.head?, isLetter d = false :=
      hs₃.head_class (fun _ ↦ isLetter_eq_false_of_isBlank) (by rcases hc with rfl | rfl <;> decide)
    have hrun : run isLetter (word.toList ++ s₃) = some (word.toList, s₃) := by
      rw [run, takeWhile_append_stop hletters hstop, dropWhile_append_stop hletters hstop, if_neg]
      simpa using hwordName.1
    have hcontains : typeWords.contains word = true := by simpa using hword
    rw [typeWord, bind_of_some hrun, String.ofList_toList, if_pos hcontains]
    rfl
  have hend : blanks s₃ = some ((), c :: t) :=
    hs₃.blanks_cons (by rcases hc with rfl | rfl <;> decide)
  obtain ⟨w, hsign⟩ : ∃ w, oneOf [",", "\x7d"] (c :: t) = some (w, t) := by
    rcases hc with rfl | rfl
    · exact ⟨_, rfl⟩
    · exact ⟨_, rfl⟩
  refine ⟨((), t), ?_⟩
  rw [typedArgument]
  dsimp only
  rw [bind_of_some hstart, bind_of_some hrun, bind_of_some hcommaBlanks, bind_of_some hcomma,
    bind_of_some hspace, bind_of_some htype, bind_of_some hend, bind_of_some hsign]
  rfl

/-! ### Arguments beyond the message format -/

/-- What the reader takes begins with a comma or the closing brace. -/
def TakesDetail {α : Type} (r : Reader α) : Prop :=
  ∀ s x, r s = some x → ∃ c t, s = c :: t ∧ (c = ',' ∨ c = '}')

theorem takesDetail_close {α : Type} (a : α) : TakesDetail (close >>= fun _ ↦ pure a) := by
  intro s x h
  obtain ⟨_, t, hclose, -⟩ := exists_of_bind h
  exact ⟨'}', t, append_of_exactly hclose, .inr rfl⟩

theorem takesDetail_optionalPart {α β : Type} {r : Reader α} {f : Option α → Reader β}
    (hf : ∀ o, TakesDetail (f o)) : TakesDetail (optionalPart r >>= f) := by
  intro s x h
  by_cases hs : ∀ c ∈ s.head?, c ≠ ','
  · rw [bind_of_some (optionalPart_of_head hs)] at h
    exact hf none s x h
  · push Not at hs
    obtain ⟨c, hc, rfl⟩ := hs
    obtain ⟨t, rfl⟩ := List.head?_eq_some_iff.1 (Option.mem_def.1 hc)
    exact ⟨',', t, rfl, .inl rfl⟩

section Extension

variable {α : Type} {shape : Shape α} {s : List Char} {x : ExtensionArgument × List Char}

/-- An argument under a word for a type has a type. -/
theorem beginsTyped_of_read {ws : List String} {g : String → String → Reader α}
    (hread : shape.read = variableName >>= fun name ↦ keyword ws >>= fun k ↦ blanks >>= fun _ ↦
      g name k)
    (hws : ∀ w ∈ ws, w ∈ typeWords) (hg : ∀ name k, TakesDetail (g name k))
    {x : α × List Char} (h : shape.read s = some x) : BeginsTyped s := by
  rw [hread] at h
  obtain ⟨name, s₂, hname, h⟩ := exists_of_bind h
  obtain ⟨k, s₃, hk, h⟩ := exists_of_bind h
  obtain ⟨_, s₄, hblanks, h⟩ := exists_of_bind h
  obtain ⟨hword, s₁, hs, hs₁⟩ := exists_of_variableName hname
  obtain ⟨hmem, hs₂⟩ := white_of_keyword hk
  obtain ⟨c, t, rfl, hc⟩ := hg name k _ _ h
  exact ⟨name.toList, s₁, s₂, k, s₃, c, t,
    ⟨hword.1, fun d hd ↦ isLooseNameChar_of_isWord (hword.2 d hd)⟩, hws k hmem, hc, hs, hs₁, hs₂,
    white_of_blanks hblanks⟩

theorem beginsTyped_of_currencyArgument (h : currencyArgument.read s = some x) : BeginsTyped s :=
  beginsTyped_of_read rfl (by decide)
    (fun _ _ ↦ takesDetail_optionalPart fun _ ↦ takesDetail_close _) h

theorem beginsTyped_of_compactArgument (h : compactArgument.read s = some x) : BeginsTyped s :=
  beginsTyped_of_read rfl (by decide) (fun _ _ ↦ takesDetail_close _) h

theorem beginsTyped_of_relativeTimeArgument (h : relativeTimeArgument.read s = some x) :
    BeginsTyped s :=
  beginsTyped_of_read rfl (by decide)
    (fun _ _ ↦ takesDetail_optionalPart fun _ ↦ takesDetail_close _) h

theorem beginsTyped_of_listArgument (h : listArgument.read s = some x) : BeginsTyped s :=
  beginsTyped_of_read rfl (by decide)
    (fun _ _ ↦ takesDetail_optionalPart fun _ ↦ takesDetail_optionalPart fun _ ↦
      takesDetail_close _) h

end Extension

end Template

/-! ### Arguments of the grammar -/

namespace Grammar

open Message Template

/-- Every name of the grammar is one before it is known to be one. -/
theorem isLooseNameChar_of_isNameChar {c : Char} (h : isNameChar c = true) :
    isLooseNameChar c = true := by
  simp only [isNameChar, Bool.and_eq_true, Bool.not_eq_true', List.contains_eq_mem,
    decide_eq_false_iff_not, List.mem_cons, List.not_mem_nil, not_or] at h
  simp [isLooseNameChar, h.1, h.2]

theorem Blanks.white {s t : List Char} (h : Blanks s t) : White s t := by
  obtain ⟨b, hb, rfl⟩ := h
  refine ⟨b, fun c hc ↦ ?_, rfl⟩
  rcases isSpace_cases (hb c hc) with rfl | rfl | rfl | rfl <;> decide

/-- After the type stands a comma or the closing brace. -/
theorem ArgumentEnd.exists_sign {fits : Nat → Prop} {name : String} {type : ArgumentType}
    {s r : List Char} {e : Element} (h : ArgumentEnd fits name type s e r) :
    ∃ c t, (c = ',' ∨ c = '}') ∧ Sign c s t := by
  rcases h with (hr | ⟨⟨v, hv, -⟩, -⟩) | ⟨hs, -⟩ | ⟨hs, -⟩
  · exact ⟨_, _, .inr rfl, hr⟩
  · exact ⟨_, _, .inl rfl, hv⟩
  · exact ⟨_, _, .inl rfl, hs⟩
  · exact ⟨_, _, .inl rfl, hs⟩

/-- An argument of the grammar with a type begins as such. -/
theorem Typed.beginsTyped {s t u : List Char} {name : String} {type : ArgumentType} {c : Char}
    (h : Typed s name (typeWord type) t) (hc : c = ',' ∨ c = '}') (ht : Sign c t u) :
    BeginsTyped s := by
  obtain ⟨s₁, s₂, ⟨w, hne, hw, -, hs⟩, hcomma, hword⟩ := h
  have hmem : typeWord type ∈ typeWords := by
    rcases type with (_ | _ | _) | (_ | _) | _ <;> decide
  exact ⟨w, s₁, s₂, typeWord type, t, c, u,
    ⟨hne, fun d hd ↦ isLooseNameChar_of_isNameChar (hw d hd)⟩, hmem, hc, hs.white, hcomma.white,
    hword.white, ht.white⟩

end Grammar

end Phrasebook
