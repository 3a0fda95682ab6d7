import Phrasebook.Proofs.Shapes

/-!
The arguments that are put aside, and the names of their placeholders.

An argument beyond the message format begins with the name of its variable and a comma
(`Shape.Named`), so a shape finds nothing in a group without a comma, and the name that it finds
stands in the group. The name of a placeholder is a word without a comma that tells the kind and the
number of its placeholder (`PlaceholderKind.token_injective`).
-/

set_option autoImplicit false

namespace Phrasebook.Template

open Text

/-! ### What readers find -/

namespace Reader

variable {α β : Type} {p : Char → Prop}

/-- In a text whose characters have the property `p`, what the reader finds has the property `P`. -/
def Finds (p : Char → Prop) (P : α → Prop) (r : Reader α) : Prop :=
  ∀ s a t, (∀ c ∈ s, p c) → r s = some (a, t) → P a

theorem finds_any (r : Reader α) : Finds p (fun _ ↦ True) r :=
  fun _ _ _ _ _ ↦ trivial

theorem finds_pure {P : α → Prop} {a : α} (h : P a) : Finds p P (pure a : Reader α) := by
  intro s b t _ hr
  cases hr
  exact h

theorem finds_bind {P : α → Prop} {Q : β → Prop} {r : Reader α} {f : α → Reader β}
    (hr : Finds p P r) (hcuts : r.Cuts) (hf : ∀ a, P a → Finds p Q (f a)) :
    Finds p Q (r >>= f) := by
  intro s b t hs h
  obtain ⟨⟨a, u⟩, hu, hb⟩ := Option.bind_eq_some_iff.1 h
  have hsub : ∀ c ∈ u, p c := fun c hc ↦ hs c ((hcuts s a u hu).subset hc)
  exact hf a (hr s a u hs hu) u b t hsub hb

theorem finds_run (q : Char → Bool) : Finds p (fun w ↦ ∀ c ∈ w, p c) (run q) := by
  intro s w t hs h
  unfold run at h
  split at h
  · cases h
  · cases h
    exact fun c hc ↦ hs c ((List.takeWhile_prefix q).subset hc)

theorem finds_span (q : Char → Bool) : Finds p (fun w ↦ ∀ c ∈ w, p c) (span q) := by
  intro s w t hs h
  cases h
  exact fun c hc ↦ hs c ((List.takeWhile_prefix q).subset hc)

theorem finds_firstOf {P : α → Prop} {rs : List (Reader α)} (h : ∀ r ∈ rs, Finds p P r) :
    Finds p P (firstOf rs) := by
  intro s a t hs hr
  obtain ⟨r, hmem, hr⟩ := List.exists_of_findSome?_eq_some hr
  exact h r hmem s a t hs hr

theorem finds_afterBlanks {P : α → Prop} {r : Reader α} (h : Finds p P r) :
    Finds p P (afterBlanks r) := by
  intro s a t hs hr
  induction s with
  | nil => exact h _ _ _ hs hr
  | cons c s ih =>
    unfold afterBlanks at hr
    split at hr
    · split at hr
      · rename_i hw
        cases hr
        exact ih (List.forall_mem_cons.1 hs).2 hw
      · exact h _ _ _ hs hr
    · exact h _ _ _ hs hr

/-- A sign is found only where there is one. -/
theorem refuses_exactly (c : Char) : Finds (· ≠ c) (fun _ ↦ False) (exactly [c]) := by
  intro s a t hs h
  obtain ⟨u, hu, -⟩ := Option.map_eq_some_iff.1 h
  rw [append_of_after? hu] at hs
  exact hs c (by simp) rfl

theorem finds_variableName : Finds p (fun name ↦ ∀ c ∈ name.toList, p c) variableName :=
  finds_bind (finds_any _) cuts_blanks fun _ _ ↦ finds_bind (finds_run _) (cuts_run _) fun w hw ↦
    finds_bind (finds_any _) cuts_blanks fun _ _ ↦ finds_bind (finds_any _) (cuts_exactly _)
      fun _ _ ↦ finds_pure (by rwa [String.toList_ofList])

theorem refuses_variableName : Finds (· ≠ ',') (fun _ ↦ False) variableName :=
  finds_bind (finds_any _) cuts_blanks fun _ _ ↦ finds_bind (finds_any _) (cuts_run _) fun _ _ ↦
    finds_bind (finds_any _) cuts_blanks fun _ _ ↦ finds_bind (refuses_exactly ',') (cuts_exactly _)
      fun _ h ↦ h.elim

end Reader

open Reader

/-- The shape begins with the name of a variable and a comma, and finds an argument with this
name. -/
def Shape.Named (shape : Shape ExtensionArgument) : Prop :=
  ∃ f : String → Reader ExtensionArgument, shape.read = variableName >>= f ∧
    ∀ name, Finds (fun _ ↦ True) (fun a ↦ a.name = name) (f name)

theorem named_currencyArgument : currencyArgument.Named :=
  ⟨_, rfl, fun _ ↦ finds_bind (finds_any _) (cuts_keyword _) fun _ _ ↦
    finds_bind (finds_any _) cuts_blanks fun _ _ ↦
    finds_bind (finds_any _) (cuts_optionalPart (cuts_letters 3)) fun _ _ ↦
    finds_bind (finds_any _) (cuts_exactly _) fun _ _ ↦ finds_pure rfl⟩

theorem named_compactArgument : compactArgument.Named :=
  ⟨_, rfl, fun _ ↦ finds_bind (finds_any _) (cuts_keyword _) fun _ _ ↦
    finds_bind (finds_any _) cuts_blanks fun _ _ ↦
    finds_bind (finds_any _) (cuts_exactly _) fun _ _ ↦ finds_pure rfl⟩

theorem named_relativeTimeArgument : relativeTimeArgument.Named :=
  ⟨_, rfl, fun _ ↦ finds_bind (finds_any _) (cuts_keyword _) fun _ _ ↦
    finds_bind (finds_any _) cuts_blanks fun _ _ ↦
    finds_bind (finds_any _) (cuts_optionalPart (cuts_oneOf _)) fun _ _ ↦
    finds_bind (finds_any _) (cuts_exactly _) fun _ _ ↦ finds_pure rfl⟩

theorem named_listArgument : listArgument.Named :=
  ⟨_, rfl, fun _ ↦ finds_bind (finds_any _) (cuts_keyword _) fun _ _ ↦
    finds_bind (finds_any _) cuts_blanks fun _ _ ↦
    finds_bind (finds_any _) (cuts_optionalPart (cuts_oneOf _)) fun _ _ ↦
    finds_bind (finds_any _) (cuts_optionalPart (cuts_oneOf _)) fun _ _ ↦
    finds_bind (finds_any _) (cuts_exactly _) fun _ _ ↦ finds_pure rfl⟩

theorem named_customArgument (names : List String) : (customArgument names).Named := by
  refine ⟨_, rfl, fun _ ↦ finds_bind (finds_any _) (cuts_afterBlanks (cuts_firstOf ?_))
    fun _ _ ↦ finds_pure rfl⟩
  intro r hr
  obtain ⟨name, _, rfl⟩ := List.mem_map.1 hr
  exact cuts_customRest name

namespace Shape

variable {shape : Shape ExtensionArgument} {v : List Char} {a : ExtensionArgument}

/-- The name of what a shape finds in a group stands in the group. -/
theorem Named.mem_of_found? (h : shape.Named) (hv : shape.found? v = some a) :
    ∀ c ∈ a.name.toList, c ∈ v ++ ['}'] := by
  obtain ⟨f, hf, hname⟩ := h
  obtain ⟨⟨a, t⟩, hr, rfl⟩ := Option.map_eq_some_iff.1 hv
  rw [hf] at hr
  have hfinds : Finds (· ∈ v ++ ['}']) (fun a ↦ ∀ c ∈ a.name.toList, c ∈ v ++ ['}'])
      (variableName >>= f) :=
    finds_bind finds_variableName cuts_variableName fun name hmem s a t _ h ↦ by
      rw [hname name s a t (fun _ _ ↦ trivial) h]
      exact hmem
  exact hfinds _ _ _ (fun _ hc ↦ hc) hr

/-- In a group without a comma a shape that begins with the name of a variable finds nothing. -/
theorem found?_eq_none_of_notMem {α : Type} {shape : Shape α} {f : String → Reader α}
    {v : List Char} (hf : shape.read = variableName >>= f) (hv : ',' ∉ v) :
    shape.found? v = none := by
  have hrefuses : Finds (· ≠ ',') (fun _ ↦ False) (variableName >>= f) :=
    finds_bind refuses_variableName cuts_variableName fun _ h ↦ h.elim
  rw [found?, hf]
  cases hr : (variableName >>= f) (v ++ ['}']) with
  | none => rfl
  | some x =>
    refine (hrefuses _ x.1 x.2 (fun c hc he ↦ ?_) hr).elim
    rw [he, List.mem_append] at hc
    rcases hc with hc | hc
    · exact hv hc
    · exact absurd hc (by decide)

theorem Named.found?_eq_none (h : shape.Named) (hv : ',' ∉ v) : shape.found? v = none := by
  obtain ⟨f, hf, -⟩ := h
  exact found?_eq_none_of_notMem hf hv

end Shape

/-! ### The names of placeholders -/

namespace PlaceholderKind

theorem toList_token (kind : PlaceholderKind) (n : Nat) : (kind.token n).toList =
    ['_', '_'] ++ (kind.word.toList ++ '_' :: (Nat.toDigits 10 n ++ ['_', '_'])) := by
  simp [token]

theorem isUpper_of_mem_word (kind : PlaceholderKind) :
    ∀ c ∈ kind.word.toList, c.isUpper = true := by
  cases kind <;> decide

/-- A name tells which placeholder it is of. -/
theorem token_injective {kind kind' : PlaceholderKind} {n n' : Nat}
    (h : kind.token n = kind'.token n') : kind = kind' ∧ n = n' := by
  have htake (kind : PlaceholderKind) (n : Nat) :
      (kind.word.toList ++ '_' :: (Nat.toDigits 10 n ++ ['_', '_'])).takeWhile Char.isUpper =
        kind.word.toList :=
    takeWhile_append_stop kind.isUpper_of_mem_word (by simp)
  have hlists := congrArg String.toList h
  rw [toList_token, toList_token, List.append_cancel_left_eq] at hlists
  have hword : kind.word.toList = kind'.word.toList := by
    rw [← htake kind n, ← htake kind' n', hlists]
  obtain rfl : kind = kind' := by
    rw [String.toList_inj] at hword
    cases kind <;> cases kind' <;> first | rfl | exact absurd hword (by decide)
  refine ⟨rfl, ?_⟩
  rw [List.append_cancel_left_eq, List.cons_inj_right, List.append_cancel_right_eq] at hlists
  have := congrArg (fun ds ↦ Nat.ofDigitChars 10 ds 0) hlists
  simpa using this

theorem isWord_of_mem_token (kind : PlaceholderKind) (n : Nat) :
    ∀ c ∈ (kind.token n).toList, isWord c = true := by
  have hword : ∀ c ∈ kind.word.toList, isWord c = true := by
    cases kind <;> decide
  have hdigits : ∀ c ∈ Nat.toDigits 10 n, isWord c = true :=
    fun c hc ↦ isWord_of_isDigit (Nat.isDigit_of_mem_toDigits (by decide) (by decide) hc)
  intro c hc
  rw [toList_token] at hc
  simp only [List.mem_append, List.mem_cons, List.not_mem_nil, or_false] at hc
  rcases hc with (rfl | rfl) | hc | rfl | hc | rfl | rfl
  · decide
  · decide
  · exact hword c hc
  · decide
  · exact hdigits c hc
  · decide
  · decide

theorem braceFree_token (kind : PlaceholderKind) (n : Nat) : BraceFree (kind.token n).toList :=
  braceFree_of_isWord (kind.isWord_of_mem_token n)

theorem comma_notMem_token (kind : PlaceholderKind) (n : Nat) : ',' ∉ (kind.token n).toList :=
  fun h ↦ absurd (kind.isWord_of_mem_token n _ h) (by decide)

end PlaceholderKind

end Phrasebook.Template
