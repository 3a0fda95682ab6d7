import Phrasebook.Proofs.Words
import Phrasebook.Template.Placeholder
import Phrasebook.Template.Shorthand

/-!
The shapes of arguments look at innermost groups only.

Everything that a shape takes up to its closing brace is free of braces. What it makes of an opening
brace is therefore settled by the text up to the next brace: if that one opens, the shape refuses
(`Shape.read_open`), and if it closes, the text in between decides, whatever follows
(`Shape.read_group`). The readers that a shape is put together from stop at braces (`Within`), and
the last one takes the closing brace (`Closes`).
-/

set_option autoImplicit false

namespace Phrasebook.Template

open Text

/-! ### Readers that stop at braces -/

/-- Nothing, or a text that begins with a brace. -/
def Stop (s : List Char) : Prop :=
  ∀ c ∈ s.head?, c = '{' ∨ c = '}'

section Stop

variable {s v : List Char} {p : Char → Bool}

theorem Stop.head (h : Stop s) (hopen : p '{' = false) (hclose : p '}' = false) :
    ∀ c ∈ s.head?, p c = false := by
  intro c hc
  rcases h c hc with rfl | rfl
  · exact hopen
  · exact hclose

theorem takeWhile_append_stop' (h : ∀ c ∈ s.head?, p c = false) :
    (v ++ s).takeWhile p = v.takeWhile p := by
  induction v with
  | nil => exact takeWhile_append_stop (w := []) (by simp) h
  | cons c v ih =>
    rw [List.cons_append, List.takeWhile_cons, List.takeWhile_cons, ih]

theorem dropWhile_append_stop' (h : ∀ c ∈ s.head?, p c = false) :
    (v ++ s).dropWhile p = v.dropWhile p ++ s := by
  induction v with
  | nil => exact dropWhile_append_stop (w := []) (by simp) h
  | cons c v ih =>
    rw [List.cons_append, List.dropWhile_cons, List.dropWhile_cons, ih]
    split <;> rfl

/-- A word without braces is found before a brace or not at all. -/
theorem after?_append_stop {w : List Char} (hw : BraceFree w) (h : Stop s) :
    after? w (v ++ s) = (after? w v).map (· ++ s) := by
  induction w generalizing v with
  | nil => rfl
  | cons c w ih =>
    obtain ⟨⟨hopen, hclose⟩, hw⟩ := List.forall_mem_cons.1 hw
    cases v with
    | nil =>
      cases s with
      | nil => rfl
      | cons d s =>
        have hne : c ≠ d := by
          rcases h d rfl with rfl | rfl
          · exact hopen
          · exact hclose
        have hnone : after? (c :: w) (d :: s) = none := if_neg hne
        exact hnone
    | cons d v =>
      rw [List.cons_append, after?, after?]
      split
      · exact ih hw
      · rfl

end Stop

namespace Reader

variable {α β : Type}

/-- The reader does not look beyond the next brace. -/
def Within (r : Reader α) : Prop :=
  ∀ v, BraceFree v → ∃ o : Option (α × List Char), (∀ x ∈ o, BraceFree x.2) ∧
    ∀ s, Stop s → r (v ++ s) = o.map fun x ↦ (x.1, x.2 ++ s)

/-- The reader takes everything up to the next brace and the brace, which has to be a closing
one. -/
def Closes (r : Reader α) : Prop :=
  ∀ v, BraceFree v → ∃ o : Option α, (∀ t, r (v ++ '}' :: t) = o.map (·, t)) ∧
    ∀ s, (∀ c ∈ s.head?, c = '{') → r (v ++ s) = none

theorem within_pure (a : α) : Within (pure a : Reader α) := fun v hv ↦
  ⟨some (a, v), fun _ hx ↦ Option.mem_some.1 hx ▸ hv, fun _ _ ↦ rfl⟩

theorem within_bind {r : Reader α} {f : α → Reader β} (hr : r.Within) (hf : ∀ a, (f a).Within) :
    Within (r >>= f) := by
  intro v hv
  obtain ⟨o, hfree, ho⟩ := hr v hv
  cases o with
  | none =>
    refine ⟨none, by simp, fun s hs ↦ ?_⟩
    change (r (v ++ s)).bind _ = _
    rw [ho s hs]
    rfl
  | some x =>
    obtain ⟨o', hfree', ho'⟩ := hf x.1 x.2 (hfree x rfl)
    refine ⟨o', hfree', fun s hs ↦ ?_⟩
    change (r (v ++ s)).bind _ = _
    rw [ho s hs, ← ho' s hs]
    rfl

theorem closes_bind {r : Reader α} {f : α → Reader β} (hr : r.Within) (hf : ∀ a, (f a).Closes) :
    Closes (r >>= f) := by
  intro v hv
  obtain ⟨o, hfree, ho⟩ := hr v hv
  have hopen : ∀ s : List Char, (∀ c ∈ s.head?, c = '{') → Stop s := fun s hs c hc ↦
    .inl (hs c hc)
  have hclose : ∀ t : List Char, Stop ('}' :: t) := fun t c hc ↦ .inr (Option.mem_some.1 hc).symm
  cases o with
  | none =>
    refine ⟨none, fun t ↦ ?_, fun s hs ↦ ?_⟩
    · change (r (v ++ '}' :: t)).bind _ = _
      rw [ho _ (hclose t)]
      rfl
    · change (r (v ++ s)).bind _ = _
      rw [ho s (hopen s hs)]
      rfl
  | some x =>
    obtain ⟨o', hgroup, hnone⟩ := hf x.1 x.2 (hfree x rfl)
    refine ⟨o', fun t ↦ ?_, fun s hs ↦ ?_⟩
    · change (r (v ++ '}' :: t)).bind _ = _
      rw [ho _ (hclose t), ← hgroup t]
      rfl
    · change (r (v ++ s)).bind _ = _
      rw [ho s (hopen s hs), ← hnone s hs]
      rfl

theorem within_blanks : Within blanks := by
  intro v hv
  refine ⟨some ((), v.dropWhile isBlank), fun x hx ↦ ?_, fun s hs ↦ ?_⟩
  · rw [← Option.mem_some.1 hx]
    exact hv.sublist (List.dropWhile_sublist _)
  · rw [blanks, dropWhile_append_stop' (hs.head (by decide) (by decide))]
    rfl

theorem within_span {p : Char → Bool} (hopen : p '{' = false) (hclose : p '}' = false) :
    Within (span p) := by
  intro v hv
  refine ⟨some (v.takeWhile p, v.dropWhile p), fun x hx ↦ ?_, fun s hs ↦ ?_⟩
  · rw [← Option.mem_some.1 hx]
    exact hv.sublist (List.dropWhile_sublist _)
  · have hstop := hs.head hopen hclose
    rw [span, takeWhile_append_stop' hstop, dropWhile_append_stop' hstop]
    rfl

theorem within_run {p : Char → Bool} (hopen : p '{' = false) (hclose : p '}' = false) :
    Within (run p) := by
  intro v hv
  refine ⟨if (v.takeWhile p).isEmpty then none else some (v.takeWhile p, v.dropWhile p),
    fun x hx ↦ ?_, fun s hs ↦ ?_⟩
  · split at hx
    · exact absurd hx (by simp)
    · rw [← Option.mem_some.1 hx]
      exact hv.sublist (List.dropWhile_sublist _)
  · have hstop := hs.head hopen hclose
    rw [run, takeWhile_append_stop' hstop, dropWhile_append_stop' hstop]
    split <;> rfl

theorem within_exactly {w : List Char} (hw : BraceFree w) : Within (exactly w) := by
  intro v hv
  refine ⟨(after? w v).map ((), ·), fun x hx ↦ ?_, fun s hs ↦ ?_⟩
  · obtain ⟨u, hu, rfl⟩ := Option.map_eq_some_iff.1 hx
    exact hv.sublist (suffix_of_after? hu).sublist
  · rw [exactly, after?_append_stop hw hs, Option.map_map, Option.map_map]
    rfl

theorem within_oneOf {ws : List String} (hws : ∀ w ∈ ws, BraceFree w.toList) :
    Within (oneOf ws) := by
  intro v hv
  refine ⟨ws.findSome? fun w ↦ (after? w.toList v).map (w, ·), fun x hx ↦ ?_, fun s hs ↦ ?_⟩
  · obtain ⟨w, -, hw⟩ := List.exists_of_findSome?_eq_some hx
    obtain ⟨u, hu, rfl⟩ := Option.map_eq_some_iff.1 hw
    exact hv.sublist (suffix_of_after? hu).sublist
  · have hword : ∀ w ∈ ws, (after? w.toList (v ++ s)).map (w, ·) =
        ((after? w.toList v).map (w, ·)).map fun x ↦ (x.1, x.2 ++ s) := by
      intro w hw
      rw [after?_append_stop (hws w hw) hs, Option.map_map, Option.map_map]
      rfl
    rw [oneOf]
    clear hv
    induction ws with
    | nil => rfl
    | cons w ws ih =>
      obtain ⟨hw, hword⟩ := List.forall_mem_cons.1 hword
      rw [List.findSome?_cons, List.findSome?_cons, hw]
      cases (after? w.toList v).map (w, ·) with
      | some x => rfl
      | none => exact ih (List.forall_mem_cons.1 hws).2 hword

theorem within_optionally {r : Reader α} (hr : r.Within) : Within (optionally r) := by
  intro v hv
  obtain ⟨o, hfree, ho⟩ := hr v hv
  cases o with
  | none =>
    refine ⟨some (none, v), fun x hx ↦ Option.mem_some.1 hx ▸ hv, fun s hs ↦ ?_⟩
    rw [optionally, ho s hs]
    rfl
  | some x =>
    refine ⟨some (some x.1, x.2), fun y hy ↦ Option.mem_some.1 hy ▸ hfree x rfl, fun s hs ↦ ?_⟩
    rw [optionally, ho s hs]
    rfl

theorem within_letters (count : Nat) : Within (letters count) := by
  intro v hv
  refine ⟨letters count v, fun x hx ↦ ?_, fun s hs ↦ ?_⟩
  · exact hv.sublist (cuts_letters count v x.1 x.2 hx).sublist
  · by_cases hlen : count ≤ v.length
    · rw [letters, letters, List.take_append_of_le_length hlen, List.drop_append_of_le_length hlen]
      split <;> rfl
    · have hshort : (v.take count).length ≠ count := by
        rw [List.length_take]
        omega
      have hstop : ¬ (((v ++ s).take count).length = count ∧
          ((v ++ s).take count).all isLetter = true) := by
        rintro ⟨htake, hall⟩
        cases s with
        | nil =>
          rw [List.append_nil] at htake
          exact hshort htake
        | cons c s =>
          have hmem : c ∈ (v ++ c :: s).take count := by
            rw [List.take_append, List.mem_append]
            refine .inr ?_
            obtain ⟨k, hk⟩ := Nat.exists_eq_succ_of_ne_zero (n := count - v.length) (by omega)
            rw [hk, List.take_succ_cons]
            exact List.mem_cons_self
          have hletter := List.all_eq_true.1 hall c hmem
          rcases hs c rfl with rfl | rfl
          · exact absurd hletter (by decide)
          · exact absurd hletter (by decide)
      rw [letters, letters, if_neg hstop, if_neg fun h ↦ hshort h.1]
      rfl

theorem closes_exactly : Closes (exactly ['}']) := by
  intro v hv
  cases v with
  | nil =>
    refine ⟨some (), fun t ↦ rfl, fun s hs ↦ ?_⟩
    cases s with
    | nil => rfl
    | cons c s =>
      obtain rfl : c = '{' := hs c rfl
      rfl
  | cons c v =>
    have hne : '}' ≠ c := ((List.forall_mem_cons.1 hv).1.2).symm
    refine ⟨none, fun t ↦ ?_, fun s _ ↦ ?_⟩
    · rw [exactly, List.cons_append, after?, if_neg hne]
      rfl
    · rw [exactly, List.cons_append, after?, if_neg hne]
      rfl

theorem closes_map {r : Reader α} (hr : r.Closes) (f : α → β) :
    Closes (r >>= fun a ↦ pure (f a)) := by
  intro v hv
  obtain ⟨o, hgroup, hnone⟩ := hr v hv
  refine ⟨o.map f, fun t ↦ ?_, fun s hs ↦ ?_⟩
  · change (r (v ++ '}' :: t)).bind _ = _
    rw [hgroup t]
    cases o <;> rfl
  · change (r (v ++ s)).bind _ = _
    rw [hnone s hs]
    rfl

theorem closes_firstOf {rs : List (Reader α)} (hr : ∀ r ∈ rs, r.Closes) : Closes (firstOf rs) := by
  intro v hv
  induction rs with
  | nil => exact ⟨none, fun _ ↦ rfl, fun _ _ ↦ rfl⟩
  | cons r rs ih =>
    obtain ⟨hr, hrs⟩ := List.forall_mem_cons.1 hr
    obtain ⟨o, hgroup, hnone⟩ := hr v hv
    obtain ⟨o', hgroup', hnone'⟩ := ih hrs
    cases o with
    | none =>
      refine ⟨o', fun t ↦ ?_, fun s hs ↦ ?_⟩
      · rw [firstOf, List.findSome?_cons, hgroup t]
        exact hgroup' t
      · rw [firstOf, List.findSome?_cons, hnone s hs]
        exact hnone' s hs
    | some a =>
      refine ⟨some a, fun t ↦ ?_, fun s hs ↦ ?_⟩
      · rw [firstOf, List.findSome?_cons, hgroup t]
        rfl
      · rw [firstOf, List.findSome?_cons, hnone s hs]
        exact hnone' s hs

theorem closes_afterBlanks {r : Reader α} (hr : r.Closes) : Closes (afterBlanks r) := by
  intro v hv
  induction v with
  | nil =>
    obtain ⟨o, hgroup, hnone⟩ := hr [] hv
    refine ⟨o, hgroup, fun s hs ↦ ?_⟩
    cases s with
    | nil => exact hnone [] hs
    | cons c s =>
      obtain rfl : c = '{' := hs c rfl
      exact hnone _ hs
  | cons c v ih =>
    obtain ⟨-, hfree⟩ := List.forall_mem_cons.1 hv
    obtain ⟨o, hgroup, hnone⟩ := hr (c :: v) hv
    obtain ⟨o', hgroup', hnone'⟩ := ih hfree
    by_cases hc : isBlank c = true
    · refine ⟨o'.or o, fun t ↦ ?_, fun s hs ↦ ?_⟩
      · rw [List.cons_append, afterBlanks, if_pos hc, hgroup']
        cases o' with
        | none => exact hgroup t
        | some a => rfl
      · rw [List.cons_append, afterBlanks, if_pos hc, hnone' s hs]
        exact hnone s hs
    · refine ⟨o, fun t ↦ ?_, fun s hs ↦ ?_⟩
      · rw [List.cons_append, afterBlanks, if_neg hc]
        exact hgroup t
      · rw [List.cons_append, afterBlanks, if_neg hc]
        exact hnone s hs

/-! ### The parts of arguments -/

theorem within_comma : Within comma :=
  within_exactly (by decide)

theorem within_variableName : Within variableName :=
  within_bind within_blanks fun _ ↦ within_bind (within_run (by decide) (by decide)) fun _ ↦
    within_bind within_blanks fun _ ↦ within_bind within_comma fun _ ↦ within_pure _

theorem within_keyword {ws : List String} (hws : ∀ w ∈ ws, BraceFree w.toList) :
    Within (keyword ws) :=
  within_bind within_blanks fun _ ↦ within_oneOf hws

theorem within_optionalPart {r : Reader α} (hr : r.Within) : Within (optionalPart r) :=
  within_optionally <| within_bind within_comma fun _ ↦ within_bind within_blanks fun _ ↦
    within_bind hr fun _ ↦ within_bind within_blanks fun _ ↦ within_pure _

theorem within_form : Within form :=
  within_bind (within_span (by decide) (by decide)) fun _ ↦ within_pure _

theorem closes_close (a : α) : Closes (close >>= fun _ ↦ pure a) :=
  closes_map closes_exactly fun _ ↦ a

end Reader

open Reader

theorem braceFree_of_all {ws : List String}
    (h : (ws.all fun w ↦ w.toList.all fun c ↦ c != '{' && c != '}') = true) :
    ∀ w ∈ ws, BraceFree w.toList := by
  intro w hw c hc
  have := List.all_eq_true.1 (List.all_eq_true.1 h w hw) c hc
  simpa using this

theorem closes_currencyArgument : currencyArgument.read.Closes :=
  closes_bind within_variableName fun _ ↦
    closes_bind (within_keyword (braceFree_of_all (by decide +kernel))) fun _ ↦
    closes_bind within_blanks fun _ ↦
    closes_bind (within_optionalPart (within_letters 3)) fun _ ↦ closes_close _

theorem closes_compactArgument : compactArgument.read.Closes :=
  closes_bind within_variableName fun _ ↦
    closes_bind (within_keyword (braceFree_of_all (by decide +kernel))) fun _ ↦
    closes_bind within_blanks fun _ ↦ closes_close _

theorem closes_relativeTimeArgument : relativeTimeArgument.read.Closes :=
  closes_bind within_variableName fun _ ↦
    closes_bind (within_keyword (braceFree_of_all (by decide +kernel))) fun _ ↦
    closes_bind within_blanks fun _ ↦
    closes_bind (within_optionalPart (within_oneOf (braceFree_of_all (by decide +kernel))))
      fun _ ↦ closes_close _

theorem closes_listArgument : listArgument.read.Closes :=
  closes_bind within_variableName fun _ ↦
    closes_bind (within_keyword (braceFree_of_all (by decide +kernel))) fun _ ↦
    closes_bind within_blanks fun _ ↦
    closes_bind (within_optionalPart (within_oneOf (braceFree_of_all (by decide +kernel))))
      fun _ ↦
    closes_bind (within_optionalPart (within_oneOf (braceFree_of_all (by decide +kernel))))
      fun _ ↦ closes_close _

theorem closes_customRest {name : String} (h : BraceFree name.toList) :
    (customRest name).Closes :=
  closes_bind (within_exactly h) fun _ ↦ closes_bind within_blanks fun _ ↦
    closes_bind (within_optionally (within_bind within_comma fun _ ↦
      within_span (by decide) (by decide))) fun _ ↦ closes_close _

theorem mem_longestFirst {name : String} {names : List String} :
    name ∈ longestFirst names ↔ name ∈ names :=
  List.mem_mergeSort

theorem closes_customArgument {names : List String} (h : ∀ name ∈ names, BraceFree name.toList) :
    (customArgument names).read.Closes := by
  refine closes_bind within_variableName fun _ ↦
    closes_map (closes_afterBlanks (closes_firstOf ?_)) _
  intro r hr
  obtain ⟨name, hname, rfl⟩ := List.mem_map.1 hr
  exact closes_customRest (h name (mem_longestFirst.1 hname))

theorem closes_shorthand : shorthand.read.Closes := by
  have bar : BraceFree ['|'] := by decide
  exact closes_bind within_variableName fun _ ↦
    closes_bind (within_keyword (braceFree_of_all (by decide +kernel))) fun _ ↦
    closes_bind within_blanks fun _ ↦ closes_bind within_comma fun _ ↦
    closes_bind within_form fun _ ↦ closes_bind (within_exactly bar) fun _ ↦
    closes_bind within_form fun _ ↦
    closes_bind (within_optionally (within_bind (within_exactly bar) fun _ ↦ within_form))
      fun _ ↦ closes_close _

/-! ### Groups -/

namespace Shape

variable {α : Type} {shape : Shape α} {v s t : List Char} {a : α}

/-- What a shape makes of a group with this text in it. -/
def found? (shape : Shape α) (v : List Char) : Option α :=
  (shape.read (v ++ ['}'])).map Prod.fst

theorem read_group (h : shape.read.Closes) (hv : BraceFree v) (t : List Char) :
    shape.read (v ++ '}' :: t) = (shape.found? v).map (·, t) := by
  obtain ⟨o, hgroup, -⟩ := h v hv
  rw [found?, hgroup, hgroup]
  cases o <;> rfl

theorem read_open (h : shape.read.Closes) (hv : BraceFree v) (hs : ∀ c ∈ s.head?, c = '{') :
    shape.read (v ++ s) = none := by
  obtain ⟨o, -, hnone⟩ := h v hv
  exact hnone s hs

/-- What a shape takes is the text of a group and its closing brace. -/
theorem group_of_read (h : shape.read.Closes) (hr : shape.read s = some (a, t)) :
    ∃ v, BraceFree v ∧ s = v ++ '}' :: t ∧ shape.found? v = some a := by
  let p : Char → Bool := fun c ↦ c != '{' && c != '}'
  have hfree : BraceFree (s.takeWhile p) := by
    intro c hc
    have := List.mem_takeWhile_imp hc
    simpa [p] using this
  have hsplit := List.takeWhile_append_dropWhile (p := p) (l := s)
  have hstop : ∀ c ∈ (s.dropWhile p).head?, p c = false := head_dropWhile
  cases hrest : s.dropWhile p with
  | nil =>
    rw [hrest] at hsplit
    rw [← hsplit, read_open h hfree (by simp)] at hr
    cases hr
  | cons c u =>
    rw [hrest] at hsplit hstop
    have hc := hstop c rfl
    by_cases hopen : c = '{'
    · rw [← hsplit, read_open h hfree (by simp [hopen])] at hr
      cases hr
    · obtain rfl : c = '}' := by simpa [p, hopen] using hc
      rw [← hsplit, read_group h hfree, Option.map_eq_some_iff] at hr
      obtain ⟨b, hb, he⟩ := hr
      obtain ⟨rfl, rfl⟩ := Prod.mk.inj he
      exact ⟨_, hfree, hsplit.symm, hb⟩

end Shape

end Phrasebook.Template
