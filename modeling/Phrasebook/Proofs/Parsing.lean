import Phrasebook.Proofs.Lexemes

/-!
What the reader finds is derived by the grammar, and where it gives up for the length of an offset
the text has such an offset. The reader leaves less than it was given, so this goes by induction on
the length of the text.
-/

set_option autoImplicit false

namespace Phrasebook.Grammar

open Arithmetic Text Message

/-- What an outcome says: what was found is as `found` has it, and an offset that was too long has a
length of which `long` holds. -/
def Tells {s : List Char} {α : Type} (o : Outcome s α) (found : α → List Char → Prop)
    (long : Nat → Prop) : Prop :=
  match o with
  | .ok x => found x.value x.rest
  | .error f => ∀ l, f.cause = .longOffset l → long l.digits

section Tells

variable {s : List Char} {α : Type} {found : α → List Char → Prop} {long : Nat → Prop}

theorem tells_fail (reason : SyntaxReason) (left : List Char) :
    Tells (fail reason left : Outcome s α) found long := by
  intro l hl
  cases hl

theorem tells_error {f : Failure} (h : ∀ l, f.cause ≠ .longOffset l) (w : List String) :
    Tells (.error (f.after w) : Outcome s α) found long :=
  fun l hl ↦ absurd hl (h l)

theorem Tells.ok {o : Outcome s α} {x : Parsed s α} (h : Tells o found long) (hx : o = .ok x) :
    found x.value x.rest := by
  rw [hx] at h
  exact h

/-- A failure inside stays one outside. -/
theorem Tells.error {β : Type} {t : List Char} {o : Outcome t β} {f : Failure}
    {found' : β → List Char → Prop} {long' : Nat → Prop} (h : Tells o found' long')
    (hf : o = .error f) (hlong : ∀ n, long' n → long n) (w : List String) :
    Tells (.error (f.after w) : Outcome s α) found long := by
  rw [hf] at h
  exact fun l hl ↦ hlong _ (h l hl)

/-- A part that goes on where the one before left off. -/
theorem Tells.bind {β : Type} {t : List Char} {o : Outcome t β} {o' : Outcome s α}
    {found' : β → List Char → Prop} {long' : Nat → Prop} (h : Tells o found' long')
    (herror : ∀ f, o = .error f → ∃ w, o' = .error (f.after w)) (hlong : ∀ n, long' n → long n)
    (hok : ∀ x, o = .ok x → found' x.value x.rest → Tells o' found long) : Tells o' found long := by
  cases ho : o with
  | error f =>
    obtain ⟨w, ho'⟩ := herror f ho
    rw [ho']
    exact h.error ho hlong w
  | ok x => exact hok x ho (h.ok ho)

/-- A part that only makes something else of what was found. -/
theorem Tells.map {β : Type} {t : List Char} {o : Outcome t β} {o' : Outcome s α}
    {found' : β → List Char → Prop} {long' : Nat → Prop} (h : Tells o found' long')
    (herror : ∀ f, o = .error f → ∃ w, o' = .error (f.after w)) (hlong : ∀ n, long' n → long n)
    (hok : ∀ x, o = .ok x → ∃ y, o' = .ok y ∧ (found' x.value x.rest → found y.value y.rest)) :
    Tells o' found long := by
  refine h.bind herror hlong fun x hx hfound ↦ ?_
  obtain ⟨y, ho', hy⟩ := hok x hx
  rw [ho']
  exact hy hfound

/-- A sign that is missing is no offset. -/
theorem tells_expect {c : Char} {t : List Char} {o : Outcome s α}
    (herror : ∀ f, expect c t = .error f → ∃ w, o = .error (f.after w))
    (hok : ∀ r, expect c t = .ok r → Sign c t r.1 → Tells o found long) : Tells o found long := by
  cases he : expect c t with
  | error f =>
    obtain ⟨w, ho⟩ := herror f he
    rw [ho]
    exact tells_error (cause_of_expect he) w
  | ok r => exact hok r he (sign_of_expect he)

end Tells

theorem ofWord?_eq {w : String} {type : ArgumentType} (h : ArgumentType.ofWord? w = some type) :
    w = typeWord type := by
  unfold ArgumentType.ofWord? at h
  split_ifs at h <;> cases h <;> assumption

theorem opening_of_expect {s : List Char} (hne : (takeSelector (skipSpace s)).1.isEmpty = false)
    {r : { r : List Char // r.length < (takeSelector (skipSpace s)).2.length }}
    (hr : expect '{' (takeSelector (skipSpace s)).2 = .ok r) :
    Opening s (String.ofList (takeSelector (skipSpace s)).1) r.1 := by
  refine ⟨_, _, selector_of_takeSelector (by simpa using hne), rfl, ?_, sign_of_expect hr⟩
  rw [takeSelector_append]
  exact blanks_skipSpace s

/-- Options begin with a selector, so blanks before them can be left out. -/
theorem Opening.of_blanks {s t u : List Char} {selector : String} (hs : Blanks s t)
    (h : Opening t selector u) : Opening s selector u := by
  obtain ⟨w, v, hw, rfl, ht, hv⟩ := h
  exact ⟨w, v, hw, rfl, hs.trans ht, hv⟩

theorem Options.of_blanks {fits : Nat → Prop} {inPlural : Bool} {seen : List String}
    {s t r : List Char}
    {os : List (String × Message)} (hs : Blanks s t) (h : Options fits inPlural seen t os r)
    (hos : os ≠ []) : Options fits inPlural seen s os r := by
  cases h with
  | none => exact absurd rfl hos
  | one ho hsel hm hrest => exact .one (ho.of_blanks hs) hsel hm hrest

theorem LongOffsetInOptions.of_blanks {inPlural : Bool} {seen : List String} {s t : List Char}
    {n : Nat} (hs : Blanks s t) (h : LongOffsetInOptions inPlural seen t n) :
    LongOffsetInOptions inPlural seen s n := by
  cases h with
  | here ho hsel hl => exact .here (ho.of_blanks hs) hsel hl
  | later ho hsel hm hrest => exact .later (ho.of_blanks hs) hsel hm hrest

theorem OffsetDigits.of_blanks {s t ds u : List Char} {negative : Bool} (hs : Blanks s t)
    (h : OffsetDigits t negative ds u) : OffsetDigits s negative ds u := by
  obtain ⟨b, hb, hoff, hds, hu⟩ := h
  exact ⟨b, hb, hs.trans hoff, hds, hu⟩

theorem not_offset_of_blanks {s t : List Char} (hs : Blanks s t)
    (h : ∀ u, ¬ Blanks t ("offset".toList ++ u)) : ∀ u, ¬ Blanks s ("offset".toList ++ u) :=
  fun u hu ↦ h u ((hs.cons_iff (c := 'o') (by decide)).1 hu)

/-- The reader looks for an offset and for options after it has skipped blanks. -/
theorem ArgumentEnd.plural_of_blanks {fits : Nat → Prop} {s t u v w r : List Char} {name : String}
    {kind : PluralKind} {offset : Int} {os : List (String × Message)} (ht : Sign ',' s t)
    (hu : Blanks t u) (hv : Offset fits u offset v) (hw : Options fits true [] v os w)
    (hos : os ≠ []) (hr : Sign '}' w r) :
    ArgumentEnd fits name (.plural kind) s (.plural name kind offset os) r := by
  cases hv with
  | absent h => exact .plural ht (.absent (not_offset_of_blanks hu h)) (hw.of_blanks hu hos) hos hr
  | given hd hlen => exact .plural ht (.given (hd.of_blanks hu) hlen) hw hos hr

theorem LongOffsetInArgument.plural_of_blanks {s t u v w : List Char} {name : String}
    {kind : PluralKind} {offset : Int} {n : Nat} (ht : Typed s name (typeWord (.plural kind)) t)
    (hu : Sign ',' t u) (hv : Blanks u v) (hw : Offset Readable v offset w)
    (hn : LongOffsetInOptions true [] w n) : LongOffsetInArgument s n := by
  cases hw with
  | absent h => exact .plural ht hu (.absent (not_offset_of_blanks hv h)) (hn.of_blanks hv)
  | given hd hlen => exact .plural ht hu (.given (hd.of_blanks hv) hlen) hn

/-- What the reader says of the elements of a message. -/
def MessageTells (inPlural nested : Bool) (s : List Char) : Prop :=
  Tells (parseMessage inPlural nested s)
    (fun m r ↦ Elements Readable inPlural s m r ∧ (∀ c ∈ r.head?, c = '}') ∧
      (nested = false → r = []))
    (LongOffset inPlural s)

/-- What the reader says of an argument. -/
def ArgumentTells (s : List Char) : Prop :=
  Tells (parseArgument s) (fun e r ↦ Argument Readable s e r) (LongOffsetInArgument s)

/-- What the reader says of options. It has skipped the blanks after them. -/
def OptionsTell (inPlural : Bool) (seen : List String) (s : List Char) : Prop :=
  Tells (parseOptions inPlural seen s)
    (fun os r ↦ (∃ t, Options Readable inPlural seen s os t ∧ Blanks t r) ∧ (seen = [] → os ≠ []))
    (LongOffsetInOptions inPlural seen s)

theorem messageTells_of_shorter {inPlural nested : Bool} {s : List Char}
    (hmessage : ∀ t : List Char, t.length < s.length → MessageTells inPlural nested t)
    (hargument : ∀ t : List Char, t.length < s.length → ArgumentTells t) :
    MessageTells inPlural nested s := by
  unfold MessageTells
  cases s with
  | nil =>
    rw [parseMessage]
    exact ⟨.stop (by simp), by simp, fun _ ↦ rfl⟩
  | cons c s =>
    have hshort : s.length < (c :: s).length := Nat.lt_succ_self _
    rw [parseMessage]
    split
    · rename_i hc
      subst hc
      refine (hargument s hshort).bind (fun f hf ↦ ⟨[], by rw [hf]; rfl⟩) (fun n ↦ .inArgument)
        fun e he harg ↦ ?_
      have hm := hmessage e.rest (Nat.lt_of_le_of_lt e.le hshort)
      rw [he]
      exact hm.map (fun f hf ↦ ⟨e.passedOver, by dsimp only; rw [hf]⟩) (fun n ↦ .argument harg)
        fun m hm ↦ ⟨⟨_, m.rest, _, _⟩, by dsimp only; rw [hm],
          fun hel ↦ ⟨.argument harg hel.1, hel.2⟩⟩
    · split
      · rename_i hc
        subst hc
        split
        · rename_i hnested
          exact ⟨.stop (by simp), by simp, fun h ↦ absurd hnested (by simp [h])⟩
        · exact tells_fail _ _
      · split
        · rename_i hc
          obtain ⟨rfl, rfl⟩ := hc
          exact (hmessage s hshort).map (fun f hf ↦ ⟨[], by rw [hf]; rfl⟩) (fun n ↦ .pound)
            fun m hm ↦ ⟨⟨_, m.rest, _, _⟩, by rw [hm], fun hel ↦ ⟨.pound hel.1, hel.2⟩⟩
        · rename_i hopen hclose hpound
          have hpiece (w t : List Char) := (@piece_cons_iff inPlural c s w t).2
          split
          · rename_i hc
            have hp := hpiece _ _ ⟨hopen, hclose, hpound, by rw [if_pos hc]⟩
            have hm := hmessage (takeApostrophe inPlural s).2
              (Nat.lt_of_le_of_lt (length_takeApostrophe_le inPlural s) hshort)
            exact hm.map (fun f hf ↦ ⟨[], by rw [hf]; rfl⟩) (fun n ↦ .text hp)
              fun m hm ↦ ⟨⟨addText _ m.value, m.rest, _, _⟩, by rw [hm],
                fun hel ↦ ⟨.text hp hel.1, hel.2⟩⟩
          · rename_i hc
            have hp := hpiece _ _ ⟨hopen, hclose, hpound, by rw [if_neg hc]⟩
            exact (hmessage s hshort).map (fun f hf ↦ ⟨[], by rw [hf]; rfl⟩) (fun n ↦ .text hp)
              fun m hm ↦ ⟨⟨addText _ m.value, m.rest, _, _⟩, by rw [hm],
                fun hel ↦ ⟨.text hp hel.1, hel.2⟩⟩

/-- Options and the brace that closes their argument. -/
theorem OptionsTell.closed {inPlural : Bool} {s t : List Char} {o : Outcome s Element}
    {found : Element → List Char → Prop} {long : Nat → Prop} (h : OptionsTell inPlural [] t)
    (hlong : ∀ n, LongOffsetInOptions inPlural [] t n → long n)
    (herror : ∀ f, parseOptions inPlural [] t = .error f → o = .error f)
    (hopen : ∀ os f, parseOptions inPlural [] t = .ok os → expect '}' os.rest = .error f →
      o = .error (f.after os.passedOver))
    (hok : ∀ os r, parseOptions inPlural [] t = .ok os → expect '}' os.rest = .ok r →
      ∃ x, o = .ok x ∧ ∀ u, Options Readable inPlural [] t os.value u → os.value ≠ [] →
        Sign '}' u r.1 → found x.value x.rest) : Tells o found long := by
  refine h.bind (fun f hf ↦ ⟨[], herror f hf⟩) hlong fun os hos hfound ↦ ?_
  obtain ⟨⟨u, hopts, hu⟩, hne⟩ := hfound
  refine tells_expect (fun f hf ↦ ⟨os.passedOver, hopen os f hos hf⟩) fun r hr hclose ↦ ?_
  obtain ⟨x, ho, hx⟩ := hok os r hos hr
  rw [ho]
  exact hx u hopts (hne rfl) (hu.trans hclose)

theorem argumentTells_of_shorter {s : List Char}
    (hoptions : ∀ (inPlural : Bool) (seen : List String) (t : List Char), t.length < s.length →
      OptionsTell inPlural seen t) : ArgumentTells s := by
  unfold ArgumentTells
  rw [parseArgument]
  dsimp only
  split
  · exact tells_fail _ _
  · rename_i hname
    have hname := name_of_takeWhile (Bool.of_not_eq_true hname)
    split
    · rename_i r hr
      exact .plain hname (sign_of_expect hr)
    · refine tells_expect (fun f hf ↦ ⟨[], by rw [hf]; rfl⟩) fun r hr hcomma ↦ ?_
      have hshort : r.1.length < s.length := by
        have h₁ := length_skipSpace_le s
        have h₂ := length_dropWhile_le isNameChar (skipSpace s)
        have h₃ := r.2
        omega
      have htyped : Typed s _ _ _ := ⟨_, _, hname, hcomma, blanks_word⟩
      have hword : ((skipSpace r.1).dropWhile isLetter).length ≤ r.1.length :=
        (length_dropWhile_le _ _).trans (length_skipSpace_le _)
      rw [hr]
      dsimp only
      split
      · exact tells_fail _ _
      · split
        · exact tells_fail _ _
        · rename_i type htype
          rw [ofWord?_eq htype] at htyped
          split
          · rename_i f hf
            exact tells_error (cause_of_parseStyle hf) []
          · rename_i e he
            exact .typed htyped (.formatted (styleEnd_of_parseStyle he))
        · rename_i kind hkind
          rw [ofWord?_eq hkind] at htyped
          refine tells_expect (fun f hf ↦ ⟨[], by rw [hf]; rfl⟩) fun r₅ hr₅ hcomma ↦ ?_
          have hskip := blanks_skipSpace r₅.1
          have hle := length_skipSpace_le r₅.1
          rw [hr₅]
          dsimp only
          split
          · rename_i f hf
            intro l hl
            obtain ⟨negative, ds, t, hoff, hlen, hl⟩ := longOffset_of_takeOffset hf hl
            rw [hl]
            exact .here htyped hcomma (hoff.of_blanks hskip) hlen
          · rename_i offset r₆ hr₆
            have hoff := offset_of_takeOffset (head_skipSpace r₅.1) hr₆
            have ho := hoptions true [] r₆.1 (by have := r₆.2; have := r₅.2; omega)
            exact ho.closed (fun n h ↦ .plural_of_blanks htyped hcomma hskip hoff h)
              (fun f hf ↦ by rw [hf]) (fun os f hos hf ↦ by rw [hos]; dsimp only; rw [hf])
              fun os r₇ hos hr₇ ↦ ⟨⟨_, r₇.1, _, _⟩, by rw [hos]; dsimp only; rw [hr₇],
                fun u hopts hne hclose ↦
                  .typed htyped (.plural_of_blanks hcomma hskip hoff hopts hne hclose)⟩
        · rename_i hselect
          rw [ofWord?_eq hselect] at htyped
          refine tells_expect (fun f hf ↦ ⟨[], by rw [hf]; rfl⟩) fun r₅ hr₅ hcomma ↦ ?_
          have ho := hoptions false [] r₅.1 (by have := r₅.2; omega)
          rw [hr₅]
          exact ho.closed (fun n ↦ .select htyped hcomma) (fun f hf ↦ by dsimp only; rw [hf])
            (fun os f hos hf ↦ by dsimp only; rw [hos]; dsimp only; rw [hf])
            fun os r₆ hos hr₆ ↦ ⟨⟨_, r₆.1, _, _⟩, by dsimp only; rw [hos]; dsimp only; rw [hr₆],
              fun u hopts hne hclose ↦ .typed htyped (.select hcomma hopts hne hclose)⟩

theorem optionsTell_of_shorter {inPlural : Bool} {seen : List String} {s : List Char}
    (hmessage : ∀ t : List Char, t.length < s.length → MessageTells inPlural true t)
    (hoptions : ∀ (seen : List String) (t : List Char), t.length < s.length →
      OptionsTell inPlural seen t) : OptionsTell inPlural seen s := by
  unfold OptionsTell
  rw [parseOptions]
  dsimp only
  split
  · split
    · exact tells_fail _ _
    · rename_i hseen
      exact ⟨⟨s, .none, blanks_skipSpace s⟩, fun h ↦ absurd (by rw [h]; rfl) hseen⟩
  · split
    · exact tells_fail _ _
    · rename_i hsel
      split
      · exact tells_fail _ _
      · rename_i hseen
        have hnew : String.ofList (takeSelector (skipSpace s)).1 ∉ seen := by simpa using hseen
        refine tells_expect (fun f hf ↦ ⟨[], by rw [hf]; rfl⟩) fun r₃ hr₃ _ ↦ ?_
        have hopen := opening_of_expect (Bool.of_not_eq_true hsel) hr₃
        have hshort : r₃.1.length < s.length := by
          have h₁ := length_skipSpace_le s
          have h₂ := length_takeSelector_le (skipSpace s)
          have h₃ := r₃.2
          omega
        rw [hr₃]
        dsimp only
        refine (hmessage r₃.1 hshort).bind (fun f hf ↦ ⟨[], by rw [hf]; rfl⟩)
          (fun n ↦ .here hopen hnew) fun m hm ⟨hel, hhead, _⟩ ↦ ?_
        rw [hm]
        dsimp only
        refine tells_expect (fun f hf ↦ ⟨m.passedOver, by rw [hf]⟩) fun r₄ hr₄ hclose ↦ ?_
        rw [hclose.eq_cons_of_head hhead] at hel
        have ho := hoptions (String.ofList (takeSelector (skipSpace s)).1 :: seen) r₄.1
          (by have := r₄.2; have := m.le; omega)
        rw [hr₄]
        exact ho.map (fun f hf ↦ ⟨m.passedOver, by dsimp only; rw [hf]⟩)
          (fun n ↦ .later hopen hnew hel) fun os hos ↦ ⟨⟨_, os.rest, _, _⟩, by dsimp only; rw [hos],
            fun ⟨⟨t, hopts, ht⟩, _⟩ ↦
              ⟨⟨t, .one hopen hnew hel hopts, ht⟩, fun _ ↦ List.cons_ne_nil _ _⟩⟩

/-- What the reader finds is derived, and where it gives up for the length of an offset there is
such an offset. -/
theorem tells_all (n : Nat) : ∀ s : List Char, s.length < n →
    (∀ inPlural nested, MessageTells inPlural nested s) ∧ ArgumentTells s ∧
      ∀ inPlural seen, OptionsTell inPlural seen s := by
  induction n with
  | zero => exact fun s hs ↦ absurd hs (Nat.not_lt_zero _)
  | succ n ih =>
    intro s hs
    have hshorter : ∀ t : List Char, t.length < s.length → t.length < n := fun t ht ↦ by omega
    exact ⟨fun inPlural nested ↦ messageTells_of_shorter
        (fun t ht ↦ (ih t (hshorter t ht)).1 inPlural nested) fun t ht ↦ (ih t (hshorter t ht)).2.1,
      argumentTells_of_shorter fun inPlural seen t ht ↦ (ih t (hshorter t ht)).2.2 inPlural seen,
      fun inPlural seen ↦ optionsTell_of_shorter
        (fun t ht ↦ (ih t (hshorter t ht)).1 inPlural true)
        fun seen t ht ↦ (ih t (hshorter t ht)).2.2 inPlural seen⟩

theorem messageTells (inPlural nested : Bool) (s : List Char) : MessageTells inPlural nested s :=
  (tells_all (s.length + 1) s (Nat.lt_succ_self _)).1 inPlural nested

theorem argumentTells (s : List Char) : ArgumentTells s :=
  (tells_all (s.length + 1) s (Nat.lt_succ_self _)).2.1

end Phrasebook.Grammar
