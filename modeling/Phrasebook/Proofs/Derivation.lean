import Phrasebook.Proofs.Parsing

/-!
What the grammar derives is found by the reader. Each rule ends where the next character no longer
fits, so a derivation tells the reader what to find at each step, and this goes by induction on the
derivation. The same holds of a derivation that ends at an offset with too many digits.
-/

set_option autoImplicit false

namespace Phrasebook.Grammar

open Arithmetic Text Message

/-- What a reader finds and leaves, or why and where it fails. -/
def view {s : List Char} {α : Type} (o : Outcome s α) : Except (Cause × Nat) (α × List Char) :=
  match o with
  | .ok x => .ok (x.value, x.rest)
  | .error f => .error (f.cause, f.remaining)

theorem expect_of_sign {c : Char} {s t : List Char} (h : Sign c s t)
    (hc : isSpace c = false := by decide) : ∃ ht, expect c s = .ok ⟨t, ht⟩ := by
  cases he : expect c s with
  | error f => exact absurd h (not_sign_of_expect hc he)
  | ok r =>
    obtain ⟨-, rfl⟩ := Sign.unique (sign_of_expect he) h hc hc
    exact ⟨r.2, rfl⟩

theorem view_parseMessage_stop {inPlural nested : Bool} {s : List Char}
    (hs : ∀ c ∈ s.head?, c = '}') (hn : nested = true ∨ s = []) :
    view (parseMessage inPlural nested s) = .ok ([], s) := by
  cases s with
  | nil => rw [parseMessage]; rfl
  | cons c s =>
    obtain rfl : c = '}' := hs c rfl
    obtain rfl : nested = true := by simpa using hn
    rw [parseMessage]
    rfl

theorem view_parseMessage_text {inPlural : Bool} {s w t : List Char} (h : Piece inPlural s w t)
    (nested : Bool) : view (parseMessage inPlural nested s) =
      (view (parseMessage inPlural nested t)).map fun x ↦ (addText w x.1, x.2) := by
  obtain ⟨c, u, rfl⟩ := h.ne_nil
  obtain ⟨hopen, hclose, hpound, htake⟩ := piece_cons_iff.1 h
  rw [parseMessage, if_neg hopen, if_neg hclose, if_neg hpound]
  split at htake
  · rename_i hc
    obtain ⟨rfl, rfl⟩ : (takeApostrophe inPlural u).1 = w ∧ (takeApostrophe inPlural u).2 = t :=
      Prod.ext_iff.1 htake
    rw [if_pos hc]
    dsimp only
    cases parseMessage inPlural nested (takeApostrophe inPlural u).2 <;> rfl
  · rename_i hc
    cases htake
    rw [if_neg hc]
    cases parseMessage inPlural nested t <;> rfl

theorem view_parseMessage_pound (nested : Bool) (s : List Char) :
    view (parseMessage true nested ('#' :: s)) =
      (view (parseMessage true nested s)).map fun x ↦ (.pound :: x.1, x.2) := by
  rw [parseMessage, if_neg (by decide), if_neg (by decide), if_pos ⟨rfl, rfl⟩]
  cases parseMessage true nested s <;> rfl

/-- An argument is read first, and then the elements after it. -/
theorem view_parseMessage_argument (inPlural nested : Bool) (s : List Char) :
    view (parseMessage inPlural nested ('{' :: s)) =
      (view (parseArgument s)).bind fun e ↦
        (view (parseMessage inPlural nested e.2)).map fun x ↦ (e.1 :: x.1, x.2) := by
  rw [parseMessage, if_pos rfl]
  cases parseArgument s with
  | error f => rfl
  | ok e =>
    dsimp only [view, Except.bind]
    cases parseMessage inPlural nested e.rest <;> rfl

theorem view_parseArgument_plain {s t r : List Char} {name : String} (hname : Name s name t)
    (hr : Sign '}' t r) : view (parseArgument s) = .ok (.argument name, r) := by
  obtain ⟨hne, rfl, rfl⟩ := hname.scan (hr.head_not_nameChar (by decide))
  rw [parseArgument]
  dsimp only
  rw [if_neg (by simp [hne])]
  split
  · rename_i r' hr'
    obtain ⟨-, rfl⟩ := Sign.unique (sign_of_expect hr') hr (by decide) (by decide)
    rfl
  · rename_i f hf
    exact absurd hr (not_sign_of_expect (by decide) hf)

/-- The blanks, the sign `c`, and what follows them. -/
def afterSign {α : Type} (c : Char) (s : List Char)
    (next : List Char → Except (Cause × Nat) α) : Except (Cause × Nat) α :=
  match expect c s with
  | .error f => .error (f.cause, f.remaining)
  | .ok r => next r.1

theorem afterSign_eq {α : Type} {c : Char} {s t : List Char}
    {next : List Char → Except (Cause × Nat) α} (h : Sign c s t)
    (hc : isSpace c = false := by decide) : afterSign c s next = next t := by
  obtain ⟨ht, he⟩ := expect_of_sign h hc
  simp only [afterSign, he]

/-- What the reader makes of an argument after its type. -/
def afterType (name : String) (type : ArgumentType) (s : List Char) :
    Except (Cause × Nat) (Element × List Char) :=
  match type with
  | .formatted type => view (parseStyle name type s)
  | .plural kind => afterSign ',' s fun t ↦
    match takeOffset (skipSpace t) with
    | .error f => .error (f.cause, f.remaining)
    | .ok (offset, u) => (view (parseOptions true [] u.1)).bind fun os ↦
      afterSign '}' os.2 fun r ↦ .ok (.plural name kind offset os.1, r)
  | .select => afterSign ',' s fun t ↦ (view (parseOptions false [] t)).bind fun os ↦
    afterSign '}' os.2 fun r ↦ .ok (.select name os.1, r)

theorem ofWord?_typeWord (type : ArgumentType) :
    ArgumentType.ofWord? (typeWord type) = some type := by
  rcases type with (_ | _ | _) | (_ | _) | _ <;> decide

theorem letters_typeWord (type : ArgumentType) :
    (typeWord type).toList ≠ [] ∧ ∀ c ∈ (typeWord type).toList, isLetter c = true := by
  rcases type with (_ | _ | _) | (_ | _) | _ <;> decide

theorem view_parseArgument_typed {s t : List Char} {name : String} (type : ArgumentType)
    (h : Typed s name (typeWord type) t) (ht : ∀ c ∈ t.head?, isLetter c = false) :
    view (parseArgument s) = afterType name type t := by
  obtain ⟨u, v, hname, hcomma, hword⟩ := h
  obtain ⟨hne, rfl, rfl⟩ := hname.scan (hcomma.head_not_nameChar (by decide))
  rw [parseArgument]
  dsimp only
  rw [if_neg (by simp [hne])]
  split
  · rename_i r hr
    obtain ⟨hbad, -⟩ := Sign.unique (sign_of_expect hr) hcomma (by decide) (by decide)
    cases hbad
  · split
    · rename_i f hf
      exact absurd hcomma (not_sign_of_expect (by decide) hf)
    · rename_i r hr
      obtain ⟨-, rfl⟩ := Sign.unique (sign_of_expect hr) hcomma (by decide) (by decide)
      obtain ⟨hwne, hw, rfl⟩ :=
        word_scan (letters_typeWord type).1 (letters_typeWord type).2 hword ht
      rw [if_neg (by simp [hwne]), hw, ofWord?_typeWord]
      rcases type with type | kind | _
      · dsimp only [afterType]
        cases parseStyle _ type _ <;> rfl
      · dsimp only [afterType, afterSign]
        cases expect ',' ((skipSpace r.1).dropWhile isLetter) with
        | error f => rfl
        | ok r₅ =>
          dsimp only
          cases takeOffset (skipSpace r₅.1) with
          | error f => rfl
          | ok o =>
            dsimp only
            cases parseOptions true [] o.2.1 with
            | error f => rfl
            | ok os =>
              dsimp only [view, Except.bind]
              cases expect '}' os.rest <;> rfl
      · dsimp only [afterType, afterSign]
        cases expect ',' ((skipSpace r.1).dropWhile isLetter) with
        | error f => rfl
        | ok r₅ =>
          dsimp only
          cases parseOptions false [] r₅.1 with
          | error f => rfl
          | ok os =>
            dsimp only [view, Except.bind]
            cases expect '}' os.rest <;> rfl

theorem Opening.scan {s t : List Char} {selector : String} (h : Opening s selector t) :
    (∃ c r, skipSpace s = c :: r ∧ c ≠ '}') ∧ (takeSelector (skipSpace s)).1.isEmpty = false ∧
      String.ofList (takeSelector (skipSpace s)).1 = selector ∧
      Sign '{' (takeSelector (skipSpace s)).2 t := by
  obtain ⟨w, u, hw, rfl, hs, hu⟩ := h
  have htake := hw.takeSelector_append (t := u) fun c hc ↦ hu.head c hc
  obtain ⟨c, r, rfl, hc, -, hclose⟩ := hw.exists_cons
  have hskip : skipSpace s = c :: r ++ u := hs.skipSpace_cons hc
  rw [hskip, htake]
  exact ⟨⟨c, r ++ u, rfl, hclose⟩, rfl, rfl, hu⟩

theorem view_parseOptions_none {inPlural : Bool} {seen : List String} {s r : List Char}
    (h : Sign '}' s r) (hseen : seen ≠ []) :
    view (parseOptions inPlural seen s) = .ok ([], skipSpace s) := by
  rw [parseOptions]
  dsimp only
  rw [if_pos (.inr (by rw [h.skipSpace_cons (by decide)]; rfl)), if_neg (by simpa using hseen)]
  rfl

/-- An option is read first, and then the options after it. -/
theorem view_parseOptions_one {inPlural : Bool} {seen : List String} {s t : List Char}
    {selector : String} (h : Opening s selector t) (hseen : selector ∉ seen) :
    view (parseOptions inPlural seen s) = (view (parseMessage inPlural true t)).bind fun m ↦
      afterSign '}' m.2 fun r ↦ (view (parseOptions inPlural (selector :: seen) r)).map fun os ↦
        ((selector, m.1) :: os.1, os.2) := by
  obtain ⟨⟨c, r, hcr, hclose⟩, hne, rfl, hbrace⟩ := h.scan
  rw [parseOptions]
  dsimp only
  rw [if_neg (by simp [hcr, hclose]), if_neg (by simp [hne]), if_neg (by simpa using hseen)]
  split
  · rename_i f hf
    exact absurd hbrace (not_sign_of_expect (by decide) hf)
  · rename_i r₃ hr₃
    obtain ⟨-, rfl⟩ := Sign.unique (sign_of_expect hr₃) hbrace (by decide) (by decide)
    cases parseMessage inPlural true r₃.1 with
    | error f => rfl
    | ok m =>
      dsimp only [view, Except.bind, afterSign]
      cases expect '}' m.rest with
      | error f => rfl
      | ok r₄ =>
        dsimp only
        cases parseOptions inPlural (String.ofList (takeSelector (skipSpace s)).1 :: seen) r₄.1 <;>
          rfl

theorem Opening.of_skipSpace_eq {s s' t : List Char} {selector : String}
    (hs : skipSpace s' = skipSpace s) (h : Opening s selector t) : Opening s' selector t := by
  obtain ⟨w, u, hw, rfl, ht, hu⟩ := h
  refine ⟨w, u, hw, rfl, ?_, hu⟩
  obtain ⟨c, r, rfl, hc, -⟩ := hw.exists_cons
  have := blanks_skipSpace s'
  rwa [hs, ht.skipSpace_cons hc] at this

theorem Sign.of_skipSpace_eq {c : Char} {s s' t : List Char} (hs : skipSpace s' = skipSpace s)
    (h : Sign c s t) (hc : isSpace c = false := by decide) : Sign c s' t := by
  have := blanks_skipSpace s'
  rwa [hs, h.skipSpace_cons hc] at this

theorem OffsetDigits.of_skipSpace {s ds t : List Char} {negative : Bool}
    (h : OffsetDigits s negative ds t) : OffsetDigits (skipSpace s) negative ds t := by
  obtain ⟨b, hb, hoff, hds, ht⟩ := h
  exact ⟨b, hb, ((blanks_skipSpace s).cons_iff (c := 'o') (by decide)).1 hoff, hds, ht⟩

theorem skipSpace_skipSpace (s : List Char) : skipSpace (skipSpace s) = skipSpace s :=
  (Blanks.refl _).skipSpace_eq (head_skipSpace s)

/-- An offset is found after blanks are skipped, and what follows it is the same but for blanks. -/
theorem Offset.exists_skipSpace {s t : List Char} {n : Int} (h : Offset Readable s n t) :
    ∃ u hu, takeOffset (skipSpace s) = .ok (n, ⟨u, hu⟩) ∧ skipSpace u = skipSpace t := by
  cases h with
  | absent h =>
    obtain ⟨hu, he⟩ := takeOffset_of_offset (head_skipSpace s)
      (.absent fun u hu ↦ h u ((blanks_skipSpace s).trans hu))
    exact ⟨_, hu, he, skipSpace_skipSpace s⟩
  | given h hlen =>
    obtain ⟨hu, he⟩ := takeOffset_of_offset (head_skipSpace s) (.given h.of_skipSpace hlen)
    exact ⟨_, hu, he, rfl⟩

theorem Style.head_not_letter {s w t : List Char} (h : Style s w t) :
    ∀ c ∈ s.head?, isLetter c = false := by
  obtain ⟨v, hv, -⟩ := h
  exact hv.head_not_letter (by decide)

theorem ArgumentEnd.head_not_letter {fits : Nat → Prop} {name : String} {type : ArgumentType}
    {s r : List Char} {e : Element} (h : ArgumentEnd fits name type s e r) :
    ∀ c ∈ s.head?, isLetter c = false := by
  rcases h with (hr | ⟨hw, -⟩) | ⟨hs, -⟩ | ⟨hs, -⟩
  · exact hr.head_not_letter (by decide)
  · exact hw.head_not_letter
  · exact hs.head_not_letter (by decide)
  · exact hs.head_not_letter (by decide)

theorem view_parseStyle {name : String} {type : FormattedType} {s t : List Char} {e : Element}
    (h : StyleEnd name type s e t) : view (parseStyle name type s) = .ok (e, t) := by
  obtain ⟨x, hx, rfl, rfl⟩ := parseStyle_of_styleEnd h
  rw [hx]
  rfl

mutual

theorem Elements.view_eq {inPlural : Bool} {s r : List Char} {m : Message}
    (h : Elements Readable inPlural s m r) (nested : Bool) (hn : nested = true ∨ r = []) :
    view (parseMessage inPlural nested s) = .ok (m, r) :=
  match h with
  | .stop hs => view_parseMessage_stop hs hn
  | .text hp hm => by
    rw [view_parseMessage_text hp, hm.view_eq nested hn]
    rfl
  | .pound hm => by
    rw [view_parseMessage_pound, hm.view_eq nested hn]
    rfl
  | .argument he hm => by
    rw [view_parseMessage_argument, he.view_eq]
    dsimp only [Except.bind]
    rw [hm.view_eq nested hn]
    rfl

theorem Argument.view_eq {s r : List Char} {e : Element} (h : Argument Readable s e r) :
    view (parseArgument s) = .ok (e, r) :=
  match h with
  | .plain hname hr => view_parseArgument_plain hname hr
  | .typed ht he => by
    rw [view_parseArgument_typed _ ht he.head_not_letter]
    exact he.afterType_eq

theorem ArgumentEnd.afterType_eq {name : String} {type : ArgumentType} {s r : List Char}
    {e : Element} (h : ArgumentEnd Readable name type s e r) : afterType name type s = .ok (e, r) :=
  match h with
  | .formatted he => view_parseStyle he
  | .plural hs hu ho hne hr => by
    obtain ⟨w, hw, htake, hskip⟩ := hu.exists_skipSpace
    obtain ⟨x, hx, hsign⟩ := ho.view_eq hr (fun _ ↦ hne) w hskip
    rw [afterType, afterSign_eq hs, htake]
    dsimp only
    rw [hx]
    dsimp only [Except.bind]
    rw [afterSign_eq hsign]
  | .select hs ho hne hr => by
    obtain ⟨x, hx, hsign⟩ := ho.view_eq hr (fun _ ↦ hne) _ rfl
    rw [afterType, afterSign_eq hs, hx]
    dsimp only [Except.bind]
    rw [afterSign_eq hsign]

theorem Options.view_eq {inPlural : Bool} {seen : List String} {s t r : List Char}
    {os : List (String × Message)} (h : Options Readable inPlural seen s os t) (hr : Sign '}' t r)
    (hos : seen = [] → os ≠ []) (s' : List Char) (hs : skipSpace s' = skipSpace s) :
    ∃ t', view (parseOptions inPlural seen s') = .ok (os, t') ∧ Sign '}' t' r :=
  match h with
  | .none =>
    ⟨_, view_parseOptions_none (hr.of_skipSpace_eq hs) fun h ↦ hos h rfl,
      hr.of_skipSpace_eq (by rw [skipSpace_skipSpace, hs])⟩
  | .one ho hsel hm hrest => by
    obtain ⟨t', ht', hsign⟩ := hrest.view_eq hr (fun h ↦ absurd h (List.cons_ne_nil _ _)) _ rfl
    refine ⟨t', ?_, hsign⟩
    rw [view_parseOptions_one (ho.of_skipSpace_eq hs) hsel, hm.view_eq true (.inl rfl)]
    dsimp only [Except.bind]
    rw [afterSign_eq (Sign.of_cons '}' _), ht']
    rfl

end

/-- The reader gives up for the length of an offset. -/
def GivesUp {s : List Char} {α : Type} (o : Outcome s α) (n : Nat) : Prop :=
  ∃ k, view o = .error (.longOffset ⟨n⟩, k)

mutual

theorem LongOffset.givesUp {inPlural : Bool} {s : List Char} {n : Nat}
    (h : LongOffset inPlural s n) (nested : Bool) : GivesUp (parseMessage inPlural nested s) n :=
  match h with
  | .text hp hl => by
    obtain ⟨k, hk⟩ := hl.givesUp nested
    exact ⟨k, by rw [view_parseMessage_text hp, hk]; rfl⟩
  | .pound hl => by
    obtain ⟨k, hk⟩ := hl.givesUp nested
    exact ⟨k, by rw [view_parseMessage_pound, hk]; rfl⟩
  | .argument he hl => by
    obtain ⟨k, hk⟩ := hl.givesUp nested
    exact ⟨k, by
      rw [view_parseMessage_argument, he.view_eq]
      dsimp only [Except.bind]
      rw [hk]
      rfl⟩
  | .inArgument hl => by
    obtain ⟨k, hk⟩ := hl.givesUp
    exact ⟨k, by rw [view_parseMessage_argument, hk]; rfl⟩

theorem LongOffsetInArgument.givesUp {s : List Char} {n : Nat} (h : LongOffsetInArgument s n) :
    GivesUp (parseArgument s) n :=
  match h with
  | .here ht hu hd hlen => by
    obtain ⟨f, hf, hcause⟩ := takeOffset_of_long (head_skipSpace _) hd.of_skipSpace hlen
    refine ⟨f.remaining, ?_⟩
    rw [view_parseArgument_typed _ ht (hu.head_not_letter (by decide)), afterType,
      afterSign_eq hu, hf, ← hcause]
  | .plural ht hu hv hl => by
    obtain ⟨w, hw, htake, hskip⟩ := hv.exists_skipSpace
    obtain ⟨k, hk⟩ := hl.givesUp w hskip
    refine ⟨k, ?_⟩
    rw [view_parseArgument_typed _ ht (hu.head_not_letter (by decide)), afterType,
      afterSign_eq hu, htake]
    dsimp only
    rw [hk]
    rfl
  | .select ht hu hl => by
    obtain ⟨k, hk⟩ := hl.givesUp _ rfl
    refine ⟨k, ?_⟩
    rw [view_parseArgument_typed _ ht (hu.head_not_letter (by decide)), afterType,
      afterSign_eq hu, hk]
    rfl

theorem LongOffsetInOptions.givesUp {inPlural : Bool} {seen : List String} {s : List Char} {n : Nat}
    (h : LongOffsetInOptions inPlural seen s n) (s' : List Char) (hs : skipSpace s' = skipSpace s) :
    GivesUp (parseOptions inPlural seen s') n :=
  match h with
  | .here ho hsel hl => by
    obtain ⟨k, hk⟩ := hl.givesUp true
    exact ⟨k, by rw [view_parseOptions_one (ho.of_skipSpace_eq hs) hsel, hk]; rfl⟩
  | .later ho hsel hm hl => by
    obtain ⟨k, hk⟩ := hl.givesUp _ rfl
    refine ⟨k, ?_⟩
    rw [view_parseOptions_one (ho.of_skipSpace_eq hs) hsel, hm.view_eq true (.inl rfl)]
    dsimp only [Except.bind]
    rw [afterSign_eq (Sign.of_cons '}' _), hk]
    rfl

end

/-! ### Templates -/

theorem parse_of_ok {template : String} {x : Parsed template.toList Message}
    (h : parseMessage false false template.toList = .ok x) : parse template = .ok x.value := by
  unfold Message.parse Message.read
  dsimp only
  rw [h]

theorem parse_of_error {template : String} {f : Failure}
    (h : parseMessage false false template.toList = .error f) :
    parse template = .error (f.inTemplate template) := by
  unfold Message.parse Message.read
  dsimp only
  rw [h]

/-- A template is read as the message that it is the text of, when all offsets are readable. -/
theorem parse_of_elements {template : String} {m : Message}
    (h : Elements Readable false template.toList m []) : parse template = .ok m := by
  have hview := h.view_eq false (.inr rfl)
  cases hp : parseMessage false false template.toList with
  | ok x =>
    rw [hp] at hview
    injection hview with hview
    rw [parse_of_ok hp, (Prod.mk.inj hview).1]
  | error f =>
    rw [hp] at hview
    cases hview

theorem elements_of_parse {template : String} {m : Message} (h : parse template = .ok m) :
    Elements Readable false template.toList m [] := by
  cases hp : parseMessage false false template.toList with
  | ok x =>
    rw [parse_of_ok hp] at h
    cases h
    obtain ⟨hm, -, hrest⟩ := (messageTells false false template.toList).ok hp
    rw [hrest rfl] at hm
    exact hm
  | error f =>
    rw [parse_of_error hp] at h
    cases h

theorem parse_of_hasLongOffset {template : String} {n : Nat} (h : HasLongOffset template n) :
    parse template = .error (.longOffset ⟨n⟩) := by
  obtain ⟨k, hk⟩ := LongOffset.givesUp h false
  cases hp : parseMessage false false template.toList with
  | ok x =>
    rw [hp] at hk
    cases hk
  | error f =>
    rw [hp] at hk
    injection hk with hk
    rw [parse_of_error hp, Failure.inTemplate, (Prod.mk.inj hk).1]

theorem hasLongOffset_of_parse {template : String} {l : LongNumeral}
    (h : parse template = .error (.longOffset l)) : HasLongOffset template l.digits := by
  have htells := messageTells false false template.toList
  unfold MessageTells at htells
  cases hp : parseMessage false false template.toList with
  | ok x =>
    rw [parse_of_ok hp] at h
    cases h
  | error f =>
    rw [hp] at htells
    rw [parse_of_error hp] at h
    injection h with h
    unfold Failure.inTemplate at h
    split at h
    · cases h
    · rename_i l' hl'
      injection h with h
      rw [← h]
      exact htells l' hl'

end Phrasebook.Grammar
