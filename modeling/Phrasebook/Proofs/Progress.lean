import Phrasebook.Proofs.Derivation
import Phrasebook.Proofs.MessageParts
import Phrasebook.Proofs.Moves

/-!
The reader moves on and stays inside the template.

Its parts call each other on shorter and shorter texts, and the moves of each lead onward from where
it begins to where the next part begins, or to the place where it fails. So a template is read in at
most as many moves as it has characters, and one more where the reader jumps to the place that it
names for a failure. Arguments and options have at least three characters, and a message has no more
elements at all depths than its template has characters.
-/

set_option autoImplicit false

namespace Phrasebook

/-! ### Elements at all depths -/

mutual

/-- The number of elements in an element, itself included. -/
def Element.size : Element → Nat
  | .plural _ _ _ os | .select _ os => optionsSize os + 1
  | .literal _ | .argument _ | .pound | .number _ _ _ | .date _ _ _ | .time _ _ _ | .foreign _ => 1

/-- The number of elements in a message, at all depths. -/
def messageSize : Message → Nat
  | [] => 0
  | e :: es => e.size + messageSize es

/-- The number of elements in the messages of options. -/
def optionsSize : List (String × Message) → Nat
  | [] => 0
  | (_, m) :: os => messageSize m + optionsSize os

end

theorem Element.size_pos (e : Element) : 0 < e.size := by
  cases e <;> exact Nat.succ_pos _

/-- A text that joins the one behind it is no element more. -/
theorem messageSize_addText_le (w : List Char) (m : Message) :
    messageSize (Message.addText w m) ≤ messageSize m + 1 := by
  unfold Message.addText
  split
  · simp only [messageSize, Element.size]
    omega
  · split
    · omega
    · simp only [messageSize, Element.size]
      omega

namespace Grammar

open Message

/-! ### Lengths of parts -/

theorem Sign.length_lt {c : Char} {s t : List Char} (h : Sign c s t) : t.length < s.length :=
  (Blanks.suffix h).length_le

theorem Name.length_lt {s t : List Char} {name : String} (h : Name s name t) :
    t.length < s.length := by
  obtain ⟨w, hne, -, -, hw⟩ := h
  have hle := hw.suffix.length_le
  have hpos := List.length_pos_iff.2 hne
  rw [List.length_append] at hle
  omega

theorem Piece.length_lt {inPlural : Bool} {s w t : List Char} (h : Piece inPlural s w t) :
    t.length < s.length := by
  cases h with
  | char => exact Nat.lt_succ_self _
  | doubled => exact Nat.lt_succ_of_lt (Nat.lt_succ_self _)
  | quoted _ hrun => exact Nat.lt_succ_of_le hrun.suffix.length_le
  | lone => exact Nat.lt_succ_self _

theorem Typed.length_lt {s t : List Char} {name word : String} (h : Typed s name word t) :
    t.length + 1 < s.length := by
  obtain ⟨u, v, hname, hcomma, hword⟩ := h
  have hle := ((List.suffix_append _ t).trans hword.suffix).length_le
  have hname := hname.length_lt
  have hcomma := hcomma.length_lt
  omega

theorem StyleEnd.length_lt {name : String} {type : FormattedType} {s t : List Char} {e : Element}
    (h : StyleEnd name type s e t) : t.length < s.length := by
  cases h with
  | unstyled hsign => exact hsign.length_lt
  | styled hstyle _ =>
    obtain ⟨v, hsign, -⟩ := hstyle
    have hlt := hsign.length_lt
    rw [List.length_append, List.length_cons] at hlt
    omega

theorem StyleEnd.size {name : String} {type : FormattedType} {s t : List Char} {e : Element}
    (h : StyleEnd name type s e t) : e.size = 1 :=
  h.forall_shown (fun _ _ ↦ rfl) (fun _ _ ↦ rfl) fun _ _ ↦ rfl

theorem Opening.length_lt {s t : List Char} {selector : String} (h : Opening s selector t) :
    t.length + 1 < s.length := by
  obtain ⟨w, u, hselector, -, hw, hsign⟩ := h
  obtain ⟨c, r, rfl, -⟩ := hselector.exists_cons
  have hle := hw.suffix.length_le
  have hsign := hsign.length_lt
  rw [List.length_append, List.length_cons] at hle
  omega

section Sizes

variable {fits : Nat → Prop}

mutual

/-- What is derived has no more elements than the text has characters. -/
theorem Elements.size_add_le {inPlural : Bool} {s r : List Char} {m : Message}
    (h : Elements fits inPlural s m r) : messageSize m + r.length ≤ s.length :=
  match h with
  | .stop _ => by rw [messageSize, Nat.zero_add]
  | .text (w := w) (m := m) hpiece hm => by
    have hlt := hpiece.length_lt
    have hle := hm.size_add_le
    have hjoin := messageSize_addText_le w m
    omega
  | .pound hm => by
    have hle := hm.size_add_le
    rw [messageSize, Element.size, List.length_cons]
    omega
  | .argument he hm => by
    have hlt := he.size_add_lt
    have hle := hm.size_add_le
    rw [messageSize, List.length_cons]
    omega
termination_by structural h

theorem Argument.size_add_lt {s r : List Char} {e : Element} (h : Argument fits s e r) :
    e.size + r.length < s.length :=
  match h with
  | .plain hname hsign => by
    have hlt := hname.length_lt
    have hclose := hsign.length_lt
    rw [Element.size]
    omega
  | .typed htyped he => by
    have hlt := htyped.length_lt
    have hle := he.size_add_le
    omega
termination_by structural h

theorem ArgumentEnd.size_add_le {name : String} {type : ArgumentType} {s r : List Char}
    {e : Element} (h : ArgumentEnd fits name type s e r) : e.size + r.length ≤ s.length :=
  match h with
  | .formatted he => by
    rw [he.size, Nat.add_comm]
    exact he.length_lt
  | .plural hcomma hoffset hos _ hclose => by
    have hcomma := hcomma.length_lt
    have hoffset := hoffset.suffix.length_le
    have hle := hos.size_add_le
    have hclose := hclose.length_lt
    rw [Element.size]
    omega
  | .select hcomma hos _ hclose => by
    have hcomma := hcomma.length_lt
    have hle := hos.size_add_le
    have hclose := hclose.length_lt
    rw [Element.size]
    omega
termination_by structural h

theorem Options.size_add_le {inPlural : Bool} {seen : List String} {s r : List Char}
    {os : List (String × Message)} (h : Options fits inPlural seen s os r) :
    optionsSize os + r.length ≤ s.length :=
  match h with
  | .none => by rw [optionsSize, Nat.zero_add]
  | .one ho _ hm hos => by
    have hlt := ho.length_lt
    have hmessage := hm.size_add_le
    have hle := hos.size_add_le
    rw [List.length_cons] at hmessage
    rw [optionsSize]
    omega
termination_by structural h

end

end Sizes

end Grammar

namespace Message

open Grammar Text

/-! ### Moves through messages -/

mutual

/-- A part of the reader that goes through `s` makes the moves that there are, and the next part
begins where they end. -/
theorem moves_parseMessage (inPlural nested : Bool) (s : List Char) :
    Moves s (messageMoves inPlural s) (parseMessage inPlural nested s) Parsed.rest := by
  cases s with
  | nil =>
    rw [messageMoves, parseMessage]
    exact .here []
  | cons c s =>
    rw [messageMoves, parseMessage]
    split
    · refine Moves.next ?_ ((Onward.here s).cons c)
      refine (moves_parseArgument s).bind (fun f hf ↦ by rw [hf]) fun e he ↦ ?_
      rw [he]
      have := e.le
      have hrest := moves_parseMessage inPlural nested e.rest
      dsimp only
      exact hrest.map (fun f hf ↦ ⟨e.passedOver, by rw [hf]⟩) fun m hm ↦
        ⟨⟨_, m.rest, _, _⟩, rfl, by rw [hm]⟩
    · split
      · split
        · exact .here _
        · exact .fail _ _
      · -- the move over a number sign is that over any other character
        by_cases hquote : c = '\''
        · have hle := length_takeApostrophe_le inPlural s
          have hrest := moves_parseMessage inPlural nested (takeApostrophe inPlural s).2
          have hnot : ¬ (c = '#' ∧ inPlural = true) := by
            rw [hquote]
            exact fun h ↦ absurd h.1 (by decide)
          rw [if_pos hquote, if_neg hnot, if_pos hquote]
          refine Moves.after ?_ (hquote ▸ onward_apostropheMoves inPlural s)
          exact hrest.map (fun f hf ↦ ⟨[], by rw [hf]; rfl⟩) fun m hm ↦
            ⟨⟨_, m.rest, _, _⟩, rfl, by rw [hm]⟩
        · have hrest := moves_parseMessage inPlural nested s
          rw [if_neg hquote, if_neg hquote]
          refine Moves.next ?_ ((Onward.here s).cons c)
          split
          · exact hrest.map (fun f hf ↦ ⟨[], by rw [hf]; rfl⟩) fun m hm ↦
              ⟨⟨_, m.rest, _, _⟩, rfl, by rw [hm]⟩
          · exact hrest.map (fun f hf ↦ ⟨[], by rw [hf]; rfl⟩) fun m hm ↦
              ⟨⟨_, m.rest, _, _⟩, rfl, by rw [hm]⟩
termination_by 2 * s.length

theorem moves_parseArgument (s : List Char) :
    Moves s (argumentMoves s) (parseArgument s) Parsed.rest := by
  rw [argumentMoves, parseArgument]
  refine Moves.after ?_ (onward_spaceMoves s)
  dsimp only
  split
  · exact .fail _ _
  · rename_i hname
    have hs₁ := length_skipSpace_le s
    have hs₂ := length_dropWhile_le isNameChar (skipSpace s)
    refine Moves.next ?_ (onward_dropWhile (by simpa using hname))
    -- a closing brace that is missing is no failure yet
    cases hclose : expect '}' ((skipSpace s).dropWhile isNameChar) with
    | ok r =>
      have hmoves := moves_expect '}' ((skipSpace s).dropWhile isNameChar)
      rw [hclose] at hmoves
      exact hmoves
    | error f =>
      dsimp only
      refine (moves_expect ',' _).bind (fun f hf ↦ by rw [hf]) fun r hr ↦ ?_
      have hlt := r.2
      have hs₃ := length_skipSpace_le r.1
      have hs₄ := length_dropWhile_le isLetter (skipSpace r.1)
      rw [hr]
      dsimp only
      refine Moves.after ?_ (onward_spaceMoves r.1)
      split
      · exact .fail _ _
      · rename_i hword
        have hone := onward_dropWhile (s := skipSpace r.1) (p := isLetter) (by simpa using hword)
        cases ArgumentType.ofWord? (String.ofList ((skipSpace r.1).takeWhile isLetter)) with
        | none =>
          -- the reader stands after the word and goes back to where it begins
          exact .halt (.jump (.inr ⟨_, rfl⟩) hone List.suffix_rfl) rfl
        | some type =>
          refine Moves.next ?_ hone
          cases type with
          | formatted type =>
            dsimp only
            exact (moves_parseStyle _ type _).map (fun f hf ↦ ⟨[], by rw [hf]; rfl⟩)
              fun e he ↦ ⟨⟨_, e.rest, _, _⟩, rfl, by rw [he]⟩
          | plural kind =>
            dsimp only
            refine (moves_expect ',' _).bind (fun f hf ↦ by rw [hf]) fun r₅ hr₅ ↦ ?_
            have hlt₅ := r₅.2
            have hs₅ := length_skipSpace_le r₅.1
            rw [hr₅]
            dsimp only
            refine Moves.after ?_ (onward_spaceMoves r₅.1)
            refine (moves_takeOffset _).bind (fun f hf ↦ by rw [hf]) fun o ho ↦ ?_
            have hle := o.2.2
            rw [ho]
            dsimp only
            exact (moves_parseOptions true [] o.2.1).closed (fun f hf ↦ by rw [hf])
              (fun os f hos hf ↦ by rw [hos]; dsimp only; rw [hf])
              fun os r₇ hos hr₇ ↦ ⟨⟨_, r₇.1, _, _⟩, rfl, by rw [hos]; dsimp only; rw [hr₇]⟩
          | select =>
            dsimp only
            refine (moves_expect ',' _).bind (fun f hf ↦ by rw [hf]) fun r₅ hr₅ ↦ ?_
            have hlt₅ := r₅.2
            rw [hr₅]
            dsimp only
            exact (moves_parseOptions false [] r₅.1).closed (fun f hf ↦ by rw [hf])
              (fun os f hos hf ↦ by rw [hos]; dsimp only; rw [hf])
              fun os r₆ hos hr₆ ↦ ⟨⟨_, r₆.1, _, _⟩, rfl, by rw [hos]; dsimp only; rw [hr₆]⟩
termination_by 2 * s.length

theorem moves_parseOption (inPlural : Bool) (seen : List String) (s : List Char) :
    Moves s (optionMoves inPlural seen s) (parseOption inPlural seen s) Parsed.rest := by
  have happend := takeSelector_append s
  have hle := length_takeSelector_le s
  rw [optionMoves, parseOption]
  dsimp only
  split
  · exact .fail _ _
  · rename_i hne
    refine Moves.next ?_ (.one ⟨_, happend⟩ ?_)
    · split
      · exact .fail _ _
      · refine (moves_expect '{' (takeSelector s).2).bind (fun f hf ↦ by rw [hf])
          fun r₃ hr₃ ↦ ?_
        have hlt := r₃.2
        rw [hr₃]
        dsimp only
        exact (moves_parseMessage inPlural true r₃.1).closed (fun f hf ↦ by rw [hf])
          (fun m f hm hf ↦ by rw [hm]; dsimp only; rw [hf])
          fun m r₄ hm hr₄ ↦ ⟨⟨_, r₄.1, _, _⟩, rfl, by rw [hm]; dsimp only; rw [hr₄]⟩
    · have happend := congrArg List.length happend
      have hselector : 0 < (takeSelector s).1.length := by
        rw [List.length_pos_iff]
        simpa using hne
      rw [List.length_append] at happend
      omega
termination_by 2 * s.length

theorem moves_parseOptions (inPlural : Bool) (seen : List String) (s : List Char) :
    Moves s (optionsMoves inPlural seen s) (parseOptions inPlural seen s) Parsed.rest := by
  have hle := length_skipSpace_le s
  rw [optionsMoves, parseOptions_eq]
  refine Moves.after ?_ (onward_spaceMoves s)
  split
  · split
    · exact .fail _ _
    · exact .here _
  · have hoption := moves_parseOption inPlural seen (skipSpace s)
    dsimp only
    split
    · rename_i o ho
      have hlt := length_parseOption ho
      rw [ho] at hoption ⊢
      refine Moves.after ?_ hoption
      have hrest := moves_parseOptions inPlural (o.value.1 :: seen) o.rest
      dsimp only
      exact hrest.map (fun f hf ↦ ⟨o.passedOver, by rw [hf]⟩) fun os hos ↦
        ⟨⟨_, os.rest, _, _⟩, rfl, by rw [hos]⟩
    · rename_i f hf
      rw [hf] at hoption ⊢
      rw [List.append_nil]
      exact hoption
termination_by 2 * s.length + 1

end

/-- A failure is never said of a place before the text that was read. -/
theorem remaining_le_of_parseMessage {inPlural nested : Bool} {s : List Char} {f : Failure}
    (h : parseMessage inPlural nested s = .error f) : f.remaining ≤ s.length := by
  have hmoves := moves_parseMessage inPlural nested s
  rw [h] at hmoves
  exact hmoves.1

/-! ### Rows of moves -/

/-- Each place leaves less than the ones before. -/
def Descending (places : List (List Char)) : Prop :=
  places.Pairwise fun s t ↦ t.length < s.length

section Rows

variable {s t u : List Char} {moves : List (List Char)} {cause : Cause}

theorem Onward.suffix_of_mem (h : Onward s moves t) (hu : u ∈ s :: moves) : u <:+ s := by
  induction h with
  | here s =>
    obtain rfl := List.mem_singleton.1 hu
    exact List.suffix_rfl
  | move ht _ _ ih =>
    rcases List.mem_cons.1 hu with rfl | hu
    · exact List.suffix_rfl
    · exact (ih hu).trans ht

theorem Onward.descending (h : Onward s moves t) : Descending (s :: moves) := by
  induction h with
  | here s => exact List.pairwise_singleton _ s
  | move _ hlt h ih =>
    refine List.pairwise_cons.2 ⟨fun u hu ↦ ?_, ih⟩
    exact Nat.lt_of_le_of_lt (h.suffix_of_mem hu).length_le hlt

theorem Onward.length_add_le (h : Onward s moves t) : moves.length + t.length ≤ s.length := by
  induction h with
  | here => exact Nat.le_of_eq (Nat.zero_add _)
  | move _ hlt _ ih =>
    rw [List.length_cons]
    omega

theorem Onward.getLast? (h : Onward s moves t) : (s :: moves).getLast? = some t := by
  induction h with
  | here => rfl
  | move _ _ _ ih => rw [List.getLast?_cons_cons, ih]

theorem Halts.suffix_of_mem (h : Halts cause s moves t) (hu : u ∈ s :: moves) : u <:+ s := by
  cases h with
  | onward h => exact h.suffix_of_mem hu
  | jump _ h ht =>
    rw [← List.cons_append, List.mem_append, List.mem_singleton] at hu
    rcases hu with hu | rfl
    · exact h.suffix_of_mem hu
    · exact ht

theorem Halts.descending (h : Halts cause s moves t) : Descending (s :: moves) ∨ cause.Jumps := by
  cases h with
  | onward h => exact .inl h.descending
  | jump hjump => exact .inr hjump

theorem Halts.descending_dropLast (h : Halts cause s moves t) :
    Descending (s :: moves).dropLast := by
  cases h with
  | onward h => exact h.descending.sublist (List.dropLast_sublist _)
  | jump _ h =>
    rw [← List.cons_append, List.dropLast_concat]
    exact h.descending

theorem Halts.length_le (h : Halts cause s moves t) : moves.length ≤ s.length + 1 := by
  cases h with
  | onward h =>
    have hle := h.length_add_le
    omega
  | jump _ h =>
    have hle := h.length_add_le
    rw [List.length_append, List.length_singleton]
    omega

theorem Halts.getLast? (h : Halts cause s moves t) : (s :: moves).getLast? = some t := by
  cases h with
  | onward h => exact h.getLast?
  | jump => rw [← List.cons_append, List.getLast?_concat]

end Rows

/-! ### Templates -/

/-- The reader comes to the end of a template that is a message. -/
theorem onward_of_parse {template : String} {m : Message} (h : parse template = .ok m) :
    Onward template.toList (messageMoves false template.toList) [] := by
  have hmoves := moves_parseMessage false false template.toList
  cases hp : parseMessage false false template.toList with
  | ok x =>
    rw [hp] at hmoves
    have hend := ((messageTells false false template.toList).ok hp).2.2 rfl
    exact hend ▸ hmoves
  | error f =>
    rw [parse_of_error hp] at h
    cases h

theorem halts_of_parse {template : String} {fault : TemplateFault}
    (h : parse template = .error fault) : ∃ f : Failure, f.inTemplate template = fault ∧
      ∃ t, Halts f.cause template.toList (messageMoves false template.toList) t ∧ f.At t := by
  have hmoves := moves_parseMessage false false template.toList
  cases hp : parseMessage false false template.toList with
  | ok x =>
    rw [parse_of_ok hp] at h
    cases h
  | error f =>
    rw [hp] at hmoves
    rw [parse_of_error hp] at h
    exact ⟨f, Except.error.inj h, hmoves.2⟩

/-- The reader halts. -/
theorem exists_halts (template : String) :
    ∃ cause t, Halts cause template.toList (messageMoves false template.toList) t := by
  cases hp : parse template with
  | ok m => exact ⟨.notMessage .unmatchedBrace, [], .onward (onward_of_parse hp)⟩
  | error fault =>
    obtain ⟨f, -, t, ht, -⟩ := halts_of_parse hp
    exact ⟨f.cause, t, ht⟩

/-- An argument has a name and two braces. -/
theorem length_parseArgument {s : List Char} {e : Parsed s Element}
    (h : parseArgument s = .ok e) : e.rest.length + 3 ≤ ('{' :: s).length := by
  have hsize := ((argumentTells s).ok h).size_add_lt
  have hpos := Element.size_pos e.value
  rw [List.length_cons]
  omega

theorem exists_drop_of_suffix {template : String} {t : List Char} (h : t <:+ template.toList) :
    ∃ position ≤ template.length, t = template.toList.drop position := by
  refine ⟨template.length - t.length, Nat.sub_le _ _, ?_⟩
  rw [← String.length_toList]
  exact List.suffix_iff_eq_drop.1 h

/-- The place of an error is the one that the reader came to last. -/
theorem position_of_error {template : String} {e : SyntaxError}
    (h : parse template = .error (.notMessage e)) : e.position ≤ template.length ∧
      (places template).getLast? = some (template.toList.drop e.position) := by
  obtain ⟨f, hf, t, ht, hat⟩ := halts_of_parse h
  unfold Failure.inTemplate at hf
  split at hf
  · rename_i reason hreason
    cases hf
    refine ⟨Nat.sub_le _ _, ?_⟩
    rw [places, ht.getLast?, hat reason hreason, ← String.length_toList]
    exact congrArg some (List.suffix_iff_eq_drop.1 ht.suffix)
  · cases hf

/-- The moves lead onward, but for a jump at the end. -/
theorem descending_or_jumps (template : String) : Descending (places template) ∨
    ∃ e, parse template = .error (.notMessage e) ∧
      (e.reason = .unterminated ∨ ∃ word, e.reason = .unknownType word) := by
  cases hp : parse template with
  | ok m => exact .inl (onward_of_parse hp).descending
  | error fault =>
    obtain ⟨f, rfl, t, ht, -⟩ := halts_of_parse hp
    refine ht.descending.imp_right fun hjump ↦ ?_
    rcases hjump with hcause | ⟨word, hcause⟩
    · exact ⟨⟨.unterminated, _, template⟩, by rw [Failure.inTemplate, hcause], .inl rfl⟩
    · exact ⟨⟨.unknownType word, _, template⟩, by rw [Failure.inTemplate, hcause],
        .inr ⟨word, rfl⟩⟩

/-- The moves of every part of the reader are the ones that the part makes: they lead from the place
where it begins to the one that it leaves to the next part, or to the one where it fails. -/
theorem moves_reader (s : List Char) :
    (∀ inPlural nested,
      Moves s (messageMoves inPlural s) (parseMessage inPlural nested s) Parsed.rest) ∧
    Moves s (argumentMoves s) (parseArgument s) Parsed.rest ∧
    (∀ inPlural seen,
      Moves s (optionsMoves inPlural seen s) (parseOptions inPlural seen s) Parsed.rest ∧
      Moves s (optionMoves inPlural seen s) (parseOption inPlural seen s) Parsed.rest) ∧
    (∀ name type, Moves s (styleMoves s) (parseStyle name type s) Parsed.rest) ∧
    Moves s (offsetMoves s) (takeOffset s) (fun o ↦ o.2.1) ∧
    (∀ c, Moves s (expectMoves c s) (expect c s) Subtype.val) ∧
    (∀ inPlural, Onward ('\'' :: s) (apostropheMoves inPlural s) (takeApostrophe inPlural s).2) ∧
    Onward s (spaceMoves s) (skipSpace s) :=
  ⟨fun inPlural nested ↦ moves_parseMessage inPlural nested s, moves_parseArgument s,
    fun inPlural seen ↦ ⟨moves_parseOptions inPlural seen s, moves_parseOption inPlural seen s⟩,
    fun name type ↦ moves_parseStyle name type s, moves_takeOffset s, fun c ↦ moves_expect c s,
    fun inPlural ↦ onward_apostropheMoves inPlural s, onward_spaceMoves s⟩

/-- A template is read in moves that end, at most one more than it has characters, and the reader
stands inside the template after each of them. The places are those of the reader: the moves of each
of its parts lead to where the next part begins (`moves_reader`). They lead onward, and only the last
one may jump: to the end for a style that does not end, or back to a type that is not known. An
argument has at least three characters, its braces included, and so has an option
(`parseOptions_eq`). What is read ends at the end of the template and has no more elements at all
depths than the template has characters. The place of an error lies in the template and is the one
that the reader came to last. -/
theorem places_advance (template : String) :
    (places template).length ≤ template.length + 2 ∧
    (∀ place ∈ places template,
      ∃ position ≤ template.length, place = template.toList.drop position) ∧
    Descending (places template).dropLast ∧
    (Descending (places template) ∨ ∃ e, parse template = .error (.notMessage e) ∧
      (e.reason = .unterminated ∨ ∃ word, e.reason = .unknownType word)) ∧
    (∀ s (e : Parsed s Element), parseArgument s = .ok e →
      e.rest.length + 3 ≤ ('{' :: s).length) ∧
    (∀ inPlural seen s (o : Parsed s (String × Message)), parseOption inPlural seen s = .ok o →
      o.rest.length + 3 ≤ s.length) ∧
    (∀ m, parse template = .ok m →
      (places template).getLast? = some [] ∧ messageSize m ≤ template.length) ∧
    ∀ e, parse template = .error (.notMessage e) → e.position ≤ template.length ∧
      (places template).getLast? = some (template.toList.drop e.position) := by
  obtain ⟨cause, t, ht⟩ := exists_halts template
  refine ⟨?_, fun place hplace ↦ exists_drop_of_suffix (ht.suffix_of_mem hplace),
    ht.descending_dropLast, descending_or_jumps template, fun _ _ ↦ length_parseArgument,
    fun _ _ _ _ ↦ length_parseOption, fun m hm ↦ ⟨(onward_of_parse hm).getLast?, ?_⟩,
    fun e ↦ position_of_error⟩
  · have hle := ht.length_le
    rw [String.length_toList] at hle
    exact Nat.succ_le_succ hle
  · have hsize := (elements_of_parse hm).size_add_le
    rwa [List.length_nil, Nat.add_zero, String.length_toList] at hsize

/-- One template is a message, and the reader comes to its end. In the other one it goes back to the
type that is not known. -/
theorem places_advance_types :
    (∃ m, parse "\x7bn, plural, other \x7b#\x7d\x7d" = .ok m ∧
      (places "\x7bn, plural, other \x7b#\x7d\x7d").getLast? = some [] ∧ messageSize m ≤ 22) ∧
    ∃ e, parse "\x7bn, kind\x7d" = .error (.notMessage e) ∧ e.position ≤ 9 ∧
      (places "\x7bn, kind\x7d").getLast? = some ("\x7bn, kind\x7d".toList.drop e.position) := by
  constructor
  · have hok : (parse "\x7bn, plural, other \x7b#\x7d\x7d").isOk = true := by decide +kernel
    cases hp : parse "\x7bn, plural, other \x7b#\x7d\x7d" with
    | error fault =>
      rw [hp] at hok
      cases hok
    | ok m =>
      obtain ⟨-, -, -, -, -, -, haccepted, -⟩ :=
        places_advance "\x7bn, plural, other \x7b#\x7d\x7d"
      exact ⟨m, rfl, haccepted m hp⟩
  · obtain ⟨-, -, -, -, -, -, -, hrejected⟩ := places_advance "\x7bn, kind\x7d"
    have hkind : ((parse "\x7bn, kind\x7d").map fun _ ↦ ()) =
        .error (.notMessage ⟨.unknownType "kind", 4, "\x7bn, kind\x7d"⟩) := by
      decide +kernel
    cases hp : parse "\x7bn, kind\x7d" with
    | ok m =>
      rw [hp] at hkind
      cases hkind
    | error fault =>
      rw [hp] at hkind
      cases hkind
      exact ⟨_, rfl, hrejected _ hp⟩

/-- The reader stands at the comma, skips the blank, reads the word, and goes back. -/
example : (places "\x7bn, kind\x7d").map List.length = [9, 8, 7, 6, 5, 1, 5] := by
  decide +kernel

end Message

end Phrasebook
