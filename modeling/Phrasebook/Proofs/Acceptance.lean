import Phrasebook.Proofs.Derivation

/-!
The parser accepts its grammar, but for offsets that are too long.

A text has at most one reading under any allowance for offsets: what an argument, an option or a
piece of text begins with and where it ends are settled by the text alone, so two derivations of
one text go through the same rules (`Elements.unique`). A derivation either has readable offsets
only, or comes to one that is not (`Elements.readable_or_long`). Together with the two directions
of `Parsing` and `Derivation` this settles every outcome of the parser. `parse_outcome_iff` says
which template is read as which message, which one is no message, and which one is given up for the
length of an offset; the last kind is the only one in which the parser and the grammar part.
-/

set_option autoImplicit false

namespace Phrasebook.Grammar

open Arithmetic Text Message

/-! ### Offsets that are allowed -/

section Monotone

variable {fits fits' : Nat → Prop}

theorem Offset.mono {s t : List Char} {n : Int} (h : Offset fits s n t)
    (hfits : ∀ k, fits k → fits' k) : Offset fits' s n t := by
  cases h with
  | absent h => exact .absent h
  | given hd hlen => exact .given hd (hfits _ hlen)

mutual

/-- A derivation stays one when longer offsets are allowed. -/
theorem Elements.mono {inPlural : Bool} {s r : List Char} {m : Message}
    (h : Elements fits inPlural s m r) (hfits : ∀ k, fits k → fits' k) :
    Elements fits' inPlural s m r :=
  match h with
  | .stop hs => .stop hs
  | .text hp hm => .text hp (hm.mono hfits)
  | .pound hm => .pound (hm.mono hfits)
  | .argument he hm => .argument (he.mono hfits) (hm.mono hfits)

theorem Argument.mono {s r : List Char} {e : Element} (h : Argument fits s e r)
    (hfits : ∀ k, fits k → fits' k) : Argument fits' s e r :=
  match h with
  | .plain hname hr => .plain hname hr
  | .typed ht he => .typed ht (he.mono hfits)

theorem ArgumentEnd.mono {name : String} {type : ArgumentType} {s r : List Char} {e : Element}
    (h : ArgumentEnd fits name type s e r) (hfits : ∀ k, fits k → fits' k) :
    ArgumentEnd fits' name type s e r :=
  match h with
  | .formatted he => .formatted he
  | .plural hs hu ho hne hr => .plural hs (hu.mono hfits) (ho.mono hfits) hne hr
  | .select hs ho hne hr => .select hs (ho.mono hfits) hne hr

theorem Options.mono {inPlural : Bool} {seen : List String} {s r : List Char}
    {os : List (String × Message)} (h : Options fits inPlural seen s os r)
    (hfits : ∀ k, fits k → fits' k) : Options fits' inPlural seen s os r :=
  match h with
  | .none => .none
  | .one ho hsel hm hrest => .one ho hsel (hm.mono hfits) (hrest.mono hfits)

end

end Monotone

section Readable

variable {fits : Nat → Prop}

mutual

/-- The offsets of a derivation are readable up to its end, or up to one that is not. -/
theorem Elements.readable_or_long {inPlural : Bool} {s r : List Char} {m : Message}
    (h : Elements fits inPlural s m r) :
    Elements Readable inPlural s m r ∨ ∃ n, LongOffset inPlural s n :=
  match h with
  | .stop hs => .inl (.stop hs)
  | .text hp hm => by
    rcases hm.readable_or_long with hm | ⟨n, hn⟩
    · exact .inl (.text hp hm)
    · exact .inr ⟨n, .text hp hn⟩
  | .pound hm => by
    rcases hm.readable_or_long with hm | ⟨n, hn⟩
    · exact .inl (.pound hm)
    · exact .inr ⟨n, .pound hn⟩
  | .argument he hm => by
    rcases he.readable_or_long with he | ⟨n, hn⟩
    · rcases hm.readable_or_long with hm | ⟨n, hn⟩
      · exact .inl (.argument he hm)
      · exact .inr ⟨n, .argument he hn⟩
    · exact .inr ⟨n, .inArgument hn⟩

theorem Argument.readable_or_long {s r : List Char} {e : Element} (h : Argument fits s e r) :
    Argument Readable s e r ∨ ∃ n, LongOffsetInArgument s n :=
  match h with
  | .plain hname hr => .inl (.plain hname hr)
  | .typed ht he => by
    rcases he.readable_or_long ht with he | hn
    · exact .inl (.typed ht he)
    · exact .inr hn

theorem ArgumentEnd.readable_or_long {name : String} {type : ArgumentType} {s r : List Char}
    {e : Element} (h : ArgumentEnd fits name type s e r) {s' : List Char}
    (ht : Typed s' name (typeWord type) s) :
    ArgumentEnd Readable name type s e r ∨ ∃ n, LongOffsetInArgument s' n :=
  match h with
  | .formatted he => .inl (.formatted he)
  | .plural hs hu ho hne hr => by
    rcases ho.readable_or_long with ho | ⟨n, hn⟩
    · cases hu with
      | absent hu => exact .inl (.plural hs (.absent hu) ho hne hr)
      | @given negative ds _ hd _ =>
        by_cases hlen : Readable ds.length
        · exact .inl (.plural hs (.given hd hlen) ho hne hr)
        · exact .inr ⟨_, .here ht hs hd hlen⟩
    · cases hu with
      | absent hu => exact .inr ⟨n, .plural ht hs (.absent hu) hn⟩
      | @given negative ds _ hd _ =>
        by_cases hlen : Readable ds.length
        · exact .inr ⟨n, .plural ht hs (.given hd hlen) hn⟩
        · exact .inr ⟨_, .here ht hs hd hlen⟩
  | .select hs ho hne hr => by
    rcases ho.readable_or_long with ho | ⟨n, hn⟩
    · exact .inl (.select hs ho hne hr)
    · exact .inr ⟨n, .select ht hs hn⟩

theorem Options.readable_or_long {inPlural : Bool} {seen : List String} {s r : List Char}
    {os : List (String × Message)} (h : Options fits inPlural seen s os r) :
    Options Readable inPlural seen s os r ∨ ∃ n, LongOffsetInOptions inPlural seen s n :=
  match h with
  | .none => .inl .none
  | .one ho hsel hm hrest => by
    rcases hm.readable_or_long with hm | ⟨n, hn⟩
    · rcases hrest.readable_or_long with hrest | ⟨n, hn⟩
      · exact .inl (.one ho hsel hm hrest)
      · exact .inr ⟨n, .later ho hsel hm hn⟩
    · exact .inr ⟨n, .here ho hsel hn⟩

end

end Readable

/-! ### One reading -/

/-- A piece of text is settled by the text that it begins. -/
theorem Piece.unique {inPlural : Bool} {s w t w' t' : List Char} (h : Piece inPlural s w t)
    (h' : Piece inPlural s w' t') : w = w' ∧ t = t' := by
  obtain ⟨c, u, rfl⟩ := h.ne_nil
  obtain ⟨-, -, -, htake⟩ := piece_cons_iff.1 h
  obtain ⟨-, -, -, htake'⟩ := piece_cons_iff.1 h'
  exact Prod.mk.inj (htake.symm.trans htake')

/-- What begins a piece of text begins neither an argument nor the end of a message. -/
theorem Piece.head {inPlural : Bool} {s w t : List Char} (h : Piece inPlural s w t) :
    ∃ c u, s = c :: u ∧ c ≠ '{' ∧ c ≠ '}' ∧ ¬ (c = '#' ∧ inPlural = true) := by
  obtain ⟨c, u, rfl⟩ := h.ne_nil
  obtain ⟨hopen, hclose, hpound, -⟩ := piece_cons_iff.1 h
  exact ⟨c, u, rfl, hopen, hclose, hpound⟩

theorem Name.unique {s t t' : List Char} {name name' : String} (h : Name s name t)
    (h' : Name s name' t') (ht : ∀ c ∈ t.head?, isNameChar c = false)
    (ht' : ∀ c ∈ t'.head?, isNameChar c = false) : name = name' ∧ t = t' := by
  obtain ⟨-, hname, hrest⟩ := h.scan ht
  obtain ⟨-, hname', hrest'⟩ := h'.scan ht'
  exact ⟨hname.symm.trans hname', hrest.symm.trans hrest'⟩

theorem Typed.unique {s t t' : List Char} {name name' : String} {type type' : ArgumentType}
    (h : Typed s name (typeWord type) t) (h' : Typed s name' (typeWord type') t')
    (ht : ∀ c ∈ t.head?, isLetter c = false) (ht' : ∀ c ∈ t'.head?, isLetter c = false) :
    name = name' ∧ type = type' ∧ t = t' := by
  obtain ⟨u, v, hname, hcomma, hword⟩ := h
  obtain ⟨u', v', hname', hcomma', hword'⟩ := h'
  obtain ⟨rfl, rfl⟩ := hname.unique hname' (hcomma.head_not_nameChar (by decide))
    (hcomma'.head_not_nameChar (by decide))
  obtain ⟨-, rfl⟩ := hcomma.unique hcomma' (by decide) (by decide)
  obtain ⟨hne, hletters⟩ := letters_typeWord type
  obtain ⟨hne', hletters'⟩ := letters_typeWord type'
  obtain ⟨-, htype, hrest⟩ := word_scan hne hletters hword ht
  obtain ⟨-, htype', hrest'⟩ := word_scan hne' hletters' hword' ht'
  refine ⟨rfl, Option.some.inj ?_, hrest.symm.trans hrest'⟩
  rw [← ofWord?_typeWord, ← ofWord?_typeWord, ← htype, ← htype']

theorem StyleEnd.unique {name : String} {type : FormattedType} {s t t' : List Char}
    {e e' : Element} (h : StyleEnd name type s e t) (h' : StyleEnd name type s e' t') :
    e = e' ∧ t = t' := by
  obtain ⟨x, hx, rfl, rfl⟩ := parseStyle_of_styleEnd h
  obtain ⟨x', hx', rfl, rfl⟩ := parseStyle_of_styleEnd h'
  rw [hx] at hx'
  injection hx' with hx'
  rw [hx']
  exact ⟨rfl, rfl⟩

theorem OffsetDigits.unique {s ds t ds' t' : List Char} {negative negative' : Bool}
    (h : OffsetDigits s negative ds t) (h' : OffsetDigits s negative' ds' t') :
    negative = negative' ∧ ds = ds' ∧ t = t' := by
  obtain ⟨u, hu, hminus, htake, hdrop⟩ := h.of_skipSpace.scan (head_skipSpace s)
  obtain ⟨u', hu', hminus', htake', hdrop'⟩ := h'.of_skipSpace.scan (head_skipSpace s)
  rw [hu] at hu'
  obtain rfl : u = u' := by simpa using hu'
  obtain ⟨hsign, hds⟩ := Prod.mk.inj (hminus.symm.trans hminus')
  rw [hds] at htake hdrop
  refine ⟨?_, htake.symm.trans htake', hdrop.symm.trans hdrop'⟩
  revert hsign
  cases negative <;> cases negative' <;> simp [minus]

theorem Offset.unique {fits : Nat → Prop} {s t t' : List Char} {n n' : Int}
    (h : Offset fits s n t) (h' : Offset fits s n' t') : n = n' ∧ t = t' := by
  have habsent : ∀ {negative ds u}, OffsetDigits s negative ds u →
      ¬ ∀ v, ¬ Blanks s ("offset".toList ++ v) := by
    rintro negative ds u ⟨b, -, hb, -⟩ hv
    exact hv _ hb
  cases h with
  | absent hs =>
    cases h' with
    | absent => exact ⟨rfl, rfl⟩
    | given hd => exact absurd hs (habsent hd)
  | given hd =>
    cases h' with
    | absent hs => exact absurd hs (habsent hd)
    | given hd' =>
      obtain ⟨rfl, rfl, rfl⟩ := hd.unique hd'
      exact ⟨rfl, rfl⟩

theorem Opening.unique {s t t' : List Char} {selector selector' : String}
    (h : Opening s selector t) (h' : Opening s selector' t') : selector = selector' ∧ t = t' := by
  obtain ⟨-, -, rfl, hbrace⟩ := h.scan
  obtain ⟨-, -, rfl, hbrace'⟩ := h'.scan
  exact ⟨rfl, (hbrace.unique hbrace' (by decide) (by decide)).2⟩

/-- Where an option begins, the argument does not end. -/
theorem Opening.not_sign {s t r : List Char} {selector : String} (h : Opening s selector t) :
    ¬ Sign '}' s r := by
  intro hr
  obtain ⟨⟨c, u, hskip, hc⟩, -⟩ := h.scan
  rw [hr.skipSpace_cons (by decide)] at hskip
  exact hc (List.cons.inj hskip).1.symm

section Unique

variable {fits : Nat → Prop}

mutual

/-- A text has one reading as the elements of a message. -/
theorem Elements.unique {inPlural : Bool} {s r r' : List Char} {m m' : Message}
    (h : Elements fits inPlural s m r) (h' : Elements fits inPlural s m' r') : m = m' ∧ r = r' :=
  match h with
  | .stop hs => by
    cases h' with
    | stop => exact ⟨rfl, rfl⟩
    | text hp =>
      obtain ⟨c, u, rfl, -, hclose, -⟩ := hp.head
      exact absurd (hs c rfl) hclose
    | pound => exact absurd (hs '#' rfl) (by decide)
    | argument => exact absurd (hs '{' rfl) (by decide)
  | .text hp hm => by
    obtain ⟨c, u, rfl, hopen, hclose, hpound⟩ := hp.head
    cases h' with
    | stop hs => exact absurd (hs c rfl) hclose
    | text hp' hm' =>
      obtain ⟨rfl, rfl⟩ := hp.unique hp'
      obtain ⟨rfl, rfl⟩ := hm.unique hm'
      exact ⟨rfl, rfl⟩
    | pound => exact absurd ⟨rfl, rfl⟩ hpound
    | argument => exact absurd rfl hopen
  | .pound hm => by
    cases h' with
    | stop hs => exact absurd (hs '#' rfl) (by decide)
    | text hp =>
      obtain ⟨c, u, hc, -, -, hpound⟩ := hp.head
      exact absurd ⟨(List.cons.inj hc).1.symm, rfl⟩ hpound
    | pound hm' =>
      obtain ⟨rfl, rfl⟩ := hm.unique hm'
      exact ⟨rfl, rfl⟩
  | .argument he hm => by
    cases h' with
    | stop hs => exact absurd (hs '{' rfl) (by decide)
    | text hp =>
      obtain ⟨c, u, hc, hopen, -⟩ := hp.head
      exact absurd (List.cons.inj hc).1.symm hopen
    | argument he' hm' =>
      obtain ⟨rfl, rfl⟩ := he.unique he'
      obtain ⟨rfl, rfl⟩ := hm.unique hm'
      exact ⟨rfl, rfl⟩
termination_by structural h

theorem Argument.unique {s r r' : List Char} {e e' : Element} (h : Argument fits s e r)
    (h' : Argument fits s e' r') : e = e' ∧ r = r' :=
  match h with
  | .plain hname hr => by
    have hstop := hr.head_not_nameChar (by decide)
    rcases h' with ⟨hname', hr'⟩ | ⟨⟨u, v, hname', hcomma, -⟩, -⟩
    · obtain ⟨rfl, rfl⟩ := hname.unique hname' hstop (hr'.head_not_nameChar (by decide))
      obtain ⟨-, rfl⟩ := hr.unique hr' (by decide) (by decide)
      exact ⟨rfl, rfl⟩
    · obtain ⟨-, rfl⟩ := hname.unique hname' hstop (hcomma.head_not_nameChar (by decide))
      exact absurd (hr.unique hcomma (by decide) (by decide)).1 (by decide)
  | .typed ht he => by
    rcases h' with ⟨hname', hr'⟩ | ⟨ht', he'⟩
    · obtain ⟨u, v, hname, hcomma, -⟩ := ht
      obtain ⟨-, rfl⟩ := hname.unique hname' (hcomma.head_not_nameChar (by decide))
        (hr'.head_not_nameChar (by decide))
      exact absurd (hcomma.unique hr' (by decide) (by decide)).1 (by decide)
    · obtain ⟨rfl, rfl, rfl⟩ := ht.unique ht' he.head_not_letter he'.head_not_letter
      exact he.unique he'
termination_by structural h

theorem ArgumentEnd.unique {name : String} {type : ArgumentType} {s r r' : List Char}
    {e e' : Element} (h : ArgumentEnd fits name type s e r)
    (h' : ArgumentEnd fits name type s e' r') : e = e' ∧ r = r' :=
  match h with
  | .formatted he => by
    cases h' with
    | formatted he' => exact he.unique he'
  | .plural hs hu ho hne hr => by
    cases h' with
    | plural hs' hu' ho' hne' hr' =>
      obtain ⟨-, rfl⟩ := hs.unique hs' (by decide) (by decide)
      obtain ⟨rfl, rfl⟩ := hu.unique hu'
      obtain ⟨rfl, rfl⟩ := ho.unique ho' hr hr'
      exact ⟨rfl, rfl⟩
  | .select hs ho hne hr => by
    cases h' with
    | select hs' ho' hne' hr' =>
      obtain ⟨-, rfl⟩ := hs.unique hs' (by decide) (by decide)
      obtain ⟨rfl, rfl⟩ := ho.unique ho' hr hr'
      exact ⟨rfl, rfl⟩
termination_by structural h

/-- Options end where the brace that closes their argument stands. -/
theorem Options.unique {inPlural : Bool} {seen : List String} {s t t' r r' : List Char}
    {os os' : List (String × Message)} (h : Options fits inPlural seen s os t)
    (h' : Options fits inPlural seen s os' t') (hr : Sign '}' t r) (hr' : Sign '}' t' r') :
    os = os' ∧ r = r' :=
  match h with
  | .none => by
    cases h' with
    | none => exact ⟨rfl, (hr.unique hr' (by decide) (by decide)).2⟩
    | one ho => exact absurd hr ho.not_sign
  | .one ho hsel hm hrest => by
    cases h' with
    | none => exact absurd hr' ho.not_sign
    | one ho' hsel' hm' hrest' =>
      obtain ⟨rfl, rfl⟩ := ho.unique ho'
      obtain ⟨rfl, hu⟩ := hm.unique hm'
      obtain rfl := (List.cons.inj hu).2
      obtain ⟨rfl, rfl⟩ := hrest.unique hrest' hr hr'
      exact ⟨rfl, rfl⟩
termination_by structural h

end

end Unique

/-! ### The outcomes of the parser -/

/-- A template is read as a message just when it is the text of the message and its offsets can be
read. -/
theorem parse_eq_ok_iff {template : String} {m : Message} :
    Message.parse template = .ok m ↔ Derives template m ∧ ¬ ∃ n, HasLongOffset template n := by
  constructor
  · intro h
    refine ⟨(elements_of_parse h).mono fun _ _ ↦ trivial, ?_⟩
    rintro ⟨n, hn⟩
    rw [parse_of_hasLongOffset hn] at h
    cases h
  · rintro ⟨hm, hlong⟩
    rcases hm.readable_or_long with hm | hn
    · exact parse_of_elements hm
    · exact absurd hn hlong

theorem parse_eq_longOffset_iff {template : String} {l : LongNumeral} :
    Message.parse template = .error (.longOffset l) ↔ HasLongOffset template l.digits :=
  ⟨hasLongOffset_of_parse, fun h ↦ parse_of_hasLongOffset h⟩

/-- A template is no message just when it is the text of none and nothing else stopped the parser
before. -/
theorem parse_eq_notMessage_iff {template : String} :
    (∃ e, Message.parse template = .error (.notMessage e)) ↔
      (¬ ∃ m, Derives template m) ∧ ¬ ∃ n, HasLongOffset template n := by
  constructor
  · rintro ⟨e, he⟩
    have hlong : ¬ ∃ n, HasLongOffset template n := by
      rintro ⟨n, hn⟩
      rw [parse_of_hasLongOffset hn] at he
      cases he
    refine ⟨?_, hlong⟩
    rintro ⟨m, hm⟩
    rw [parse_eq_ok_iff.2 ⟨hm, hlong⟩] at he
    cases he
  · rintro ⟨hnone, hlong⟩
    cases hp : Message.parse template with
    | ok m => exact absurd ⟨m, (parse_eq_ok_iff.1 hp).1⟩ hnone
    | error f =>
      cases f with
      | notMessage e => exact ⟨e, rfl⟩
      | longOffset l => exact absurd ⟨_, parse_eq_longOffset_iff.1 hp⟩ hlong

/-- The parser accepts exactly its grammar wherever it does not give up for an offset with too many
digits, and there the grammar goes on. The grammar has at most one message for each template. -/
theorem parse_outcome_iff (template : String) :
    (∀ m, Message.parse template = .ok m ↔
      Derives template m ∧ ¬ ∃ n, HasLongOffset template n) ∧
    ((∃ e, Message.parse template = .error (.notMessage e)) ↔
      (¬ ∃ m, Derives template m) ∧ ¬ ∃ n, HasLongOffset template n) ∧
    (∀ l, Message.parse template = .error (.longOffset l) ↔ HasLongOffset template l.digits) ∧
    ∀ m m', Derives template m → Derives template m' → m = m' :=
  ⟨fun _ ↦ parse_eq_ok_iff, parse_eq_notMessage_iff, fun _ ↦ parse_eq_longOffset_iff,
    fun _ _ h h' ↦ (h.unique h').1⟩

end Phrasebook.Grammar
