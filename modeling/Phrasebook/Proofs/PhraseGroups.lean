import Phrasebook.Proofs.Phrases
import Phrasebook.Proofs.RoundTrip

/-!
The characters and groups of written trees.

A phrase without branches is one group of braces, and so is a branch without braces in it; the
braces of all other arguments and branches stand around further groups (`rowItems`). In a
well-formed tree these are all groups there are (`settled_rowItems`).
-/

set_option autoImplicit false

namespace Phrasebook.Template

open Text

/-! ### Rows of characters -/

section Rows

variable {w : List Char} {items : List Item}

theorem opens_chars (hw : BraceFree w) (h : Opens items) : Opens (w.map .char ++ items) := by
  induction w with
  | nil => exact h
  | cons c w ih =>
    obtain ⟨hc, hw⟩ := List.forall_mem_cons.1 hw
    exact .inr ⟨hc.2, ih hw⟩

theorem settled_char {c : Char} (hc : c ≠ '{') (h : Settled items) : Settled (.char c :: items) :=
  .char (fun he ↦ absurd he hc) h

theorem settled_chars (hw : BraceFree w) (h : Settled items) : Settled (w.map .char ++ items) := by
  induction w with
  | nil => exact h
  | cons c w ih =>
    obtain ⟨hc, hw⟩ := List.forall_mem_cons.1 hw
    exact settled_char hc.1 (ih hw)

end Rows

end Phrasebook.Template

namespace Phrasebook.Phrase

open Arithmetic Grammar Message Template Text

/-! ### Texts without braces -/

section BraceFree

variable {names : List String} {inPlural : Bool} {name : String}

theorem braceFree_of_isPlainText {s : List Char} (h : IsPlainText inPlural s) : BraceFree s :=
  fun c hc ↦ ⟨fun he ↦ (h c hc).2 (.inl he), fun he ↦ (h c hc).2 (.inr (.inl he))⟩

theorem braceFree_typedInside {word : String} {details : List Char} (hname : IsWordName name)
    (hword : IsWordName word) (hdetails : BraceFree details) :
    BraceFree (typedInside name word details) :=
  (braceFree_of_isWord hname.2).append <| .cons (by decide) <| .cons (by decide) <|
    (braceFree_of_isWord hword.2).append hdetails

theorem braceFree_detail {o : Option String} (h : ∀ s ∈ o, BraceFree s.toList) :
    BraceFree (Call.detail o) := by
  cases o with
  | none => exact .nil
  | some s => exact .cons (by decide) (.cons (by decide) (h s rfl))

theorem braceFree_details {c : Call} (h : CallWellFormed names c) : BraceFree c.details := by
  have hwords {o : Option String} {ws : List String} (ho : ∀ s ∈ o, s ∈ ws)
      (hws : ∀ s ∈ ws, ∀ c ∈ s.toList, isWord c = true) : BraceFree (Call.detail o) :=
    braceFree_detail fun s hs ↦ braceFree_of_isWord (hws s (ho s hs))
  cases c with
  | currency code =>
    exact braceFree_detail fun s hs ↦
      braceFree_of_isWord fun c hc ↦ isWord_of_isLetter ((h s hs).2 c hc)
  | compact display => exact .nil
  | relativeTime style => exact hwords h (by decide)
  | list kind length => exact (hwords h.1 (by decide)).append (hwords h.2 (by decide))
  | custom formatter style => exact braceFree_detail h.2

theorem isWordName_typeWord (type : ArgumentType) : IsWordName (typeWord type) := by
  rcases type with (_ | _ | _) | (_ | _) | _ <;> decide

theorem braceFree_styleDetail {α : Type} {style : Option String} {skeleton : Option α}
    {text : α → List Char} (hstyle : ∀ s ∈ style, IsStyle s)
    (hskeleton : ∀ k ∈ skeleton, BraceFree (text k)) :
    BraceFree (styleDetail (styleText style (skeleton.map text))) := by
  have hsome {w : List Char} (hw : BraceFree w) : BraceFree (styleDetail (some w)) :=
    .cons (by decide) (.cons (by decide) hw)
  cases skeleton with
  | some k => exact hsome (braceFree_skeletonText (hskeleton k rfl))
  | none =>
    cases style with
    | some s => exact hsome (hstyle s rfl).2.2.1
    | none => exact .nil

theorem braceFree_offsetPart (offset : Int) (os : List (String × Message)) :
    BraceFree (offsetPart plainLayout offset os) := by
  have hminus : BraceFree (minus (decide (offset < 0))) := by
    cases decide (offset < 0) <;> decide
  have hdigits : BraceFree (digits offset.natAbs) :=
    braceFree_of_isWord fun c hc ↦ isWord_of_isDigit (isDigit_of_mem_digits c hc)
  have htext : BraceFree (offsetText offset) :=
    BraceFree.append (by decide +kernel) (.cons (by decide) (hminus.append hdigits))
  have hspace : BraceFree (plainLayout.spaces 6) := by decide +kernel
  rw [offsetPart]
  split
  · refine (hspace.append htext).append ?_
    split <;> decide
  · exact .nil

theorem braceFree_head (type : ArgumentType) {offset : List Char} (hname : IsWordName name)
    (hoffset : BraceFree offset) : BraceFree (head name type offset) :=
  braceFree_typedInside hname (isWordName_typeWord type) (.cons (by decide) hoffset)

/-- Between the braces of a phrase without branches there is no brace. -/
theorem braceFree_inside {p : Phrase} {v : List Char} (hnames : AreFormatters names)
    (h : WellFormed names inPlural p) (hv : inside? p = some v) : BraceFree v := by
  cases p with
  | text | pound | plural | select => cases hv
  | argument name =>
    obtain rfl := Option.some.inj hv
    exact braceFree_of_isWord h.1.2
  | number name style options =>
    obtain rfl := Option.some.inj hv
    obtain ⟨hname, -, hstyle, hoptions, -⟩ := h
    refine braceFree_typedInside hname (isWordName_typeWord (.formatted .number))
      (braceFree_styleDetail hstyle fun o ho ↦ ?_)
    obtain ⟨k, hk, rfl⟩ := hoptions o ho
    exact NumberOptions.ne_brace_of_mem_skeleton (NumberOptions.attainable_ofSkeleton hk)
  | date name style skeleton =>
    obtain rfl := Option.some.inj hv
    obtain ⟨hname, -, hstyle, hskeleton, -⟩ := h
    exact braceFree_typedInside hname (isWordName_typeWord (.formatted .date))
      (braceFree_styleDetail hstyle fun k hk ↦ (hskeleton k hk).2)
  | time name style skeleton =>
    obtain rfl := Option.some.inj hv
    obtain ⟨hname, -, hstyle, hskeleton, -⟩ := h
    exact braceFree_typedInside hname (isWordName_typeWord (.formatted .time))
      (braceFree_styleDetail hstyle fun k hk ↦ (hskeleton k hk).2)
  | call name c =>
    obtain rfl := Option.some.inj hv
    exact braceFree_typedInside h.1 (isWordName_word hnames h.2) (braceFree_details h.2)
  | shorthand f =>
    obtain rfl := Option.some.inj hv
    obtain ⟨hname, hzero, hone, hother⟩ := h
    have hzero : BraceFree ((f.zero.map fun s ↦ s.toList ++ ['|']).getD []) := by
      cases hz : f.zero with
      | none => exact .nil
      | some s => exact (braceFree_of_isPlainText (hzero s hz).1.1).append (by decide)
    exact (((braceFree_of_isWord hname.2).append (by decide)).append hzero).append
      (braceFree_of_isPlainText hone.1) |>.append
        (.cons (by decide) (braceFree_of_isPlainText hother.1))

end BraceFree

/-! ### Parts of a tree -/

mutual

/-- The characters and groups of a phrase. -/
def items : Phrase → List Item
  | .text s => s.toList.map .char
  | .pound => [.char '#']
  | .plural name kind offset branches =>
    .char '{' :: ((head name (.plural kind) (offsetPart plainLayout offset
      (branches.map fun b ↦ (b.1, [])))).map .char ++ (branchItems branches ++ [.char '}']))
  | .select name branches =>
    .char '{' :: ((head name .select []).map .char ++ (branchItems branches ++ [.char '}']))
  | p => [.group ((inside? p).getD [])]

def rowItems : List Phrase → List Item
  | [] => []
  | p :: ps => items p ++ rowItems ps

def branchItems : List (String × List Phrase) → List Item
  | [] => []
  | (selector, ps) :: bs => .char ' ' :: (selector.toList.map .char ++ .char ' ' ::
      ((if ps.all isFlat then [.group (rowChars ps)]
        else .char '{' :: (rowItems ps ++ [.char '}'])) ++ branchItems bs))

end

mutual

theorem textOf_items (p : Phrase) : textOf (items p) = chars p :=
  match p with
  | .text s => by simpa [items, chars] using textOf_chars s.toList []
  | .pound => rfl
  | .plural name kind offset branches => by
    rw [items, chars, textOf_char, textOf_chars, textOf_append, textOf_branchItems branches]
    rfl
  | .select name branches => by
    rw [items, chars, textOf_char, textOf_chars, textOf_append, textOf_branchItems branches]
    rfl
  | .argument _ | .number .. | .date .. | .time .. | .call .. | .shorthand _ =>
    textOf_group _ []
termination_by structural p

/-- The parts of a tree are its template. -/
theorem textOf_rowItems (ps : List Phrase) : textOf (rowItems ps) = rowChars ps :=
  match ps with
  | [] => rfl
  | p :: ps => by rw [rowItems, rowChars, textOf_append, textOf_items p, textOf_rowItems ps]
termination_by structural ps

theorem textOf_branchItems (bs : List (String × List Phrase)) :
    textOf (branchItems bs) = branchesChars bs :=
  match bs with
  | [] => rfl
  | (selector, ps) :: bs => by
    have hrow := textOf_rowItems ps
    have hrest := textOf_branchItems bs
    rw [branchItems, branchesChars, textOf_char, textOf_chars, textOf_char, textOf_append, hrest]
    split
    · rw [textOf_group]
      simp
    · rw [textOf_char, textOf_append, hrow]
      simp
termination_by structural bs

end

section Settled

variable {names : List String} {inPlural : Bool}

theorem opens_items (rest : List Item) {p : Phrase} (h : isFlat p = false) :
    Opens (items p ++ rest) := by
  cases p with
  | text | pound => cases h
  | plural | select => exact .inl rfl
  | argument | number | date | time | call | shorthand => trivial

theorem opens_rowItems (rest : List Item) {ps : List Phrase} (h : RowWellFormed names inPlural ps)
    (hflat : ps.all isFlat = false) : Opens (rowItems ps ++ rest) := by
  induction ps with
  | nil => cases hflat
  | cons p ps ih =>
    obtain ⟨hp, hps⟩ := h
    rw [rowItems, List.append_assoc]
    cases hopen : isFlat p with
    | false => exact opens_items _ hopen
    | true =>
      have hrest := ih hps (by rwa [List.all_cons, hopen, Bool.true_and] at hflat)
      cases p with
      | text s => exact opens_chars (braceFree_of_isPlainText hp) hrest
      | pound => exact .inr ⟨by decide, hrest⟩
      | _ => cases hopen

theorem opens_branchItems (rest : List Item) {bs : List (String × List Phrase)}
    (hne : bs ≠ []) (h : BranchesWellFormed names inPlural bs) :
    Opens (branchItems bs ++ rest) := by
  cases bs with
  | nil => exact absurd rfl hne
  | cons b bs =>
    obtain ⟨selector, ps⟩ := b
    obtain ⟨hselector, -⟩ := h
    rw [branchItems, List.cons_append, List.append_assoc]
    refine .inr ⟨by decide, opens_chars hselector.braceFree (.inr ⟨by decide, ?_⟩)⟩
    split
    · trivial
    · exact .inl rfl

theorem braceFree_rowChars {ps : List Phrase} (h : RowWellFormed names inPlural ps)
    (hflat : ps.all isFlat = true) : BraceFree (rowChars ps) := by
  induction ps with
  | nil => exact .nil
  | cons p ps ih =>
    obtain ⟨hp, hps⟩ := h
    rw [List.all_cons, Bool.and_eq_true] at hflat
    refine BraceFree.append ?_ (ih hps hflat.2)
    cases p with
    | text s => exact braceFree_of_isPlainText hp
    | pound => exact .cons (by decide) .nil
    | _ => exact absurd hflat.1 Bool.false_ne_true

mutual

theorem settled_items {inPlural : Bool} {rest : List Item} {p : Phrase}
    (hnames : AreFormatters names) (h : WellFormed names inPlural p) (hrest : Settled rest) :
    Settled (items p ++ rest) :=
  match p with
  | .text s => settled_chars (braceFree_of_isPlainText h) hrest
  | .pound => settled_char (by decide) hrest
  | .plural name kind offset branches => by
    obtain ⟨hname, hne, -, hbranches⟩ := h
    have hhead := braceFree_head (.plural kind) hname
      (braceFree_offsetPart offset (branches.map fun b ↦ (b.1, [])))
    have hclosed : Settled (.char '}' :: rest) := settled_char (by decide) hrest
    have hsettled := settled_branchItems hnames hbranches hclosed
    have hopens := opens_branchItems (.char '}' :: rest) hne hbranches
    rw [items, List.cons_append, List.append_assoc, List.append_assoc]
    exact .char (fun _ ↦ opens_chars hhead hopens) (settled_chars hhead hsettled)
  | .select name branches => by
    obtain ⟨hname, hne, -, hbranches⟩ := h
    have hhead := braceFree_head .select hname .nil
    have hclosed : Settled (.char '}' :: rest) := settled_char (by decide) hrest
    have hsettled := settled_branchItems hnames hbranches hclosed
    have hopens := opens_branchItems (.char '}' :: rest) hne hbranches
    rw [items, List.cons_append, List.append_assoc, List.append_assoc]
    exact .char (fun _ ↦ opens_chars hhead hopens) (settled_chars hhead hsettled)
  | .argument _ | .number .. | .date .. | .time .. | .call .. | .shorthand _ =>
    .group (braceFree_inside hnames h rfl) hrest
termination_by structural p

/-- A well-formed tree has no further groups. -/
theorem settled_rowItems {inPlural : Bool} {rest : List Item} {ps : List Phrase}
    (hnames : AreFormatters names) (h : RowWellFormed names inPlural ps) (hrest : Settled rest) :
    Settled (rowItems ps ++ rest) :=
  match ps with
  | [] => hrest
  | p :: ps => by
    rw [rowItems, List.append_assoc]
    exact settled_items hnames h.1 (settled_rowItems hnames h.2 hrest)
termination_by structural ps

theorem settled_branchItems {inPlural : Bool} {rest : List Item}
    {bs : List (String × List Phrase)} (hnames : AreFormatters names)
    (h : BranchesWellFormed names inPlural bs) (hrest : Settled rest) :
    Settled (branchItems bs ++ rest) :=
  match bs with
  | [] => hrest
  | (selector, ps) :: bs => by
    obtain ⟨hselector, hps, -, hbs⟩ := h
    have hlater := settled_branchItems hnames hbs hrest
    rw [branchItems, List.cons_append, List.append_assoc, List.cons_append, List.append_assoc]
    refine settled_char (by decide) <|
      settled_chars hselector.braceFree <| settled_char (by decide) ?_
    split
    · rename_i hflat
      exact .group (braceFree_rowChars hps hflat) hlater
    · rename_i hflat
      have hclosed : Settled (.char '}' :: (branchItems bs ++ rest)) :=
        settled_char (by decide) hlater
      have hsettled := settled_rowItems hnames hps hclosed
      have hopens := opens_rowItems (.char '}' :: (branchItems bs ++ rest)) hps
        (Bool.of_not_eq_true hflat)
      rw [List.cons_append, List.append_assoc]
      exact .char (fun _ ↦ hopens) hsettled
termination_by structural bs

end

end Settled

end Phrasebook.Phrase
