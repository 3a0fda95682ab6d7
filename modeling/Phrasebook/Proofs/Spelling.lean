import Phrasebook.Proofs.Finding
import Phrasebook.Proofs.PhraseGroups

/-!
Plurals in short, written out.

`spell` puts the plural argument that it stands for in the place of every plural in short. The tree
means the same and has the same offsets (`rowOutline_spellRow`, `rowOffsets_spellRow`), and its
template is what writing the plurals of the template out gives (`spellOut_rowChars`).
-/

set_option autoImplicit false

namespace Phrasebook.Phrase

open Arithmetic Grammar Message Template Text

/-! ### Trees without plurals in short -/

/-- The plural argument that a plural in short stands for. -/
def long (f : PluralForms) : Phrase :=
  .plural f.name .cardinal 0 ((f.zero.map fun s ↦ ("=0", [.text s])).toList ++
    [("one", [.pound, .text (" " ++ f.one)]), ("other", [.pound, .text (" " ++ f.other)])])

mutual

/-- A phrase with its plurals in short written out. -/
def spell : Phrase → Phrase
  | .shorthand f => long f.trimmed
  | .plural name kind offset branches => .plural name kind offset (spellBranches branches)
  | .select name branches => .select name (spellBranches branches)
  | p => p

def spellRow : List Phrase → List Phrase
  | [] => []
  | p :: ps => spell p :: spellRow ps

def spellBranches : List (String × List Phrase) → List (String × List Phrase)
  | [] => []
  | (selector, ps) :: bs => (selector, spellRow ps) :: spellBranches bs

end

mutual

/-- No plural is in short. -/
def Spelled : Phrase → Prop
  | .shorthand _ => False
  | .plural _ _ _ branches => BranchesSpelled branches
  | .select _ branches => BranchesSpelled branches
  | _ => True

def RowSpelled : List Phrase → Prop
  | [] => True
  | p :: ps => Spelled p ∧ RowSpelled ps

def BranchesSpelled : List (String × List Phrase) → Prop
  | [] => True
  | (_, ps) :: bs => RowSpelled ps ∧ BranchesSpelled bs

end

theorem spelled_long (f : PluralForms) : Spelled (long f) := by
  cases hz : f.zero <;> simp [long, hz, Spelled, BranchesSpelled, RowSpelled]

mutual

theorem spelled_spell (p : Phrase) : Spelled (spell p) :=
  match p with
  | .shorthand f => spelled_long f.trimmed
  | .plural _ _ _ branches => branchesSpelled_spellBranches branches
  | .select _ branches => branchesSpelled_spellBranches branches
  | .text _ | .pound | .argument _ | .number .. | .date .. | .time .. | .call .. => trivial
termination_by structural p

theorem rowSpelled_spellRow (ps : List Phrase) : RowSpelled (spellRow ps) :=
  match ps with
  | [] => trivial
  | p :: ps => ⟨spelled_spell p, rowSpelled_spellRow ps⟩
termination_by structural ps

theorem branchesSpelled_spellBranches (bs : List (String × List Phrase)) :
    BranchesSpelled (spellBranches bs) :=
  match bs with
  | [] => trivial
  | (_, ps) :: bs => ⟨rowSpelled_spellRow ps, branchesSpelled_spellBranches bs⟩
termination_by structural bs

end

theorem selectors_spellBranches (bs : List (String × List Phrase)) :
    (spellBranches bs).map Prod.fst = bs.map Prod.fst := by
  induction bs with
  | nil => rfl
  | cons b bs ih => rw [spellBranches, List.map_cons, ih, List.map_cons]

theorem spellBranches_ne_nil {bs : List (String × List Phrase)} (h : bs ≠ []) :
    spellBranches bs ≠ [] := by
  obtain ⟨b, bs, rfl⟩ := List.exists_cons_of_ne_nil h
  exact List.cons_ne_nil _ _

theorem isFlat_spell (p : Phrase) : isFlat (spell p) = isFlat p := by
  cases p <;> rfl

theorem all_isFlat_spellRow (ps : List Phrase) : (spellRow ps).all isFlat = ps.all isFlat := by
  induction ps with
  | nil => rfl
  | cons p ps ih => rw [spellRow, List.all_cons, List.all_cons, isFlat_spell, ih]

/-- Phrases without braces are left. -/
theorem spellRow_eq_self {ps : List Phrase} (h : ps.all isFlat = true) : spellRow ps = ps := by
  induction ps with
  | nil => rfl
  | cons p ps ih =>
    rw [List.all_cons, Bool.and_eq_true] at h
    have hp : spell p = p := by
      cases p with
      | text | pound | argument | number | date | time | call => rfl
      | shorthand | plural | select => exact absurd h.1 Bool.false_ne_true
    rw [spellRow, hp, ih h.2]

/-! ### Meaning -/

section Meaning

variable (scene : Scene)

theorem outline_long (pound : Option Value) (f : PluralForms) :
    outline scene pound (long f) = shorthandOutline scene f := by
  rw [long, outline, shorthandOutline]
  congr 1
  funext number
  cases f.zero <;> rfl

mutual

theorem outline_spell (pound : Option Value) (p : Phrase) :
    outline scene pound (spell p) = outline scene pound p :=
  match p with
  | .shorthand f => outline_long scene pound f.trimmed
  | .plural name kind offset branches => by
    rw [spell, outline, outline]
    congr 1
    funext number
    exact branchOutlines_spellBranches (some (.number number)) branches
  | .select name branches => by
    rw [spell, outline, outline, branchOutlines_spellBranches none branches]
  | .text _ | .pound | .argument _ | .number .. | .date .. | .time .. | .call .. => rfl
termination_by structural p

/-- Written out, a tree means the same. -/
theorem rowOutline_spellRow (pound : Option Value) (ps : List Phrase) :
    rowOutline scene pound (spellRow ps) = rowOutline scene pound ps :=
  match ps with
  | [] => rfl
  | p :: ps => by
    rw [spellRow, rowOutline, rowOutline, outline_spell pound p, rowOutline_spellRow pound ps]
termination_by structural ps

theorem branchOutlines_spellBranches (pound : Option Value) (bs : List (String × List Phrase)) :
    branchOutlines scene pound (spellBranches bs) = branchOutlines scene pound bs :=
  match bs with
  | [] => rfl
  | (selector, ps) :: bs => by
    rw [spellBranches, branchOutlines, branchOutlines, rowOutline_spellRow pound ps,
      branchOutlines_spellBranches pound bs]
termination_by structural bs

end

end Meaning

theorem offsets_long (f : PluralForms) : offsets (long f) = [1] := by
  have hdigits : (digits 0).length = 1 := by decide
  cases hz : f.zero <;>
    simp [long, hz, offsets, branchOffsets, rowOffsets, hdigits]

mutual

theorem offsets_spell (p : Phrase) : offsets (spell p) = offsets p :=
  match p with
  | .shorthand f => offsets_long f.trimmed
  | .plural name kind offset branches => by
    rw [spell, offsets, offsets, branchOffsets_spellBranches branches]
  | .select name branches => by
    rw [spell, offsets, offsets, branchOffsets_spellBranches branches]
  | .text _ | .pound | .argument _ | .number .. | .date .. | .time .. | .call .. => rfl
termination_by structural p

theorem rowOffsets_spellRow (ps : List Phrase) : rowOffsets (spellRow ps) = rowOffsets ps :=
  match ps with
  | [] => rfl
  | p :: ps => by
    rw [spellRow, rowOffsets, rowOffsets, offsets_spell p, rowOffsets_spellRow ps]
termination_by structural ps

theorem branchOffsets_spellBranches (bs : List (String × List Phrase)) :
    branchOffsets (spellBranches bs) = branchOffsets bs :=
  match bs with
  | [] => rfl
  | (_, ps) :: bs => by
    rw [spellBranches, branchOffsets, branchOffsets, rowOffsets_spellRow ps,
      branchOffsets_spellBranches bs]
termination_by structural bs

end

/-! ### Well-formedness -/

section WellFormed

variable {names : List String}

theorem isUntouched_pound (s : List Char) : IsUntouched names ('#' :: s) := by
  refine ⟨Shape.found?_pound (f := fun _ ↦ _) rfl s, ?_⟩
  rw [firstFound, List.findSome?_eq_none_iff]
  intro p hp
  obtain ⟨f, hf, -⟩ := named_passes names p hp
  exact Shape.found?_pound hf s

/-- A text without a comma is nothing to any shape. -/
theorem isUntouched_of_notMem {v : List Char} (hv : ',' ∉ v) : IsUntouched names v := by
  refine ⟨Shape.found?_eq_none_of_notMem (f := fun _ ↦ _) rfl hv, ?_⟩
  rw [firstFound, List.findSome?_eq_none_iff]
  exact fun p hp ↦ (named_passes names p hp).found?_eq_none hv

theorem isPlainText_trim {inPlural : Bool} {s : List Char} (h : IsPlainText inPlural s) :
    IsPlainText inPlural (trim s) :=
  fun c hc ↦ h c (mem_of_mem_trim hc)

theorem wellFormed_long {inPlural : Bool} {f : PluralForms}
    (h : WellFormed names inPlural (.shorthand f)) :
    WellFormed names inPlural (long f.trimmed) := by
  obtain ⟨hname, hzero, hone, hother⟩ := h
  have hform {s : String} (hs : IsForm s) :
      IsPlainText true (String.ofList (trim s.toList)).toList := by
    rw [String.toList_ofList]
    exact isPlainText_trim hs.1
  have hspaced {s : String} (hs : IsForm s) :
      IsPlainText true (" " ++ String.ofList (trim s.toList)).toList := by
    rw [String.toList_append]
    exact List.forall_mem_cons.2 ⟨by decide, hform hs⟩
  have hbranch (selector : String) {s : String} (hselector : Selector selector.toList)
      (hs : IsForm s) {bs : List (String × List Phrase)} (hbs : BranchesWellFormed names true bs) :
      BranchesWellFormed names true
        ((selector, [.pound, .text (" " ++ String.ofList (trim s.toList))]) :: bs) :=
    ⟨hselector, ⟨rfl, hspaced hs, trivial⟩, fun _ ↦ isUntouched_pound _, hbs⟩
  have hnone : BranchesWellFormed names true [] := trivial
  have hbranches := hbranch "one"
    (selector_of_head (by decide) (by decide) (by decide)) hone
    (hbranch "other" (selector_of_head (by decide) (by decide) (by decide)) hother hnone)
  refine ⟨hname, by simp, ?_, ?_⟩
  · cases hz : f.zero <;> simp [PluralForms.trimmed, hz]
  · cases hz : f.zero with
    | none =>
      rw [PluralForms.trimmed, hz]
      exact hbranches
    | some z =>
      obtain ⟨hz', huntouched⟩ := hzero z hz
      rw [PluralForms.trimmed, hz]
      refine ⟨.inl ⟨false, ['0'], [], ⟨by decide, by decide⟩, .inl rfl, rfl⟩, ⟨hform hz', trivial⟩,
        fun _ ↦ ?_, hbranches⟩
      rw [rowChars, chars, rowChars, String.toList_ofList, List.append_nil]
      exact huntouched

mutual

theorem wellFormed_spell {inPlural : Bool} {p : Phrase} (h : WellFormed names inPlural p) :
    WellFormed names inPlural (spell p) :=
  match p with
  | .shorthand f => wellFormed_long h
  | .plural name kind offset branches => by
    obtain ⟨hname, hne, hdiff, hbranches⟩ := h
    rw [← selectors_spellBranches] at hdiff
    exact ⟨hname, spellBranches_ne_nil hne, hdiff, branchesWellFormed_spellBranches hbranches⟩
  | .select name branches => by
    obtain ⟨hname, hne, hdiff, hbranches⟩ := h
    rw [← selectors_spellBranches] at hdiff
    exact ⟨hname, spellBranches_ne_nil hne, hdiff, branchesWellFormed_spellBranches hbranches⟩
  | .text _ | .pound | .argument _ | .number .. | .date .. | .time .. | .call .. => h
termination_by structural p

/-- Written out, a tree can be written as well. -/
theorem rowWellFormed_spellRow {inPlural : Bool} {ps : List Phrase}
    (h : RowWellFormed names inPlural ps) : RowWellFormed names inPlural (spellRow ps) :=
  match ps with
  | [] => trivial
  | _ :: _ => ⟨wellFormed_spell h.1, rowWellFormed_spellRow h.2⟩
termination_by structural ps

theorem branchesWellFormed_spellBranches {inPlural : Bool} {bs : List (String × List Phrase)}
    (h : BranchesWellFormed names inPlural bs) :
    BranchesWellFormed names inPlural (spellBranches bs) :=
  match bs with
  | [] => trivial
  | (selector, ps) :: bs => by
    obtain ⟨hselector, hps, huntouched, hbs⟩ := h
    refine ⟨hselector, rowWellFormed_spellRow hps, fun hflat ↦ ?_,
      branchesWellFormed_spellBranches hbs⟩
    rw [all_isFlat_spellRow] at hflat
    rw [spellRow_eq_self hflat]
    exact huntouched hflat
termination_by structural bs

end

end WellFormed

/-! ### Templates -/

theorem toList_argument (f : PluralForms) : f.argument.toList = chars (long f) := by
  cases hz : f.zero with
  | none =>
    have hoffset : offsetPart plainLayout 0 [("one", []), ("other", [])] = [] := by decide +kernel
    simp [PluralForms.argument, PluralForms.option, long, hz, chars, branchesChars, rowChars, head,
      typedInside, Grammar.typeWord, hoffset]
  | some z =>
    have hoffset : offsetPart plainLayout 0 [("=0", []), ("one", []), ("other", [])] = [] := by
      decide +kernel
    simp [PluralForms.argument, PluralForms.option, long, hz, chars, branchesChars, rowChars, head,
      typedInside, Grammar.typeWord, hoffset]

/-- A part of a template with a plural in short written out. -/
def spellItem (i : Item) : List Char :=
  Template.shorthand.replaceItem (fun f ↦ f.argument.toList) i

theorem flatMap_spellItem_chars (w : List Char) :
    (w.map Item.char).flatMap spellItem = w := by
  rw [List.flatMap_map]
  exact List.flatMap_singleton' w

theorem spellItem_of_none {v : List Char} (h : Template.shorthand.found? v = none) :
    spellItem (.group v) = '{' :: (v ++ ['}']) := by
  rw [spellItem, Shape.replaceItem, h]
  rfl

section Untouched

variable {names : List String} {inPlural : Bool}

/-- No other phrase is a plural in short. -/
theorem found?_shorthand_inside {p : Phrase} {v : List Char} (hnames : AreFormatters names)
    (h : WellFormed names inPlural p) (hv : inside? p = some v) (hp : Spelled p) :
    Template.shorthand.found? v = none := by
  have htyped {name word : String} {r : List Char} (hname : IsWordName name)
      (hword : IsWordName word) (hne : word ≠ "p") (hr : EndsWord r) :
      Template.shorthand.found? (typedInside name word r) = none :=
    keyed_shorthand.found?_eq_none (by decide) hname hword (by simp [hne]) hr
  cases p with
  | text | pound | plural | select => cases hv
  | shorthand f => exact hp.elim
  | argument name =>
    obtain rfl := Option.some.inj hv
    exact Shape.found?_eq_none_of_notMem (f := fun _ ↦ _) rfl
      fun hmem ↦ absurd (h.1.2 _ hmem) (by decide)
  | number name style options =>
    obtain rfl := Option.some.inj hv
    exact htyped h.1 (by decide) (by decide) (isDetail_styleDetail _).endsWord
  | date name style skeleton =>
    obtain rfl := Option.some.inj hv
    exact htyped h.1 (by decide) (by decide) (isDetail_styleDetail _).endsWord
  | time name style skeleton =>
    obtain rfl := Option.some.inj hv
    exact htyped h.1 (by decide) (by decide) (isDetail_styleDetail _).endsWord
  | call name c =>
    obtain rfl := Option.some.inj hv
    have hne : c.word ≠ "p" := by
      cases c with
      | custom formatter style =>
        intro he
        obtain rfl : formatter = "p" := he
        exact (hnames _ h.2.1).2 (by decide)
      | compact display => cases display <;> decide
      | currency code => exact (by decide : "currency" ≠ "p")
      | relativeTime style => exact (by decide : "relativeTime" ≠ "p")
      | list kind length => exact (by decide : "list" ≠ "p")
    exact htyped h.1 (isWordName_word hnames h.2) hne (isDetail_details c).endsWord

end Untouched

section SpellOut

variable {names : List String}

theorem flatMap_inside {inPlural : Bool} {p : Phrase} {v : List Char} (hnames : AreFormatters names)
    (h : WellFormed names inPlural p) (hv : inside? p = some v) (hp : Spelled p) :
    [Item.group v].flatMap spellItem = '{' :: (v ++ ['}']) := by
  rw [List.flatMap_cons, List.flatMap_nil, List.append_nil,
    spellItem_of_none (found?_shorthand_inside hnames h hv hp)]

mutual

theorem flatMap_items {inPlural : Bool} {p : Phrase} (hnames : AreFormatters names)
    (h : WellFormed names inPlural p) : (items p).flatMap spellItem = chars (spell p) :=
  match p with
  | .text s => flatMap_spellItem_chars s.toList
  | .pound => rfl
  | .plural name kind offset branches => by
    obtain ⟨-, -, -, hbranches⟩ := h
    have hselectors : (spellBranches branches).map (fun b ↦ (b.1, ([] : Message))) =
        branches.map fun b ↦ (b.1, []) := by
      have := congrArg (List.map fun s ↦ (s, ([] : Message))) (selectors_spellBranches branches)
      rwa [List.map_map, List.map_map] at this
    rw [items, List.flatMap_cons, List.flatMap_append, List.flatMap_append,
      flatMap_spellItem_chars, flatMap_branchItems hnames hbranches, spell, chars, hselectors]
    rfl
  | .select name branches => by
    obtain ⟨-, -, -, hbranches⟩ := h
    rw [items, List.flatMap_cons, List.flatMap_append, List.flatMap_append,
      flatMap_spellItem_chars, flatMap_branchItems hnames hbranches, spell, chars]
    rfl
  | .shorthand f => by
    obtain ⟨hname, hzero, hone, hother⟩ := h
    have hfound := found?_shorthand hname (fun s hs ↦ isFormChar_of_isForm (hzero s hs).1)
      (isFormChar_of_isForm hone) (isFormChar_of_isForm hother)
    rw [items, List.flatMap_cons, List.flatMap_nil, List.append_nil, inside?, Option.getD_some,
      spellItem, Shape.replaceItem, hfound, spell, ← toList_argument]
    all_goals simp
  | .argument name => flatMap_inside hnames h rfl trivial
  | .number .. => flatMap_inside hnames h rfl trivial
  | .date .. => flatMap_inside hnames h rfl trivial
  | .time .. => flatMap_inside hnames h rfl trivial
  | .call .. => flatMap_inside hnames h rfl trivial
termination_by structural p

theorem flatMap_rowItems {inPlural : Bool} {ps : List Phrase} (hnames : AreFormatters names)
    (h : RowWellFormed names inPlural ps) :
    (rowItems ps).flatMap spellItem = rowChars (spellRow ps) :=
  match ps with
  | [] => rfl
  | p :: ps => by
    rw [rowItems, List.flatMap_append, flatMap_items hnames h.1, flatMap_rowItems hnames h.2,
      spellRow, rowChars]
termination_by structural ps

theorem flatMap_branchItems {inPlural : Bool} {bs : List (String × List Phrase)}
    (hnames : AreFormatters names) (h : BranchesWellFormed names inPlural bs) :
    (branchItems bs).flatMap spellItem = branchesChars (spellBranches bs) :=
  match bs with
  | [] => rfl
  | (selector, ps) :: bs => by
    obtain ⟨-, hps, huntouched, hbs⟩ := h
    have hrow := flatMap_rowItems hnames hps
    have hbranch : (if ps.all isFlat then [Item.group (rowChars ps)]
        else .char '{' :: (rowItems ps ++ [.char '}'])).flatMap spellItem =
          '{' :: (rowChars (spellRow ps) ++ ['}']) := by
      split
      · rename_i hflat
        rw [List.flatMap_cons, List.flatMap_nil, List.append_nil,
          spellItem_of_none (huntouched hflat).1, spellRow_eq_self hflat]
      · rw [List.flatMap_cons, List.flatMap_append, hrow]
        rfl
    rw [branchItems, List.flatMap_cons, List.flatMap_append, List.flatMap_cons,
      List.flatMap_append, hbranch, flatMap_spellItem_chars, flatMap_branchItems hnames hbs,
      spellBranches, branchesChars]
    simp [spellItem, Shape.replaceItem]
termination_by structural bs

end

/-- Writing out the plurals of a template is writing out the ones of its tree. -/
theorem spellOut_rowChars {inPlural : Bool} {ps : List Phrase} (hnames : AreFormatters names)
    (h : RowWellFormed names inPlural ps) : spellOut (rowChars ps) = rowChars (spellRow ps) := by
  have hsettled := settled_rowItems hnames h .nil
  rw [List.append_nil] at hsettled
  rw [← textOf_rowItems, spellOut, replace_textOf closes_shorthand hsettled]
  exact flatMap_rowItems hnames h

end SpellOut

end Phrasebook.Phrase
