import Phrasebook.Proofs.FullCalls
import Phrasebook.Proofs.Lowering
import Phrasebook.Proofs.MessageParts

/-!
The order of placeholders, and the way back from them.

A pass puts its placeholders from left to right between those that are there already, and takes none
of these (`Pass.run`, `ordered_run`). So after all passes the placeholders of each kind are counted
from zero in the order of the template, and the arguments stand in the order of the passes
(`exists_counts`). No pass has anything left to do then, and with its placeholders replaced by their
arguments, each written in full, the template is prepared as it was before: what is written in full
meets the same pass that the argument met in the first place (`sameFate_of_firstFound`).
-/

set_option autoImplicit false

namespace Phrasebook.Template

open Phrase Text Reader

/-- The kinds of placeholders in the order of their passes. -/
def PlaceholderKind.all : List PlaceholderKind :=
  [.custom, .currency, .compact, .relativeTime, .list]

/-- The names of the placeholders in a template, from left to right. -/
def placeholders (s : List Char) : List String :=
  (plainVariable.pieces s).filterMap fun
    | .found name => if hasPlaceholderForm name then some name else none
    | .char _ => none

/-- What the placeholder of a name stands for, written in full, or else the argument of the name. -/
def restoredText (asides : Asides) (name : String) : List Char :=
  match asides.lookup name with
  | some a => '{' :: (a.inside ++ ['}'])
  | none => '{' :: (name.toList ++ ['}'])

/-- The template with each placeholder replaced by what it stands for, written in full. -/
def Prepared.restored (w : Prepared) : List Char :=
  plainVariable.replace (restoredText w.asides) w.text

/-! ### Passes over parts -/

/-- The parts of a template after a pass, and what it puts aside. Placeholders are counted from
`n`. -/
def Pass.run (p : Pass) (n : Nat) : List Item → List Item × Asides
  | [] => ([], [])
  | .char c :: items =>
    let r := run p n items
    (.char c :: r.1, r.2)
  | .group v :: items =>
    match p.2.found? v with
    | some a =>
      let r := run p (n + 1) items
      (.group (p.1.token n).toList :: r.1, (p.1.token n, a) :: r.2)
    | none =>
      let r := run p n items
      (.group v :: r.1, r.2)

/-- The parts of a template after several passes, and what they put aside. -/
def runAll : List Pass → List Item → List Item × Asides
  | [], items => (items, [])
  | p :: ps, items =>
    let r := Pass.run p 0 items
    let rest := runAll ps r.1
    (rest.1, r.2 ++ rest.2)

section Run

variable {p : Pass} {ps : List Pass} {v : List Char} {items : List Item}

theorem Pass.run_of_some {a : ExtensionArgument} (h : p.2.found? v = some a) (n : Nat)
    (items : List Item) : Pass.run p n (.group v :: items) =
      (.group (p.1.token n).toList :: (Pass.run p (n + 1) items).1,
        (p.1.token n, a) :: (Pass.run p (n + 1) items).2) := by
  rw [Pass.run, h]

theorem Pass.run_of_none (h : p.2.found? v = none) (n : Nat) (items : List Item) :
    Pass.run p n (.group v :: items) =
      (.group v :: (Pass.run p n items).1, (Pass.run p n items).2) := by
  rw [Pass.run, h]

/-- Placeholders are put in the parts as in the text. -/
theorem withPlaceholders_eq_run (p : Pass) (n : Nat) (items : List Item) :
    withPlaceholders p.1 n (items.flatMap p.2.piecesOf) =
      ⟨textOf (Pass.run p n items).1, (Pass.run p n items).2⟩ := by
  induction items generalizing n with
  | nil => rfl
  | cons i items ih =>
    cases i with
    | char c =>
      rw [List.flatMap_cons, Shape.piecesOf, List.singleton_append, withPlaceholders, ih]
      rfl
    | group v =>
      cases h : p.2.found? v with
      | some a =>
        have hpieces : p.2.piecesOf (.group v) = [.found a] := by rw [Shape.piecesOf, h]
        rw [Pass.run_of_some h, List.flatMap_cons, hpieces, List.singleton_append,
          withPlaceholders, ih, textOf_group]
        rfl
      | none =>
        have hpieces : p.2.piecesOf (.group v) = (Item.group v).text.map .char := by
          rw [Shape.piecesOf, h]
        rw [Pass.run_of_none h, List.flatMap_cons, hpieces, withPlaceholders_chars, ih]
        rfl

theorem over_run (p : Pass) (n : Nat) (items : List Item) :
    List.Forall₂ (Item.Over fun u v ↦ BraceFree u → BraceFree v) items (Pass.run p n items).1 := by
  induction items generalizing n with
  | nil => exact .nil
  | cons i items ih =>
    cases i with
    | char c => exact .cons (.char c) (ih n)
    | group v =>
      cases h : p.2.found? v with
      | some a =>
        rw [Pass.run_of_some h]
        exact .cons (.group fun _ ↦ p.1.braceFree_token n) (ih (n + 1))
      | none =>
        rw [Pass.run_of_none h]
        exact .cons (.group id) (ih n)

theorem Settled.run (hs : Settled items) (p : Pass) (n : Nat) : Settled (Pass.run p n items).1 :=
  hs.over (over_run p n items) fun _ _ hv hu ↦ hv hu

theorem Settled.runAll (hs : Settled items) (ps : List Pass) : Settled (runAll ps items).1 := by
  induction ps generalizing items with
  | nil => exact hs
  | cons p ps ih => exact ih (hs.run p 0)

theorem foldl_putAside_eq_runAll (hcloses : ∀ p ∈ ps, p.2.read.Closes) (hs : Settled items)
    (asides : Asides) :
    ps.foldl (fun w p ↦ w.putAside p.1 p.2) (⟨textOf items, asides⟩ : Prepared) =
      ⟨textOf (runAll ps items).1, asides ++ (runAll ps items).2⟩ := by
  induction ps generalizing items asides with
  | nil => rw [runAll, List.append_nil, List.foldl_nil]
  | cons p ps ih =>
    obtain ⟨hp, hps⟩ := List.forall_mem_cons.1 hcloses
    have hpass : (⟨textOf items, asides⟩ : Prepared).putAside p.1 p.2 =
        ⟨textOf (Pass.run p 0 items).1, asides ++ (Pass.run p 0 items).2⟩ := by
      rw [Prepared.putAside, pieces_textOf hp hs, withPlaceholders_eq_run]
    rw [List.foldl_cons, hpass, ih hps (hs.run p 0), runAll, List.append_assoc]

theorem prepare_eq_runAll {names : List String} (hnames : ∀ name ∈ names, BraceFree name.toList)
    (hs : Settled items) : prepare names (textOf items) =
      ⟨textOf (runAll (passes names) items).1, (runAll (passes names) items).2⟩ := by
  rw [prepare_eq_foldl, foldl_putAside_eq_runAll (closes_passes hnames) hs, List.nil_append]

end Run

/-! ### The placeholders in order -/

section Order

variable {p : Pass} {ps : List Pass} {v : List Char} {items : List Item}

/-- The placeholder that a part is. -/
def Item.placeholder? : Item → Option String
  | .char _ => none
  | .group v => (plainVariable.found? v).filter fun name ↦ hasPlaceholderForm name

theorem filterMap_chars (w : List Char) : ((w.map Piece.char).filterMap fun
    | .found name => if hasPlaceholderForm name then some name else none
    | .char _ => none) = ([] : List String) := by
  simp [List.filterMap_map]

theorem placeholders_textOf (hs : Settled items) :
    placeholders (textOf items) = items.filterMap Item.placeholder? := by
  rw [placeholders, pieces_textOf closes_plainVariable hs]
  clear hs
  induction items with
  | nil => rfl
  | cons i items ih =>
    rw [List.flatMap_cons, List.filterMap_append, ih, List.filterMap_cons]
    cases i with
    | char c => rfl
    | group v =>
      rw [Item.placeholder?, Shape.piecesOf]
      cases plainVariable.found? v with
      | none =>
        dsimp only
        rw [filterMap_chars]
        rfl
      | some name =>
        cases hname : hasPlaceholderForm name <;> simp [Option.filter, hname]

theorem exists_of_plainVariable {name : String} (hv : BraceFree v)
    (h : plainVariable.found? v = some name) : IsWordName name ∧ v = name.toList := by
  obtain ⟨⟨name, t⟩, hr, rfl⟩ := Option.map_eq_some_iff.1 h
  obtain ⟨hname, hsplit⟩ := append_of_plainVariable hr
  exact ⟨hname, (hv.append_inj (braceFree_of_isWord hname.2) (.inr rfl) (.inr rfl) hsplit).1⟩

theorem placeholder?_token (kind : PlaceholderKind) (n : Nat) :
    (Item.group (kind.token n).toList).placeholder? = some (kind.token n) := by
  rw [Item.placeholder?, found?_plainVariable (isWordName_token kind n)]
  simp [Option.filter, kind.hasPlaceholderForm_token n]

/-- What a pass takes is no placeholder. -/
theorem placeholder?_of_found? {a : ExtensionArgument} (hnamed : p.2.Named) (hv : BraceFree v)
    (h : p.2.found? v = some a) : (Item.group v).placeholder? = none := by
  have hcomma : ',' ∈ v := by
    by_contra hcomma
    rw [hnamed.found?_eq_none hcomma] at h
    cases h
  rw [Item.placeholder?]
  cases hplain : plainVariable.found? v with
  | none => rfl
  | some name =>
    obtain ⟨hname, rfl⟩ := exists_of_plainVariable hv hplain
    exact absurd rfl (ne_of_isWord (hname.2 _ hcomma))

/-- A pass counts its placeholders from left to right and puts them between those that are there. -/
structure Ordered (before after new : List String) : Prop where
  kept : before.Sublist after
  counted : new.Sublist after
  perm : after.Perm (before ++ new)

theorem tokens_run (p : Pass) (n : Nat) (items : List Item) :
    (Pass.run p n items).2.map Prod.fst =
      (List.range' n (Pass.run p n items).2.length).map p.1.token := by
  induction items generalizing n with
  | nil => rfl
  | cons i items ih =>
    cases i with
    | char c => exact ih n
    | group v =>
      cases h : p.2.found? v with
      | some a =>
        rw [Pass.run_of_some h, List.map_cons, ih, List.length_cons, List.range'_succ]
        rfl
      | none =>
        rw [Pass.run_of_none h]
        exact ih n

theorem ordered_run (hnamed : p.2.Named) (hs : Settled items) (n : Nat) :
    Ordered (items.filterMap Item.placeholder?)
      ((Pass.run p n items).1.filterMap Item.placeholder?)
      ((Pass.run p n items).2.map Prod.fst) := by
  induction hs generalizing n with
  | nil => exact ⟨.refl _, .refl _, .refl _⟩
  | @char c items _ _ ih => exact ih n
  | @group v items hv _ ih =>
    cases h : p.2.found? v with
    | some a =>
      obtain ⟨hkept, hcounted, hperm⟩ := ih (n + 1)
      rw [Pass.run_of_some h, List.filterMap_cons_none (placeholder?_of_found? hnamed hv h),
        List.filterMap_cons_some (placeholder?_token p.1 n), List.map_cons]
      exact ⟨hkept.cons _, hcounted.cons_cons _, (hperm.cons _).trans List.perm_middle.symm⟩
    | none =>
      obtain ⟨hkept, hcounted, hperm⟩ := ih n
      rw [Pass.run_of_none h]
      cases hplaceholder : (Item.group v).placeholder? with
      | none =>
        rw [List.filterMap_cons_none hplaceholder, List.filterMap_cons_none hplaceholder]
        exact ⟨hkept, hcounted, hperm⟩
      | some name =>
        rw [List.filterMap_cons_some hplaceholder, List.filterMap_cons_some hplaceholder]
        exact ⟨hkept.cons_cons _, hcounted.cons _, hperm.cons _⟩

/-- The placeholders of several passes: those of each pass are counted from zero in the order of the
template, and the arguments stand in the order of the passes. -/
theorem ordered_runAll (hnamed : ∀ p ∈ ps, p.2.Named) (hs : Settled items)
    (hkinds : (ps.map Prod.fst).Nodup) :
    let r := runAll ps items
    let after := r.1.filterMap Item.placeholder?
    (items.filterMap Item.placeholder?).Sublist after ∧
    after.Perm (items.filterMap Item.placeholder? ++ r.2.map Prod.fst) ∧
    ∃ count : PlaceholderKind → Nat,
      r.2.map Prod.fst = (ps.map Prod.fst).flatMap
        (fun kind ↦ (List.range (count kind)).map kind.token) ∧
      ∀ kind ∈ ps.map Prod.fst, ((List.range (count kind)).map kind.token).Sublist after := by
  induction ps generalizing items with
  | nil => exact ⟨.refl _, by simp [runAll], fun _ ↦ 0, rfl, by simp⟩
  | cons p ps ih =>
    obtain ⟨hp, hps⟩ := List.forall_mem_cons.1 hnamed
    obtain ⟨hnew, hkinds⟩ := List.nodup_cons.1 hkinds
    obtain ⟨hkept, hcounted, hperm⟩ := ordered_run hp hs 0
    obtain ⟨hkept', hperm', count, hkeys, hsub⟩ := ih hps (hs.run p 0) hkinds
    have hother : ∀ kind ∈ ps.map Prod.fst,
        Function.update count p.1 (Pass.run p 0 items).2.length kind = count kind := by
      intro kind hkind
      refine Function.update_of_ne ?_ _ _
      rintro rfl
      exact hnew hkind
    have htokens : (Pass.run p 0 items).2.map Prod.fst =
        (List.range (Pass.run p 0 items).2.length).map p.1.token := by
      rw [tokens_run, List.range_eq_range']
    refine ⟨hkept.trans hkept', ?_, Function.update count p.1 (Pass.run p 0 items).2.length,
      ?_, ?_⟩
    · rw [runAll]
      dsimp only
      rw [List.map_append, ← List.append_assoc]
      exact hperm'.trans (hperm.append_right _)
    · rw [runAll]
      dsimp only
      rw [List.map_append, List.map_cons, List.flatMap_cons, Function.update_self, hkeys, htokens]
      congr 1
      exact List.flatMap_congr fun kind hkind ↦ by rw [hother kind hkind]
    · rw [List.map_cons, List.forall_mem_cons, Function.update_self, ← htokens]
      refine ⟨hcounted.trans hkept', fun kind hkind ↦ ?_⟩
      rw [hother kind hkind]
      exact hsub kind hkind

end Order

/-! ### The same fate -/

/-- Several passes make the same of two texts between braces: both are taken by the same pass as the
same argument, or both are left by all of them and the same. -/
def SameFate : List Pass → List Char → List Char → Prop
  | [], u, v => u = v
  | p :: ps, u, v => p.2.found? u = p.2.found? v ∧ (p.2.found? u = none → SameFate ps u v)

section SameFate

variable {p : Pass} {ps : List Pass} {u v : List Char} {items items' : List Item}

theorem SameFate.refl (ps : List Pass) (v : List Char) : SameFate ps v v := by
  induction ps with
  | nil => rfl
  | cons p ps ih => exact ⟨rfl, fun _ ↦ ih⟩

/-- What is found at last in the same way has been found by the same pass, since every pass finds
arguments of its own kind. -/
theorem sameFate_of_firstFound {a : ExtensionArgument} (hkinds : (ps.map Prod.fst).Nodup)
    (hkind : ∀ p ∈ ps, ∀ v a, p.2.found? v = some a → a.extension.kind? = some p.1)
    (hu : firstFound ps u = some a) (hv : firstFound ps v = some a) : SameFate ps u v := by
  induction ps with
  | nil => cases hu
  | cons p ps ih =>
    obtain ⟨hnew, hkinds⟩ := List.nodup_cons.1 hkinds
    obtain ⟨hp, hps⟩ := List.forall_mem_cons.1 hkind
    -- the passes behind `p` find no argument of its kind
    have hlater {w : List Char} (hw : firstFound ps w = some a)
        (ha : a.extension.kind? = some p.1) : False := by
      obtain ⟨q, hq, hfound⟩ := List.exists_of_findSome?_eq_some hw
      have he := (hps q hq w a hfound).symm.trans ha
      exact hnew (Option.some.inj he ▸ List.mem_map_of_mem hq)
    rw [firstFound_cons] at hu hv
    cases hpu : p.2.found? u with
    | none =>
      rw [hpu, Option.none_or] at hu
      cases hpv : p.2.found? v with
      | none =>
        rw [hpv, Option.none_or] at hv
        exact ⟨by rw [hpu, hpv], fun _ ↦ ih hkinds hps hu hv⟩
      | some b =>
        rw [hpv, Option.some_or, Option.some_inj] at hv
        exact (hlater hu (hp v a (hv ▸ hpv))).elim
    | some b =>
      rw [hpu, Option.some_or, Option.some_inj] at hu
      subst hu
      cases hpv : p.2.found? v with
      | none =>
        rw [hpv, Option.none_or] at hv
        exact (hlater hv (hp u b hpu)).elim
      | some c =>
        rw [hpv, Option.some_or, Option.some_inj] at hv
        refine ⟨by rw [hpu, hpv, hv], fun hnone ↦ ?_⟩
        rw [hpu] at hnone
        cases hnone

theorem run_congr (h : List.Forall₂ (Item.Over (SameFate (p :: ps))) items items') (n : Nat) :
    (Pass.run p n items).2 = (Pass.run p n items').2 ∧
      List.Forall₂ (Item.Over (SameFate ps)) (Pass.run p n items).1 (Pass.run p n items').1 := by
  induction h generalizing n with
  | nil => exact ⟨rfl, .nil⟩
  | @cons i j items items' hi _ ih =>
    cases hi with
    | char c => exact ⟨(ih n).1, .cons (.char c) (ih n).2⟩
    | @group u v huv =>
      obtain ⟨hfound, hlater⟩ := huv
      cases hu : p.2.found? u with
      | some a =>
        obtain ⟨hasides, hitems⟩ := ih (n + 1)
        rw [Pass.run_of_some hu, Pass.run_of_some (hfound ▸ hu), hasides]
        exact ⟨rfl, .cons (.group (.refl ps _)) hitems⟩
      | none =>
        obtain ⟨hasides, hitems⟩ := ih n
        rw [Pass.run_of_none hu, Pass.run_of_none (hfound ▸ hu)]
        exact ⟨hasides, .cons (.group (hlater hu)) hitems⟩

/-- Parts of the same fate come to the same. -/
theorem runAll_congr (h : List.Forall₂ (Item.Over (SameFate ps)) items items') :
    runAll ps items = runAll ps items' := by
  induction ps generalizing items items' with
  | nil =>
    have heq : items = items' := by
      refine List.forall₂_eq_eq_eq ▸ h.imp fun i j hij ↦ ?_
      cases hij with
      | char c => rfl
      | group he => rw [he]
    rw [heq]
  | cons p ps ih =>
    obtain ⟨hasides, hitems⟩ := run_congr h 0
    rw [runAll, runAll, hasides, ih hitems]

end SameFate

/-! ### Prepared templates -/

section Prepared

variable {names : List String} {items items' : List Item} {v : List Char}

theorem nodup_kinds_passes (names : List String) : ((passes names).map Prod.fst).Nodup := by
  unfold passes
  split <;> simp

theorem found?_of_firstFound {ps : List Pass} {p : Pass} (hp : p ∈ ps)
    (h : firstFound ps v = none) : p.2.found? v = none :=
  List.findSome?_eq_none_iff.1 h p hp

/-- No pass takes anything of what all of them have left. -/
theorem leaves_of_labelled {ps : List Pass} {asides : Asides} {p : Pass} (hp : p ∈ ps)
    (hnamed : p.2.Named) (h : List.Forall₂ (Labelled ps asides) items items') :
    p.2.Leaves items' := by
  induction h with
  | nil => exact Shape.leaves_nil
  | cons hi _ ih =>
    cases hi with
    | char c => exact Shape.leaves_cons_char.2 ih
    | kept hv => exact Shape.leaves_cons_group.2 ⟨found?_of_firstFound hp hv, ih⟩
    | @aside v a kind n _ _ =>
      exact Shape.leaves_cons_group.2 ⟨hnamed.found?_eq_none (kind.comma_notMem_token n), ih⟩

theorem foldl_putAside_of_occursIn {ps : List Pass} {w : Prepared}
    (h : ∀ p ∈ ps, p.2.occursIn w.text = false) :
    ps.foldl (fun w p ↦ w.putAside p.1 p.2) w = w := by
  induction ps with
  | nil => rfl
  | cons p ps ih =>
    obtain ⟨hp, hps⟩ := List.forall_mem_cons.1 h
    rw [List.foldl_cons, Prepared.putAside_of_occursIn hp, ih hps]

/-- Nothing is left to be put aside. -/
theorem prepare_prepared (hnames : ∀ name ∈ names, BraceFree name.toList) (s : List Char) :
    prepare names (prepare names s).text = ⟨(prepare names s).text, []⟩ := by
  obtain ⟨items, hs, rfl⟩ := exists_settled s
  obtain ⟨items', htext, hlabelled⟩ := (follows_prepare hnames hs).labelled
  rw [← htext, prepare_eq_foldl, foldl_putAside_of_occursIn]
  intro p hp
  rw [Shape.occursIn_textOf (closes_passes hnames p hp) (hs.labelled hlabelled)]
  exact leaves_of_labelled hp (named_passes names p hp) hlabelled

/-! ### Templates without placeholders of their own -/

theorem infix_of_group_mem (h : Item.group v ∈ items) : v <:+: textOf items := by
  obtain ⟨before, after, rfl⟩ := List.append_of_mem h
  refine ⟨textOf before ++ ['{'], '}' :: textOf after, ?_⟩
  simp

theorem underscores_of_hasPlaceholderForm {name : String} (h : hasPlaceholderForm name = true) :
    ['_', '_'] <:+: name.toList := by
  rw [hasPlaceholderForm] at h
  cases hafter : after? ['_', '_'] name.toList with
  | some t => exact ⟨[], t, (append_of_after? hafter).symm⟩
  | none =>
    rw [hafter] at h
    cases h

/-- Without two underscores in a row, no group is a placeholder. -/
theorem hasPlaceholderForm_eq_false {name : String} (hs : ¬ ['_', '_'] <:+: textOf items)
    (h : Item.group name.toList ∈ items) : hasPlaceholderForm name = false := by
  by_contra hform
  exact hs ((underscores_of_hasPlaceholderForm (Bool.of_not_eq_false hform)).trans
    (infix_of_group_mem h))

theorem filterMap_placeholder?_eq_nil (hsettled : Settled items)
    (hs : ¬ ['_', '_'] <:+: textOf items) : items.filterMap Item.placeholder? = [] := by
  rw [List.filterMap_eq_nil_iff]
  intro i hi
  cases i with
  | char c => rfl
  | group v =>
    rw [Item.placeholder?]
    cases hplain : plainVariable.found? v with
    | none => rfl
    | some name =>
      obtain ⟨-, rfl⟩ := exists_of_plainVariable (hsettled.braceFree hi) hplain
      simp [Option.filter, hasPlaceholderForm_eq_false hs hi]

/-- The placeholders of a prepared template, by their kinds. -/
theorem exists_counts (hnames : ∀ name ∈ names, BraceFree name.toList) {s : List Char}
    (hs : ¬ ['_', '_'] <:+: s) : ∃ count : PlaceholderKind → Nat,
      (prepare names s).asides.map Prod.fst =
        PlaceholderKind.all.flatMap (fun kind ↦ (List.range (count kind)).map kind.token) ∧
      (placeholders (prepare names s).text).Perm ((prepare names s).asides.map Prod.fst) ∧
      ∀ kind, ((List.range (count kind)).map kind.token).Sublist
        (placeholders (prepare names s).text) := by
  obtain ⟨items, hsettled, rfl⟩ := exists_settled s
  obtain ⟨-, hperm, count, hkeys, hcounted⟩ :=
    ordered_runAll (named_passes names) hsettled (nodup_kinds_passes names)
  rw [filterMap_placeholder?_eq_nil hsettled hs, List.nil_append] at hperm
  rw [prepare_eq_runAll hnames hsettled, placeholders_textOf (hsettled.runAll (passes names))]
  -- without formatters there is no pass for them, and none of their placeholders
  let kinds := (passes names).map Prod.fst
  refine ⟨fun kind ↦ if kind ∈ kinds then count kind else 0, ?_, hperm, fun kind ↦ ?_⟩
  · rw [hkeys]
    cases names with
    | nil => simp [kinds, passes, PlaceholderKind.all]
    | cons name names => simp [kinds, passes, PlaceholderKind.all]
  · dsimp only
    split
    · rename_i hkind
      exact hcounted kind hkind
    · exact List.nil_sublist _

/-! ### The way back -/

/-- With a placeholder replaced by what it stands for, a part meets the fate that it met before. -/
theorem exists_restored_item {asides : Asides} {i j : Item} (hnames : AreFormatters names)
    (hindex : IsIndex asides) (hi : Labelled (passes names) asides i j)
    (hclear : ∀ v, i = .group v → BraceFree v ∧ ¬ ['_', '_'] <:+: v) : ∃ k,
      Item.Over (fun u v ↦ SameFate (passes names) u v ∧ (BraceFree u → BraceFree v)) i k ∧
      k.text = plainVariable.replaceItem (restoredText asides) j := by
  cases hi with
  | char c => exact ⟨.char c, .char c, rfl⟩
  | @kept v hv =>
    refine ⟨.group v, .group ⟨.refl _ v, id⟩, ?_⟩
    obtain ⟨hfree, hunderscores⟩ := hclear v rfl
    rw [Shape.replaceItem]
    cases hplain : plainVariable.found? v with
    | none => rfl
    | some name =>
      obtain ⟨-, rfl⟩ := exists_of_plainVariable hfree hplain
      have hform : hasPlaceholderForm name = false :=
        Bool.eq_false_iff.2 fun h ↦ hunderscores (underscores_of_hasPlaceholderForm h)
      dsimp only
      rw [restoredText, lookup_eq_none hindex hform]
      rfl
  | @aside v a kind n hv hmem =>
    obtain ⟨kind', ha⟩ := exists_of_firstFound hv
    refine ⟨.group a.inside, .group ⟨?_, fun _ ↦ ha.braceFree hnames⟩, ?_⟩
    · exact sameFate_of_firstFound (nodup_kinds_passes names)
        (fun p hp v a hfound ↦ (faithful_of_found? hp hfound).kind) hv (ha.firstFound_inside hnames)
    · rw [Shape.replaceItem, found?_plainVariable (isWordName_token kind n)]
      dsimp only
      have hlookup := lookup_of_mem hindex.1 hmem
      dsimp only at hlookup
      rw [restoredText, hlookup]
      rfl

theorem exists_restored {asides : Asides} (hnames : AreFormatters names) (hindex : IsIndex asides)
    (h : List.Forall₂ (Labelled (passes names) asides) items items')
    (hclear : ∀ v, Item.group v ∈ items → BraceFree v ∧ ¬ ['_', '_'] <:+: v) : ∃ restored,
      List.Forall₂ (Item.Over fun u v ↦ SameFate (passes names) u v ∧ (BraceFree u → BraceFree v))
        items restored ∧
      textOf restored = items'.flatMap (plainVariable.replaceItem (restoredText asides)) := by
  induction h with
  | nil => exact ⟨[], .nil, rfl⟩
  | @cons i j items items' hi _ ih =>
    obtain ⟨k, hik, hk⟩ := exists_restored_item hnames hindex hi fun v hv ↦
      hclear v (hv ▸ List.mem_cons_self)
    obtain ⟨restored, hrestored, htext⟩ := ih fun v hv ↦ hclear v (List.mem_cons_of_mem i hv)
    refine ⟨k :: restored, .cons hik hrestored, ?_⟩
    rw [List.flatMap_cons, ← hk, ← htext]
    rfl

/-- A template with its placeholders replaced is prepared as it was before. -/
theorem prepare_restored (hnames : AreFormatters names) {s : List Char}
    (hs : ¬ ['_', '_'] <:+: s) : prepare names (prepare names s).restored = prepare names s := by
  have hbraces := hnames.braceFree
  have hindex := isIndex_prepare hbraces s
  obtain ⟨items, hsettled, rfl⟩ := exists_settled s
  obtain ⟨items', htext, hlabelled⟩ := (follows_prepare hbraces hsettled).labelled
  obtain ⟨restored, hover, hrestored⟩ := exists_restored hnames hindex hlabelled fun v hv ↦
    ⟨hsettled.braceFree hv, fun h ↦ hs (h.trans (infix_of_group_mem hv))⟩
  have hsettled' : Settled restored := hsettled.over hover fun _ _ huv hu ↦ huv.2 hu
  have hsame : List.Forall₂ (Item.Over (SameFate (passes names))) items restored :=
    hover.imp fun _ _ hij ↦ hij.imp fun _ _ huv ↦ huv.1
  rw [Prepared.restored, ← htext, replace_textOf closes_plainVariable (hsettled.labelled hlabelled),
    ← hrestored, prepare_eq_runAll hbraces hsettled', ← runAll_congr hsame,
    ← prepare_eq_runAll hbraces hsettled]

/-- In a template without two underscores in a row, putting arguments aside loses nothing. The
names of what is put aside are the placeholders of the template, each once; those of a kind are
counted from zero from left to right, and the kinds come in the order of their passes. Nothing is
put aside a second time. And with every placeholder replaced by what it stands for, written in full,
the template is prepared as it was. -/
theorem prepare_lossless (names : List String) (s : List Char) (hnames : AreFormatters names)
    (hs : ¬ ['_', '_'] <:+: s) :
    let w := prepare names s
    (∃ count : PlaceholderKind → Nat,
      w.asides.map Prod.fst =
        PlaceholderKind.all.flatMap (fun kind ↦ (List.range (count kind)).map kind.token) ∧
      (placeholders w.text).Perm (w.asides.map Prod.fst) ∧ (placeholders w.text).Nodup ∧
      ∀ kind, ((List.range (count kind)).map kind.token).Sublist (placeholders w.text)) ∧
    prepare names w.text = ⟨w.text, []⟩ ∧
    prepare names w.restored = w := by
  intro w
  have hbraces := hnames.braceFree
  obtain ⟨count, hkeys, hperm, hcounted⟩ := exists_counts hbraces hs
  exact ⟨⟨count, hkeys, hperm, hperm.nodup_iff.2 (isIndex_prepare hbraces s).1, hcounted⟩,
    prepare_prepared hbraces s, prepare_restored hnames hs⟩

/-- A template with arguments of several kinds, and a formatter for one of them. Written in full,
they have their defaults and one spelling, and they are prepared as before. -/
theorem prepare_lossless_invoice :
    let s := "{payers, list} owe {sum, currency, eur} / {rest,currency}, says {who, shout,  loud }"
    let w := prepare ["shout"] s.toList
    let full := "{payers, list, conjunction, long} owe {sum, currency, EUR} / " ++
      "{rest, currency, USD}, says {who, shout, loud}"
    AreFormatters ["shout"] ∧ ¬ ['_', '_'] <:+: s.toList ∧
      String.ofList w.text =
        "{__LIST_0__} owe {__CURRENCY_0__} / {__CURRENCY_1__}, says {__CUSTOM_0__}" ∧
      w.asides = [("__CUSTOM_0__", ⟨"who", .custom "shout" (some "loud")⟩),
        ("__CURRENCY_0__", ⟨"sum", .currency "EUR"⟩),
        ("__CURRENCY_1__", ⟨"rest", .currency "USD"⟩),
        ("__LIST_0__", ⟨"payers", .list "conjunction" "long"⟩)] ∧
      w.restored = full.toList ∧ (placeholders w.text).Perm (w.asides.map Prod.fst) ∧
      prepare ["shout"] w.text = ⟨w.text, []⟩ ∧ prepare ["shout"] full.toList = w := by
  intro s w full
  have hnames : AreFormatters ["shout"] := by
    rw [AreFormatters, List.forall_mem_singleton]
    decide
  have hs : ¬ ['_', '_'] <:+: s.toList := by decide +kernel
  have hrestored : w.restored = full.toList := by decide +kernel
  obtain ⟨⟨-, -, hperm, -⟩, hagain, hback⟩ := prepare_lossless ["shout"] s.toList hnames hs
  have hfull : prepare ["shout"] full.toList = w := by
    rw [← hrestored]
    exact hback
  refine ⟨hnames, hs, ?_, ?_, hrestored, hperm, hagain, hfull⟩ <;> decide +kernel

end Prepared

end Phrasebook.Template
