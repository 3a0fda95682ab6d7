import Mathlib.Data.List.Forall2
import Mathlib.Data.List.Nodup
import Phrasebook.Proofs.Groups
import Phrasebook.Proofs.Placeholders

/-!
Putting arguments aside, pass by pass.

Each pass replaces the groups that its shape takes by placeholders and leaves all others as they
are, and no later pass takes a placeholder, for want of a comma. So after all passes a group stands
as it was if no shape takes it, and else its placeholder leads back to what the first of the shapes
makes of it (`follows_prepare`). No two placeholders are the same, so each is found again under its
name (`lookup_of_mem`).
-/

set_option autoImplicit false

namespace Phrasebook.Template

open Text

/-- One pass over a template: the kind of its placeholders, and the shape they stand for. -/
abbrev Pass := PlaceholderKind × Shape ExtensionArgument

/-- The passes over a template in their order. -/
def passes (names : List String) : List Pass :=
  (if names.isEmpty then [] else [(.custom, customArgument names)]) ++
    [(.currency, currencyArgument), (.compact, compactArgument),
      (.relativeTime, relativeTimeArgument), (.list, listArgument)]

theorem prepare_eq_foldl (names : List String) (s : List Char) :
    prepare names s = (passes names).foldl (fun w p ↦ w.putAside p.1 p.2) ⟨s, []⟩ := by
  rw [prepare, passes]
  split <;> rfl

/-- What the first of the passes that takes a group makes of it. -/
def firstFound (ps : List Pass) (v : List Char) : Option ExtensionArgument :=
  ps.findSome? fun p ↦ p.2.found? v

theorem firstFound_cons (p : Pass) (ps : List Pass) (v : List Char) :
    firstFound (p :: ps) v = (p.2.found? v).or (firstFound ps v) := by
  rw [firstFound, List.findSome?_cons]
  cases p.2.found? v <;> rfl

/-- Two parts are the same character, or they are groups whose texts are related. -/
inductive Item.Over (R : List Char → List Char → Prop) : Item → Item → Prop
  | char (c : Char) : Over R (.char c) (.char c)
  | group {u v : List Char} : R u v → Over R (.group u) (.group v)

section Over

variable {R : List Char → List Char → Prop} {items items' : List Item}

theorem Item.Over.imp {R' : List Char → List Char → Prop} {i j : Item} (h : Item.Over R i j)
    (himp : ∀ u v, R u v → R' u v) : Item.Over R' i j := by
  cases h with
  | char c => exact .char c
  | group huv => exact .group (himp _ _ huv)

theorem opens_iff_of_over (h : List.Forall₂ (Item.Over R) items items') :
    Opens items' ↔ Opens items := by
  induction h with
  | nil => exact .rfl
  | cons hi _ ih =>
    cases hi with
    | char c => exact or_congr .rfl (and_congr .rfl ih)
    | group _ => exact .rfl

/-- Other texts without braces in the groups leave the same characters and groups. -/
theorem Settled.over (hs : Settled items) (h : List.Forall₂ (Item.Over R) items items')
    (hR : ∀ u v, R u v → BraceFree u → BraceFree v) : Settled items' := by
  induction h with
  | nil => exact .nil
  | cons hi hrest ih =>
    cases hi with
    | char c =>
      cases hs with
      | char hopen hs => exact .char (fun hc ↦ (opens_iff_of_over hrest).2 (hopen hc)) (ih hs)
    | group huv =>
      cases hs with
      | group hu hs => exact .group (hR _ _ huv hu) (ih hs)

end Over

/-- What passes make of a part of a template: a group that one of them takes has a placeholder in
it, and every other part is left. -/
inductive Labelled (ps : List Pass) (asides : Asides) : Item → Item → Prop
  | char (c : Char) : Labelled ps asides (.char c) (.char c)
  | kept {v : List Char} : firstFound ps v = none → Labelled ps asides (.group v) (.group v)
  | aside {v : List Char} {a : ExtensionArgument} {kind : PlaceholderKind} {n : Nat} :
      firstFound ps v = some a → (kind.token n, a) ∈ asides →
      Labelled ps asides (.group v) (.group (kind.token n).toList)

section Labelled

variable {ps : List Pass} {asides more : Asides} {items items' : List Item} {i j : Item}

theorem Labelled.mono (h : Labelled ps asides i j) (hsub : asides ⊆ more) :
    Labelled ps more i j := by
  cases h with
  | char c => exact .char c
  | kept hv => exact .kept hv
  | aside hv hmem => exact .aside hv (hsub hmem)

theorem Labelled.over (h : Labelled ps asides i j) :
    Item.Over (fun u v ↦ BraceFree u → BraceFree v) i j := by
  cases h with
  | char c => exact .char c
  | kept _ => exact .group id
  | aside _ _ => exact .group fun _ ↦ PlaceholderKind.braceFree_token _ _

/-- Passes leave the template in characters and groups. -/
theorem Settled.labelled (hs : Settled items) (h : List.Forall₂ (Labelled ps asides) items items') :
    Settled items' :=
  hs.over (h.imp fun _ _ hij ↦ hij.over) fun _ _ hv hu ↦ hv hu

end Labelled

theorem withPlaceholders_chars (kind : PlaceholderKind) (n : Nat) (w : List Char)
    (rest : List (Piece ExtensionArgument)) :
    withPlaceholders kind n (w.map .char ++ rest) =
      ⟨w ++ (withPlaceholders kind n rest).text, (withPlaceholders kind n rest).asides⟩ := by
  induction w with
  | nil => rfl
  | cons c w ih =>
    rw [List.map_cons, List.cons_append, withPlaceholders, ih]
    rfl

/-- The placeholders of one pass are counted without gaps. -/
theorem tokens_withPlaceholders (kind : PlaceholderKind) (n : Nat)
    (rest : List (Piece ExtensionArgument)) : ∃ k,
    (withPlaceholders kind n rest).asides.map Prod.fst = (List.range' n k).map kind.token := by
  induction rest generalizing n with
  | nil => exact ⟨0, rfl⟩
  | cons piece rest ih =>
    cases piece with
    | char c => exact ih n
    | found a =>
      obtain ⟨k, hk⟩ := ih (n + 1)
      refine ⟨k + 1, ?_⟩
      rw [withPlaceholders, List.map_cons, hk]
      rfl

theorem found_of_mem_withPlaceholders {kind : PlaceholderKind} {n : Nat}
    {rest : List (Piece ExtensionArgument)} {x : String × ExtensionArgument}
    (h : x ∈ (withPlaceholders kind n rest).asides) : .found x.2 ∈ rest := by
  induction rest generalizing n with
  | nil => cases h
  | cons piece rest ih =>
    cases piece with
    | char c => exact List.mem_cons_of_mem _ (ih h)
    | found a =>
      rcases List.mem_cons.1 h with rfl | h
      · exact List.mem_cons_self
      · exact List.mem_cons_of_mem _ (ih h)

section Pass

variable {p : Pass} {done : List Pass} {asides : Asides} {items items' : List Item} {w : Prepared}

theorem firstFound_append (done : List Pass) (p : Pass) (v : List Char) :
    firstFound (done ++ [p]) v = (firstFound done v).or (p.2.found? v) := by
  rw [firstFound, firstFound, List.findSome?_append]
  cases h : p.2.found? v <;> simp [h]

/-- A pass goes on where the ones before it stopped. -/
theorem exists_labelled (hnamed : p.2.Named) (n : Nat)
    (h : List.Forall₂ (Labelled done asides) items items') :
    ∃ items'', textOf items'' = (withPlaceholders p.1 n (items'.flatMap p.2.piecesOf)).text ∧
      List.Forall₂ (Labelled (done ++ [p])
        (asides ++ (withPlaceholders p.1 n (items'.flatMap p.2.piecesOf)).asides))
          items items'' := by
  induction h generalizing n with
  | nil => exact ⟨[], rfl, .nil⟩
  | @cons i j items items' hi _ ih =>
    -- the parts that the pass leaves are written again as they are
    have left (hj : p.2.piecesOf j = j.text.map .char)
        (hlabel : ∀ more, Labelled (done ++ [p]) (asides ++ more) i j) :
        ∃ items'', textOf items'' =
            (withPlaceholders p.1 n ((j :: items').flatMap p.2.piecesOf)).text ∧
          List.Forall₂ (Labelled (done ++ [p])
            (asides ++ (withPlaceholders p.1 n ((j :: items').flatMap p.2.piecesOf)).asides))
            (i :: items) items'' := by
      obtain ⟨items'', htext, hrest⟩ := ih n
      rw [List.flatMap_cons, hj, withPlaceholders_chars]
      exact ⟨j :: items'', by rw [← htext]; rfl, .cons (hlabel _) hrest⟩
    cases hi with
    | char c => exact left rfl fun _ ↦ .char c
    | @aside v a kind m hv hmem =>
      have hnone := hnamed.found?_eq_none (kind.comma_notMem_token m)
      refine left ?_ fun more ↦ .aside ?_ (List.mem_append_left more hmem)
      · rw [Shape.piecesOf, hnone]
      · rw [firstFound_append, hv]
        rfl
    | @kept v hv =>
      cases hfound : p.2.found? v with
      | none =>
        refine left ?_ fun more ↦ .kept ?_
        · rw [Shape.piecesOf, hfound]
        · rw [firstFound_append, hv, hfound]
          rfl
      | some a =>
        obtain ⟨items'', htext, hrest⟩ := ih (n + 1)
        have hpieces : p.2.piecesOf (.group v) = [.found a] := by
          rw [Shape.piecesOf, hfound]
        rw [List.flatMap_cons, hpieces, List.singleton_append, withPlaceholders]
        refine ⟨.group (p.1.token n).toList :: items'', ?_,
          .cons (.aside ?_ (List.mem_append_right _ List.mem_cons_self)) ?_⟩
        · rw [textOf_group, htext]
          rfl
        · rw [firstFound_append, hv, hfound]
          rfl
        · refine hrest.imp fun i j hij ↦ hij.mono ?_
          exact List.append_subset.2 ⟨List.subset_append_left _ _,
            fun x hx ↦ List.mem_append_right _ (List.mem_cons_of_mem _ hx)⟩

theorem found_of_labelled {a : ExtensionArgument} (hnamed : p.2.Named)
    (h : List.Forall₂ (Labelled done asides) items items')
    (ha : .found a ∈ items'.flatMap p.2.piecesOf) :
    ∃ v, Item.group v ∈ items ∧ firstFound (done ++ [p]) v = some a := by
  induction h with
  | nil => cases ha
  | @cons i j items items' hi _ ih =>
    rw [List.flatMap_cons, List.mem_append] at ha
    rcases ha with ha | ha
    · cases hi with
      | char c => simp [Shape.piecesOf] at ha
      | @aside v b kind m hv hmem =>
        rw [Shape.piecesOf, hnamed.found?_eq_none (kind.comma_notMem_token m)] at ha
        simp at ha
      | @kept v hv =>
        refine ⟨v, List.mem_cons_self, ?_⟩
        rw [firstFound_append, hv, Option.none_or]
        rw [Shape.piecesOf] at ha
        cases hfound : p.2.found? v with
        | none =>
          rw [hfound] at ha
          simp at ha
        | some b =>
          rw [hfound, List.mem_singleton, Piece.found.injEq] at ha
          rw [ha]
    · obtain ⟨v, hv, hfound⟩ := ih ha
      exact ⟨v, List.mem_cons_of_mem _ hv, hfound⟩

/-- What holds of a template after some of the passes: its parts are labelled, no two placeholders
are the same, and each has come from a group. -/
structure Follows (done : List Pass) (items : List Item) (w : Prepared) : Prop where
  labelled : ∃ items', textOf items' = w.text ∧ List.Forall₂ (Labelled done w.asides) items items'
  distinct : (w.asides.map Prod.fst).Nodup
  named : ∀ x ∈ w.asides, ∃ p ∈ done, ∃ n, x.1 = p.1.token n
  found : ∀ x ∈ w.asides, ∃ v, Item.group v ∈ items ∧ firstFound done v = some x.2

theorem follows_start (items : List Item) : Follows [] items ⟨textOf items, []⟩ where
  labelled := by
    refine ⟨items, rfl, ?_⟩
    induction items with
    | nil => exact .nil
    | cons i items ih =>
      refine .cons ?_ ih
      cases i with
      | char c => exact .char c
      | group v => exact .kept rfl
  distinct := .nil
  named := by simp
  found := by simp

theorem Follows.putAside (h : Follows done items w) (hs : Settled items)
    (hkind : ∀ q ∈ done, q.1 ≠ p.1) (hcloses : p.2.read.Closes) (hnamed : p.2.Named) :
    Follows (done ++ [p]) items (w.putAside p.1 p.2) := by
  obtain ⟨items', htext, hlabelled⟩ := h.labelled
  have hpieces : p.2.pieces w.text = items'.flatMap p.2.piecesOf := by
    rw [← htext]
    exact pieces_textOf hcloses (hs.labelled hlabelled)
  obtain ⟨k, hk⟩ := tokens_withPlaceholders p.1 0 (p.2.pieces w.text)
  have hmem : ∀ x ∈ (withPlaceholders p.1 0 (p.2.pieces w.text)).asides,
      ∃ n, x.1 = p.1.token n := by
    intro x hx
    have := List.mem_map_of_mem (f := Prod.fst) hx
    rw [hk] at this
    obtain ⟨n, -, hn⟩ := List.mem_map.1 this
    exact ⟨n, hn.symm⟩
  refine ⟨?_, ?_, ?_, ?_⟩
  · rw [Prepared.putAside, hpieces]
    exact exists_labelled hnamed 0 hlabelled
  · rw [Prepared.putAside, List.map_append, hk]
    refine List.Nodup.append h.distinct (List.Nodup.map
      (fun n n' hn ↦ (PlaceholderKind.token_injective hn).2) List.nodup_range') fun t ht ht' ↦ ?_
    obtain ⟨x, hx, rfl⟩ := List.mem_map.1 ht
    obtain ⟨q, hq, n, hn⟩ := h.named x hx
    obtain ⟨n', -, hn'⟩ := List.mem_map.1 ht'
    exact hkind q hq (PlaceholderKind.token_injective (hn.symm.trans hn'.symm)).1
  · intro x hx
    rcases List.mem_append.1 hx with hx | hx
    · obtain ⟨q, hq, hn⟩ := h.named x hx
      exact ⟨q, List.mem_append_left _ hq, hn⟩
    · exact ⟨p, by simp, hmem x hx⟩
  · intro x hx
    rcases List.mem_append.1 hx with hx | hx
    · obtain ⟨v, hv, hfound⟩ := h.found x hx
      exact ⟨v, hv, by rw [firstFound_append, hfound]; rfl⟩
    · have := found_of_mem_withPlaceholders hx
      rw [hpieces] at this
      exact found_of_labelled hnamed hlabelled this

theorem Follows.foldl {ps : List Pass} (h : Follows done items w) (hs : Settled items)
    (hkinds : ((done ++ ps).map Prod.fst).Nodup) (hcloses : ∀ p ∈ ps, p.2.read.Closes)
    (hnamed : ∀ p ∈ ps, p.2.Named) :
    Follows (done ++ ps) items (ps.foldl (fun w p ↦ w.putAside p.1 p.2) w) := by
  induction ps generalizing done w with
  | nil => rwa [List.append_nil]
  | cons p ps ih =>
    obtain ⟨hcloses, hcloses'⟩ := List.forall_mem_cons.1 hcloses
    obtain ⟨hnamed, hnamed'⟩ := List.forall_mem_cons.1 hnamed
    have hkind : ∀ q ∈ done, q.1 ≠ p.1 := by
      intro q hq he
      rw [List.map_append, List.nodup_append] at hkinds
      exact hkinds.2.2 _ (List.mem_map_of_mem hq) _ (by simp) he
    rw [List.append_cons] at hkinds ⊢
    exact ih (h.putAside hs hkind hcloses hnamed) hkinds hcloses' hnamed'

end Pass

section Prepare

variable {names : List String} {items : List Item}

theorem closes_passes (hnames : ∀ name ∈ names, BraceFree name.toList) :
    ∀ p ∈ passes names, p.2.read.Closes := by
  intro p hp
  rcases List.mem_append.1 hp with hp | hp
  · split at hp
    · cases hp
    · rw [List.mem_singleton.1 hp]
      exact closes_customArgument hnames
  · simp only [List.mem_cons, List.not_mem_nil, or_false] at hp
    rcases hp with rfl | rfl | rfl | rfl
    · exact closes_currencyArgument
    · exact closes_compactArgument
    · exact closes_relativeTimeArgument
    · exact closes_listArgument

theorem named_passes (names : List String) : ∀ p ∈ passes names, p.2.Named := by
  intro p hp
  rcases List.mem_append.1 hp with hp | hp
  · split at hp
    · cases hp
    · rw [List.mem_singleton.1 hp]
      exact named_customArgument names
  · simp only [List.mem_cons, List.not_mem_nil, or_false] at hp
    rcases hp with rfl | rfl | rfl | rfl
    · exact named_currencyArgument
    · exact named_compactArgument
    · exact named_relativeTimeArgument
    · exact named_listArgument

/-- After all passes, every group that a shape takes has a placeholder that leads back to what the
first of the shapes makes of it, and nothing else has changed. -/
theorem follows_prepare (hnames : ∀ name ∈ names, BraceFree name.toList) (hs : Settled items) :
    Follows (passes names) items (prepare names (textOf items)) := by
  have hkinds : ((passes names).map Prod.fst).Nodup := by
    unfold passes
    split <;> simp
  rw [prepare_eq_foldl]
  exact (follows_start items).foldl hs hkinds (closes_passes hnames) (named_passes names)

/-- A placeholder leads back to what it stands for. -/
theorem lookup_of_mem {asides : Asides} {x : String × ExtensionArgument}
    (hdistinct : (asides.map Prod.fst).Nodup) (hx : x ∈ asides) : asides.lookup x.1 = some x.2 := by
  induction asides with
  | nil => cases hx
  | cons y asides ih =>
    obtain ⟨hy, hdistinct⟩ := List.nodup_cons.1 hdistinct
    rcases List.mem_cons.1 hx with rfl | hx
    · exact List.lookup_cons_self
    · have hne : (x.1 == y.1) = false := by
        rw [beq_eq_false_iff_ne]
        exact fun he ↦ hy (he ▸ List.mem_map_of_mem hx)
      rw [List.lookup_cons, hne]
      exact ih hdistinct hx

end Prepare

end Phrasebook.Template
