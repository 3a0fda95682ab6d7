import Phrasebook.Proofs.Passes
import Phrasebook.Proofs.TypedArguments

/-!
Texts that preparing a template spares.

What a shape makes of an opening brace is settled by the text up to and with the next brace
(`Shape.read_eq_none_iff`), and preparing a template leaves this part of any text as it is
(`start_spellOut`, `start_putAside`). So a text in which no brace begins an argument, read on into
what follows it, stands in front of the prepared template as it stood before, and what follows is
prepared as it would be alone (`prepare_behind`). Otherwise the first brace that begins an argument
is still there in the prepared template, with the spelled out plural or a placeholder after it
(`exists_of_not_spared`).
-/

set_option autoImplicit false

namespace Phrasebook.Template

open Text Reader

open Phrase (IsWordName)

/-! ### Up to the first brace -/

/-- The text up to and with its first brace. -/
def start : List Char → List Char
  | [] => []
  | c :: s => if c = '{' ∨ c = '}' then [c] else c :: start s

section Start

variable {s t v : List Char} {c : Char}

theorem start_brace (hc : c = '{' ∨ c = '}') (s : List Char) : start (c :: s) = [c] :=
  if_pos hc

theorem start_append_congr (h : start s = start t) (v : List Char) :
    start (v ++ s) = start (v ++ t) := by
  induction v with
  | nil => exact h
  | cons c v ih =>
    rw [List.cons_append, List.cons_append, start, start, ih]

theorem start_append (hv : BraceFree v) (hc : c = '{' ∨ c = '}') (s : List Char) :
    start (v ++ c :: s) = v ++ [c] := by
  induction v with
  | nil => exact start_brace hc s
  | cons d v ih =>
    obtain ⟨⟨hopen, hclose⟩, hv⟩ := List.forall_mem_cons.1 hv
    rw [List.cons_append, start, if_neg (by simp [hopen, hclose]), ih hv, List.cons_append]

theorem start_of_braceFree (hv : BraceFree v) : start v = v := by
  induction v with
  | nil => rfl
  | cons d v ih =>
    obtain ⟨⟨hopen, hclose⟩, hv⟩ := List.forall_mem_cons.1 hv
    rw [start, if_neg (by simp [hopen, hclose]), ih hv]

/-- A text has no brace, or it has a first one. -/
theorem braceFree_or_exists (s : List Char) :
    BraceFree s ∨ ∃ v c t, BraceFree v ∧ (c = '{' ∨ c = '}') ∧ s = v ++ c :: t := by
  induction s with
  | nil => exact .inl .nil
  | cons c s ih =>
    by_cases hc : c = '{' ∨ c = '}'
    · exact .inr ⟨[], c, s, .nil, hc, rfl⟩
    · rw [not_or] at hc
      rcases ih with hs | ⟨v, d, t, hv, hd, rfl⟩
      · exact .inl (hs.cons hc)
      · exact .inr ⟨c :: v, d, t, hv.cons hc, hd, rfl⟩

theorem exists_of_start_eq (h : start s = [c]) : ∃ t, s = c :: t := by
  cases s with
  | nil => cases h
  | cons d s =>
    rw [start] at h
    split at h <;> exact ⟨s, by rw [(List.cons.inj h).1]⟩

end Start

namespace Shape

variable {α : Type} {shape : Shape α} {s t x rest rest' : List Char}

/-- A shape refuses a text unless its first brace closes and the shape finds something before it. -/
theorem read_eq_none_iff (h : shape.read.Closes) :
    shape.read s = none ↔ ∀ v, start s = v ++ ['}'] → shape.found? v = none := by
  rcases braceFree_or_exists s with hs | ⟨v, c, t, hv, hc, rfl⟩
  · have hnone : shape.read s = none := by
      have := read_open (s := []) h hs (by simp)
      rwa [List.append_nil] at this
    refine ⟨fun _ v hv ↦ ?_, fun _ ↦ hnone⟩
    rw [start_of_braceFree hs] at hv
    exact absurd rfl (hs '}' (by simp [hv])).2
  · rw [start_append hv hc]
    rcases hc with rfl | rfl
    · refine ⟨fun _ w hw ↦ ?_, fun _ ↦ read_open h hv (by simp)⟩
      exact absurd (List.append_inj_right' hw rfl) (by decide)
    · rw [read_group h hv, Option.map_eq_none_iff]
      refine ⟨fun hnone w hw ↦ ?_, fun hnone ↦ hnone v rfl⟩
      rwa [← List.append_inj_left' hw rfl]

theorem read_eq_none_congr (h : shape.read.Closes) (hst : start s = start t) :
    shape.read s = none ↔ shape.read t = none := by
  rw [read_eq_none_iff h, read_eq_none_iff h, hst]

/-- No argument of the shape begins at a brace of `x` where `rest` follows `x`. -/
def Spares (shape : Shape α) (x rest : List Char) : Prop :=
  ∀ u v, x = u ++ '{' :: v → shape.read (v ++ rest) = none

theorem Spares.congr (hs : shape.Spares x rest) (h : shape.read.Closes)
    (hrest : start rest = start rest') : shape.Spares x rest' := fun u v hx ↦
  (read_eq_none_congr h (start_append_congr hrest v)).1 (hs u v hx)

theorem Spares.of_cons {c : Char} (hs : shape.Spares (c :: x) rest) : shape.Spares x rest :=
  fun u v hx ↦ hs (c :: u) v (by rw [hx, List.cons_append])

/-- A text that is spared is cut into its characters. -/
theorem Spares.pieces (hs : shape.Spares x rest) :
    shape.pieces (x ++ rest) = x.map .char ++ shape.pieces rest := by
  induction x with
  | nil => rfl
  | cons c x ih =>
    rw [List.cons_append, List.map_cons, List.cons_append, ← ih hs.of_cons]
    by_cases hc : c = '{'
    · subst hc
      exact shape.pieces_of_refused (hs [] x rfl)
    · exact shape.pieces_cons hc _

/-- A text that is spared before an opening brace is spared with this brace and what follows it, if
the brace begins no argument. -/
theorem Spares.append_brace {k r : List Char} (hs : shape.Spares x ('{' :: rest))
    (h : shape.read.Closes) (hk : BraceFree k) (hr : shape.read (k ++ r) = none) :
    shape.Spares (x ++ '{' :: k) r := by
  intro u v hx
  rcases List.append_eq_append_iff.1 hx with ⟨w, rfl, hw⟩ | ⟨w, rfl, hw⟩
  · cases w with
    | nil =>
      obtain ⟨-, rfl⟩ := List.cons.inj hw
      exact hr
    | cons c w =>
      have hmem : '{' ∈ k := by
        rw [(List.cons.inj hw).2]
        simp
      exact absurd rfl (hk '{' hmem).1
  · cases w with
    | nil =>
      obtain ⟨-, rfl⟩ := List.cons.inj hw
      exact hr
    | cons c w =>
      obtain ⟨rfl, rfl⟩ := List.cons.inj hw
      have hstart : start ('{' :: rest) = start ('{' :: (k ++ r)) := by
        rw [start_brace (.inl rfl), start_brace (.inl rfl)]
      have := hs.congr h hstart u w rfl
      change shape.read ((w ++ '{' :: k) ++ r) = none
      rwa [List.append_assoc, List.cons_append]

end Shape

/-! ### Stages -/

theorem start_spellOut (s : List Char) : start (spellOut s) = start s := by
  rw [spellOut, Shape.replace]
  fun_induction shorthand.pieces s with
  | case1 => rfl
  | case2 s f t hr _ ih =>
    rw [List.flatMap_cons, start_brace (.inl rfl)]
    simp [PluralForms.argument, start]
  | case3 s hr ih => simp [start]
  | case4 c s hc ih =>
    rw [List.flatMap_cons, List.singleton_append, start, start, ih]

theorem start_withPlaceholders (kind : PlaceholderKind) (n : Nat) (shape : Shape ExtensionArgument)
    (s : List Char) : start (withPlaceholders kind n (shape.pieces s)).text = start s := by
  fun_induction shape.pieces s with
  | case1 => rfl
  | case2 s a t hr _ ih =>
    rw [withPlaceholders, start_brace (.inl rfl)]
    exact start_brace (.inl rfl) _
  | case3 s hr ih => rw [withPlaceholders, start_brace (.inl rfl), start_brace (.inl rfl)]
  | case4 c s hc ih =>
    rw [withPlaceholders, start, start, ih]

theorem start_putAside (w : Prepared) (p : Pass) : start (w.putAside p.1 p.2).text = start w.text :=
  start_withPlaceholders p.1 0 p.2 w.text

/-- The prepared template with a text in front. -/
def Prepared.behind (x : List Char) (w : Prepared) : Prepared :=
  ⟨x ++ w.text, w.asides⟩

theorem spellOut_behind {x rest : List Char} (h : shorthand.Spares x rest) :
    spellOut (x ++ rest) = x ++ spellOut rest := by
  rw [spellOut, spellOut, Shape.replace, Shape.replace, h.pieces, List.flatMap_append,
    List.flatMap_map]
  simp

theorem putAside_behind {x : List Char} {p : Pass} {w : Prepared} (h : p.2.Spares x w.text) :
    (w.behind x).putAside p.1 p.2 = (w.putAside p.1 p.2).behind x := by
  rw [Prepared.putAside, Prepared.putAside, Prepared.behind, Prepared.behind, h.pieces,
    withPlaceholders_chars]

section Passes

variable {ps : List Pass} {x : List Char} {w : Prepared}

theorem foldl_behind (hcloses : ∀ p ∈ ps, p.2.read.Closes)
    (hspares : ∀ p ∈ ps, p.2.Spares x w.text) :
    ps.foldl (fun w p ↦ w.putAside p.1 p.2) (w.behind x) =
      (ps.foldl (fun w p ↦ w.putAside p.1 p.2) w).behind x := by
  induction ps generalizing w with
  | nil => rfl
  | cons p ps ih =>
    obtain ⟨-, hcloses⟩ := List.forall_mem_cons.1 hcloses
    obtain ⟨hp, hspares⟩ := List.forall_mem_cons.1 hspares
    rw [List.foldl_cons, List.foldl_cons, putAside_behind hp]
    exact ih hcloses fun q hq ↦ (hspares q hq).congr (hcloses q hq) (start_putAside w p).symm

theorem start_foldl (ps : List Pass) (w : Prepared) :
    start (ps.foldl (fun w p ↦ w.putAside p.1 p.2) w).text = start w.text := by
  induction ps generalizing w with
  | nil => rfl
  | cons p ps ih => exact (ih _).trans (start_putAside w p)

/-- A pass that takes the argument at a brace leaves its first placeholder there. -/
theorem exists_putAside {p : Pass} {a : ExtensionArgument} {t : List Char}
    (hspares : p.2.Spares x ('{' :: w.text)) (hr : p.2.read w.text = some (a, t)) :
    ∃ z asides, (w.behind (x ++ ['{'])).putAside p.1 p.2 =
      (⟨'}' :: z, asides⟩ : Prepared).behind (x ++ '{' :: (p.1.token 0).toList) := by
  let more := withPlaceholders p.1 1 (p.2.pieces t)
  refine ⟨more.text, w.asides ++ (p.1.token 0, a) :: more.asides, ?_⟩
  rw [Prepared.putAside, Prepared.behind, List.append_assoc, List.singleton_append, hspares.pieces,
    p.2.pieces_of_read hr, withPlaceholders_chars, withPlaceholders, Prepared.behind,
    List.append_assoc, List.cons_append]

/-- Where a pass takes the argument at a brace, its placeholder stands there after all passes. -/
theorem exists_token (hcloses : ∀ p ∈ ps, p.2.read.Closes) (hnamed : ∀ p ∈ ps, p.2.Named)
    (hspares : ∀ p ∈ ps, p.2.Spares x ('{' :: w.text)) (hfound : ∃ p ∈ ps, p.2.read w.text ≠ none) :
    ∃ (kind : PlaceholderKind) (n : Nat) (z : List Char),
      (ps.foldl (fun w p ↦ w.putAside p.1 p.2) (w.behind (x ++ ['{']))).text =
        x ++ '{' :: ((kind.token n).toList ++ '}' :: z) := by
  induction ps generalizing w with
  | nil => obtain ⟨p, hp, -⟩ := hfound; cases hp
  | cons p ps ih =>
    obtain ⟨hclose, hcloses⟩ := List.forall_mem_cons.1 hcloses
    obtain ⟨-, hnamed⟩ := List.forall_mem_cons.1 hnamed
    obtain ⟨hp, hspares⟩ := List.forall_mem_cons.1 hspares
    rw [List.foldl_cons]
    cases hr : p.2.read w.text with
    | some y =>
      -- no later pass takes the placeholder, for want of a comma
      obtain ⟨z, asides, hput⟩ := exists_putAside hp hr
      have hkept : ∀ q ∈ ps, q.2.Spares (x ++ '{' :: (p.1.token 0).toList) ('}' :: z) := by
        intro q hq
        refine (hspares q hq).append_brace (hcloses q hq) (p.1.braceFree_token 0) ?_
        rw [Shape.read_group (hcloses q hq) (p.1.braceFree_token 0),
          (hnamed q hq).found?_eq_none (p.1.comma_notMem_token 0)]
        rfl
      obtain ⟨z', hz'⟩ := exists_of_start_eq
        ((start_foldl ps ⟨'}' :: z, asides⟩).trans (start_brace (.inr rfl) z))
      refine ⟨p.1, 0, z', ?_⟩
      rw [hput, foldl_behind hcloses hkept, Prepared.behind, hz', List.append_assoc,
        List.cons_append]
    | none =>
      have hbrace : p.2.Spares (x ++ ['{']) w.text := hp.append_brace hclose .nil hr
      have hstart := start_putAside w p
      rw [putAside_behind hbrace]
      refine ih hcloses hnamed (fun q hq ↦ (hspares q hq).congr (hcloses q hq) ?_) ?_
      · rw [start_brace (.inl rfl), start_brace (.inl rfl)]
      · obtain ⟨q, hq, hread⟩ := hfound
        rcases List.mem_cons.1 hq with rfl | hq
        · exact absurd hr hread
        · exact ⟨q, hq, fun hnone ↦
            hread ((Shape.read_eq_none_congr (hcloses q hq) hstart).1 hnone)⟩

end Passes

/-! ### Templates behind a text -/

section Prepare

variable {names : List String} {x rest : List Char}

/-- No plural in short and no argument that would be put aside begins at a brace of `x` where `rest`
follows `x`. -/
def Spared (names : List String) (x rest : List Char) : Prop :=
  shorthand.Spares x rest ∧ ∀ p ∈ passes names, p.2.Spares x rest

/-- A text that is spared stands in front of what is prepared. -/
theorem prepare_behind (hnames : ∀ name ∈ names, BraceFree name.toList)
    (h : Spared names x rest) :
    prepare names (spellOut (x ++ rest)) = (prepare names (spellOut rest)).behind x := by
  rw [spellOut_behind h.1, prepare_eq_foldl, prepare_eq_foldl]
  exact foldl_behind (w := ⟨spellOut rest, []⟩) (closes_passes hnames) fun p hp ↦
    (h.2 p hp).congr (closes_passes hnames p hp) (start_spellOut rest).symm

theorem start_prepare (names : List String) (s : List Char) :
    start (prepare names (spellOut s)).text = start s := by
  rw [prepare_eq_foldl]
  exact (start_foldl _ _).trans (start_spellOut s)

/-- The first brace with a property. -/
theorem exists_first_brace {P : List Char → Prop} {s : List Char}
    (h : ∃ u v, s = u ++ '{' :: v ∧ P v) :
    ∃ u v, s = u ++ '{' :: v ∧ P v ∧ ∀ u' v', u = u' ++ '{' :: v' → ¬ P (v' ++ '{' :: v) := by
  induction s with
  | nil =>
    obtain ⟨u, v, hs, -⟩ := h
    exact absurd hs (by simp)
  | cons c s ih =>
    by_cases hfirst : c = '{' ∧ P s
    · exact ⟨[], s, by rw [hfirst.1]; rfl, hfirst.2, fun u' v' hu ↦ absurd hu (by simp)⟩
    · have hlater : ∃ u v, s = u ++ '{' :: v ∧ P v := by
        obtain ⟨u, v, hs, hv⟩ := h
        cases u with
        | nil =>
          obtain ⟨rfl, rfl⟩ := List.cons.inj hs
          exact absurd ⟨rfl, hv⟩ hfirst
        | cons d u => exact ⟨u, v, (List.cons.inj hs).2, hv⟩
      obtain ⟨u, v, rfl, hv, hbefore⟩ := ih hlater
      refine ⟨c :: u, v, rfl, hv, fun u' v' hu hP ↦ ?_⟩
      cases u' with
      | nil =>
        obtain ⟨rfl, rfl⟩ := List.cons.inj hu
        exact hfirst ⟨rfl, hP⟩
      | cons d u' => exact hbefore u' v' (List.cons.inj hu).2 hP

/-- Up to its first option, a plural that is written out has no brace. -/
theorem PluralForms.exists_argument (f : PluralForms) : ∃ k y, f.argument.toList =
    '{' :: (f.name.toList ++ ", plural,".toList ++ k ++ '{' :: y) ∧ BraceFree k := by
  obtain ⟨name, zero, one, other⟩ := f
  cases zero with
  | none =>
    refine ⟨" one ".toList,
      ("# " ++ one ++ "\x7d" ++ option "other" ("# " ++ other)).toList ++ ['}'], ?_, by decide⟩
    simp [argument, option]
  | some zero =>
    refine ⟨" =0 ".toList, (zero ++ "\x7d" ++ option "one" ("# " ++ one) ++
      option "other" ("# " ++ other)).toList ++ ['}'], ?_, by decide⟩
    simp [argument, option]

/-- What stands at the start of a plural in short. -/
theorem exists_of_shorthand {s t : List Char} {f : PluralForms}
    (h : shorthand.read s = some (f, t)) :
    IsWordName f.name ∧ ∃ s₁ s₂ s₃ s₄, White s (f.name.toList ++ s₁) ∧ White s₁ (',' :: s₂) ∧
      White s₂ ('p' :: s₃) ∧ White s₃ (',' :: s₄) := by
  obtain ⟨name, s₂, hname, h⟩ := exists_of_bind h
  obtain ⟨k, s₃, hk, h⟩ := exists_of_bind h
  obtain ⟨_, s', hblanks, h⟩ := exists_of_bind h
  obtain ⟨_, s₄, hcomma, h⟩ := exists_of_bind h
  obtain ⟨first, _, -, h⟩ := exists_of_bind h
  obtain ⟨_, _, -, h⟩ := exists_of_bind h
  obtain ⟨second, _, -, h⟩ := exists_of_bind h
  obtain ⟨third, _, -, h⟩ := exists_of_bind h
  obtain ⟨_, _, -, h⟩ := exists_of_bind h
  obtain rfl : f.name = name := by
    obtain ⟨rfl, -⟩ := Prod.mk.inj (Option.some.inj h)
    cases third <;> rfl
  obtain ⟨hword, s₁, hs, hs₁⟩ := exists_of_variableName hname
  obtain ⟨hmem, hs₂⟩ := white_of_keyword hk
  obtain rfl := List.mem_singleton.1 hmem
  obtain rfl := append_of_exactly hcomma
  exact ⟨hword, s₁, s₂, s₃, s₄, hs, hs₁, hs₂, white_of_blanks hblanks⟩

/-- The forms, the one for zero first if there is one. -/
def PluralForms.forms (f : PluralForms) : List String :=
  f.zero.toList ++ [f.one, f.other]

theorem PluralForms.mem_forms_of_zero (f : PluralForms) {w : String} (h : w ∈ f.zero) :
    w ∈ f.forms :=
  List.mem_append_left _ (Option.mem_toList.2 h)

theorem PluralForms.one_mem_forms (f : PluralForms) : f.one ∈ f.forms :=
  List.mem_append_right _ (by simp)

theorem PluralForms.other_mem_forms (f : PluralForms) : f.other ∈ f.forms :=
  List.mem_append_right _ (by simp)

theorem isFormChar_of_form {s t : List Char} {w : String} (h : form s = some (w, t)) :
    ∀ c ∈ w.toList, isFormChar c = true := by
  obtain ⟨u, s', hspan, h⟩ := exists_of_bind h
  obtain ⟨rfl, -⟩ := Prod.mk.inj (Option.some.inj hspan)
  obtain ⟨rfl, -⟩ := Prod.mk.inj (Option.some.inj h)
  intro c hc
  rw [String.toList_ofList] at hc
  exact List.mem_takeWhile_imp (Grammar.mem_of_mem_trim hc)

/-- The forms are cut at braces and bars, so they have none. -/
theorem isFormChar_of_shorthand {s t : List Char} {f : PluralForms}
    (h : shorthand.read s = some (f, t)) :
    ∀ w ∈ f.forms, ∀ c ∈ w.toList, isFormChar c = true := by
  obtain ⟨_, _, -, h⟩ := exists_of_bind h
  obtain ⟨_, _, -, h⟩ := exists_of_bind h
  obtain ⟨_, _, -, h⟩ := exists_of_bind h
  obtain ⟨_, _, -, h⟩ := exists_of_bind h
  obtain ⟨first, _, hfirst, h⟩ := exists_of_bind h
  obtain ⟨_, _, -, h⟩ := exists_of_bind h
  obtain ⟨second, _, hsecond, h⟩ := exists_of_bind h
  obtain ⟨third, _, hthird, h⟩ := exists_of_bind h
  obtain ⟨_, _, -, h⟩ := exists_of_bind h
  obtain ⟨rfl, -⟩ := Prod.mk.inj (Option.some.inj h)
  cases third with
  | none => simpa [PluralForms.forms] using ⟨isFormChar_of_form hfirst, isFormChar_of_form hsecond⟩
  | some third =>
    have hthird : ∀ c ∈ third.toList, isFormChar c = true := by
      rw [optionally] at hthird
      split at hthird
      · rename_i hr
        obtain ⟨_, _, -, hr⟩ := exists_of_bind hr
        cases hthird
        exact isFormChar_of_form hr
      · cases hthird
    simpa [PluralForms.forms] using
      ⟨isFormChar_of_form hfirst, isFormChar_of_form hsecond, hthird⟩

theorem braceFree_of_isFormChar {v : List Char} (h : ∀ c ∈ v, isFormChar c = true) :
    BraceFree v := by
  intro c hc
  have hform := h c hc
  simp only [isFormChar, Bool.and_eq_true, bne_iff_ne] at hform
  exact hform.1

/-- A plural in short that is spelled out stays after the passes, up to its first option. -/
theorem exists_prepare_shorthand {f : PluralForms} {t : List Char}
    (hnames : ∀ name ∈ names, BraceFree name.toList)
    (hshorthand : shorthand.Spares x ('{' :: rest))
    (hpasses : ∀ p ∈ passes names, p.2.Spares x ('{' :: rest))
    (hr : shorthand.read rest = some (f, t)) (hname : BraceFree f.name.toList) :
    ∃ z, (prepare names (spellOut (x ++ '{' :: rest))).text =
      x ++ '{' :: (f.name.toList ++ ", plural,".toList ++ z) := by
  obtain ⟨k, y, hargument, hk⟩ := f.exists_argument
  let k' := f.name.toList ++ ", plural,".toList ++ k
  have hspelled : spellOut (x ++ '{' :: rest) = (x ++ '{' :: k') ++ '{' :: (y ++ spellOut t) := by
    have hpiece : spellOut ('{' :: rest) = f.argument.toList ++ spellOut t := by
      rw [spellOut, Shape.replace, shorthand.pieces_of_read hr, List.flatMap_cons]
      rfl
    rw [spellOut_behind hshorthand, hpiece, hargument]
    simp [k']
  have hk' : BraceFree k' := (hname.append (by decide)).append hk
  have hkept : ∀ p ∈ passes names, p.2.Spares (x ++ '{' :: k') ('{' :: (y ++ spellOut t)) :=
    fun p hp ↦ (hpasses p hp).append_brace (closes_passes hnames p hp) hk'
      (Shape.read_open (closes_passes hnames p hp) hk' (by simp))
  let w : Prepared := ⟨'{' :: (y ++ spellOut t), []⟩
  refine ⟨k ++ ((passes names).foldl (fun w p ↦ w.putAside p.1 p.2) w).text, ?_⟩
  have hfold := foldl_behind (w := w) (closes_passes hnames) hkept
  rw [hspelled, prepare_eq_foldl]
  refine (congrArg Prepared.text hfold).trans ?_
  simp [Prepared.behind, k']

/-- In a text that is not spared, the first brace that begins an argument stays, and after it stands
the plural that is written out or the placeholder of the argument. -/
theorem exists_of_not_spared (hnames : ∀ name ∈ names, BraceFree name.toList)
    (h : ¬ Spared names x rest) : ∃ u v z, x = u ++ '{' :: v ∧
      ((∃ f t, shorthand.read (v ++ rest) = some (f, t) ∧
        (prepare names (spellOut (x ++ rest))).text =
          u ++ '{' :: (f.name.toList ++ ", plural,".toList ++ z)) ∨
      ∃ p ∈ passes names, p.2.read (v ++ rest) ≠ none ∧ ∃ (kind : PlaceholderKind) (n : Nat),
        (prepare names (spellOut (x ++ rest))).text =
          u ++ '{' :: ((kind.token n).toList ++ '}' :: z)) := by
  let Begins (s : List Char) : Prop :=
    shorthand.read (s ++ rest) ≠ none ∨ ∃ p ∈ passes names, p.2.read (s ++ rest) ≠ none
  have hsome : ∃ u v, x = u ++ '{' :: v ∧ Begins v := by
    by_contra hnone
    push Not at hnone
    refine h ⟨fun u v hx ↦ ?_, fun p hp u v hx ↦ ?_⟩
    · have := hnone u v hx
      simp only [Begins, not_or, not_not] at this
      exact this.1
    · have := hnone u v hx
      simp only [Begins, not_or, not_exists, not_and, not_not] at this
      exact this.2 p hp
  obtain ⟨u, v, rfl, hv, hbefore⟩ := exists_first_brace hsome
  have hspares {α : Type} {shape : Shape α}
      (hshape : ∀ s, shape.read (s ++ rest) ≠ none → Begins s) :
      shape.Spares u ('{' :: (v ++ rest)) := by
    intro u' v' hu
    by_contra hread
    refine hbefore u' v' hu (hshape _ ?_)
    rwa [List.append_assoc, List.cons_append]
  have hshorthand : shorthand.Spares u ('{' :: (v ++ rest)) := hspares fun _ ↦ .inl
  have hpasses : ∀ p ∈ passes names, p.2.Spares u ('{' :: (v ++ rest)) :=
    fun p hp ↦ hspares fun s hs ↦ .inr ⟨p, hp, hs⟩
  have hsplit : u ++ '{' :: v ++ rest = u ++ '{' :: (v ++ rest) := by simp
  rw [hsplit]
  cases hr : shorthand.read (v ++ rest) with
  | some y =>
    obtain ⟨f, t⟩ := y
    obtain ⟨hname, -⟩ := exists_of_shorthand hr
    obtain ⟨z, hz⟩ := exists_prepare_shorthand hnames hshorthand hpasses hr
      (braceFree_of_isWord hname.2)
    exact ⟨u, v, z, rfl, .inl ⟨f, t, hr, hz⟩⟩
  | none =>
    obtain ⟨p, hp, hread⟩ := hv.resolve_left (by simp [hr])
    have hbrace : shorthand.Spares (u ++ ['{']) (v ++ rest) :=
      hshorthand.append_brace closes_shorthand .nil hr
    have hspelled : spellOut (u ++ '{' :: (v ++ rest)) = (u ++ ['{']) ++ spellOut (v ++ rest) := by
      rw [← spellOut_behind hbrace, List.append_assoc, List.singleton_append]
    have hstart := start_spellOut (v ++ rest)
    have hstart' : start ('{' :: (v ++ rest)) = start ('{' :: spellOut (v ++ rest)) := by
      rw [start_brace (.inl rfl), start_brace (.inl rfl)]
    obtain ⟨kind, n, z, hz⟩ := exists_token (w := ⟨spellOut (v ++ rest), []⟩) (closes_passes hnames)
      (named_passes names) (fun q hq ↦ (hpasses q hq).congr (closes_passes hnames q hq) hstart')
      ⟨p, hp, fun hnone ↦ hread
        ((Shape.read_eq_none_congr (closes_passes hnames p hp) hstart).1 hnone)⟩
    refine ⟨u, v, z, rfl, .inr ⟨p, hp, hread, kind, n, ?_⟩⟩
    rw [hspelled, prepare_eq_foldl]
    exact hz

end Prepare

end Phrasebook.Template
