import Phrasebook.Proofs.ClearTemplates
import Phrasebook.Proofs.SparedTexts

/-!
Arguments under words that formatters cannot have.

Whatever is asked of a roster, its names are words that are not reserved, or words with the end of a
line behind them (`Roster.Nameable`). What the passes over a template make of an opening brace is
settled by the first of them that takes what follows it (`exists_foldl_brace`), and the one for
formatters takes an argument under a reserved word only where the word and the end of a line are the
name of a formatter (`read_customArgument_iff`). The names on the roster thus keep every other
argument under a reserved word from the formatters (`Roster.takes_reserved_iff`).
-/

set_option autoImplicit false

namespace Phrasebook

open Text Template

open Phrase (IsWordName)

/-! ### Names on the roster -/

namespace Roster

/-- What can be asked of a roster. -/
inductive Request
  | register (name : String) (formatter? : Option Formatter)
  | unregister (name : String)
  | clear

/-- What comes back. -/
inductive Reply
  | done
  | removed (there : Bool)
  | refused (fault : RosterFault)

def Reply.isRefusal : Reply → Bool
  | .refused _ => true
  | _ => false

/-- The roster after a request, and the reply. -/
def perform (r : Roster) : Request → Roster × Reply
  | .register name formatter? =>
    match r.register name formatter? with
    | .ok r => (r, .done)
    | .error f => (r, .refused f)
  | .unregister name => ((r.unregister name).1, .removed (r.unregister name).2)
  | .clear => ({}, .done)

/-- The roster after several requests. -/
def serve (r : Roster) (requests : List Request) : Roster :=
  requests.foldl (fun r request ↦ (r.perform request).1) r

/-- A text that can name a formatter: a word that is not reserved, or any word with the end of a
line behind it. -/
def Nameable (name : String) : Prop :=
  IsWordName name ∧ name ∉ reservedNames ∨ ∃ w, IsWordName w ∧ name = w ++ "\n"

theorem isWordName_of_reserved {word : String} (h : word ∈ reservedNames) : IsWordName word :=
  (by decide +kernel : ∀ w ∈ reservedNames, IsWordName w) word h

/-- The end of a line belongs to no word. -/
theorem not_isWordName_line (w : String) : ¬ IsWordName (w ++ "\n") := by
  intro h
  have hline := h.2 '\n' (by simp)
  exact absurd hline (by decide)

theorem Nameable.exists_cons {name : String} (h : Nameable name) :
    ∃ d u, name.toList = d :: u ∧ isWord d = true := by
  rcases h with ⟨h, -⟩ | ⟨w, h, rfl⟩
  · exact h.exists_cons
  · obtain ⟨d, u, hd, hword⟩ := h.exists_cons
    exact ⟨d, u ++ ['\n'], by simp [hd], hword⟩

theorem isName_iff (name : String) :
    isName name = true ↔ IsWordName name ∨ ∃ w, IsWordName w ∧ name = w ++ "\n" := by
  have hsplit := List.takeWhile_append_dropWhile (p := isWord) (l := name.toList)
  have hword : ∀ c ∈ name.toList.takeWhile isWord, isWord c = true :=
    fun _ hc ↦ List.mem_takeWhile_imp hc
  rw [isName, Bool.and_eq_true, Bool.or_eq_true, Bool.not_eq_true', List.isEmpty_eq_false_iff,
    List.isEmpty_iff, beq_iff_eq]
  constructor
  · rintro ⟨hne, hrest | hrest⟩
    · rw [hrest, List.append_nil] at hsplit
      rw [hsplit] at hne hword
      exact .inl ⟨hne, hword⟩
    · refine .inr ⟨String.ofList (name.toList.takeWhile isWord), ?_, ?_⟩
      · rw [IsWordName, String.toList_ofList]
        exact ⟨hne, hword⟩
      · rw [hrest] at hsplit
        exact String.toList_inj.1 (by simpa using hsplit.symm)
  · rintro (⟨hne, hall⟩ | ⟨w, ⟨hne, hall⟩, rfl⟩)
    · have htake := takeWhile_append_stop (t := []) hall (by simp)
      have hdrop := dropWhile_append_stop (t := []) hall (by simp)
      rw [List.append_nil] at htake hdrop
      rw [htake, hdrop]
      exact ⟨hne, .inl rfl⟩
    · have hline : ∀ c ∈ ['\n'].head?, isWord c = false := by decide
      have hlist : (w ++ "\n").toList = w.toList ++ ['\n'] := by simp
      rw [hlist, takeWhile_append_stop hall hline, dropWhile_append_stop hall hline]
      exact ⟨hne, .inr rfl⟩

theorem nameable_iff (name : String) :
    name ∉ reservedNames ∧ isName name = true ↔ Nameable name := by
  rw [isName_iff, Nameable, and_or_left, and_comm]
  refine or_congr .rfl ⟨fun h ↦ h.2, fun h ↦ ⟨fun hreserved ↦ ?_, h⟩⟩
  obtain ⟨w, -, rfl⟩ := h
  exact not_isWordName_line w (isWordName_of_reserved hreserved)

theorem nameable_of_mem_names {r : Roster} {name : String} (h : name ∈ r.names) : Nameable name :=
  (nameable_iff name).1 (r.named name h)

/-- A formatter is registered under every text that can name one. -/
theorem isRefusal_register_iff (r : Roster) (name : String) (formatter? : Option Formatter) :
    (r.perform (.register name formatter?)).2.isRefusal = false ↔
      Nameable name ∧ formatter?.isSome := by
  rw [← nameable_iff, perform]
  by_cases hreserved : name ∈ reservedNames
  · simp [register, hreserved, Reply.isRefusal]
  · cases hname : isName name with
    | false => simp [register, hreserved, hname, Reply.isRefusal]
    | true => cases formatter? <;> simp [register, hreserved, hname, Reply.isRefusal]

/-- A refused request leaves the roster as it is. -/
theorem perform_of_isRefusal {r : Roster} {request : Request}
    (h : (r.perform request).2.isRefusal = true) : (r.perform request).1 = r := by
  cases request with
  | register name formatter? =>
    rw [perform] at h ⊢
    cases hr : r.register name formatter? with
    | error f => rfl
    | ok r' =>
      rw [hr] at h
      cases h
  | unregister | clear => cases h

end Roster

/-! ### Passes from a brace on -/

namespace Template

open Reader

/-- The text goes on behind its first brace. -/
theorem exists_of_start_append {s v : List Char} {c : Char} (h : start s = v ++ [c]) :
    ∃ t, s = v ++ c :: t := by
  induction s generalizing v with
  | nil => exact absurd h (by simp [start])
  | cons d s ih =>
    cases v with
    | nil => exact exists_of_start_eq h
    | cons e v =>
      rw [start] at h
      split at h
      · exact absurd (List.cons.inj h).2 (by simp)
      · obtain ⟨rfl, hv⟩ := List.cons.inj h
        obtain ⟨t, rfl⟩ := ih hv
        exact ⟨t, rfl⟩

theorem start_token (kind : PlaceholderKind) (n : Nat) (s : List Char) :
    start ((kind.token n).toList ++ '}' :: s) = (kind.token n).toList ++ ['}'] :=
  start_append (kind.braceFree_token n) (.inr rfl) s

section Passes

variable {s t : List Char}

/-- No argument goes on over an opening brace. -/
theorem Shape.pieces_append_brace {α : Type} {shape : Shape α} (h : shape.read.Closes)
    (x s : List Char) :
    shape.pieces (x ++ '{' :: s) = shape.pieces x ++ shape.pieces ('{' :: s) := by
  fun_induction shape.pieces x with
  | case1 => rfl
  | case2 x a t hr _ ih =>
    obtain ⟨v, hv, rfl, hfound⟩ := group_of_read h hr
    have hread : shape.read (v ++ '}' :: t ++ '{' :: s) = some (a, t ++ '{' :: s) := by
      rw [List.append_assoc, List.cons_append, read_group h hv, hfound]
      rfl
    rw [List.cons_append, shape.pieces_of_read hread, ih, List.cons_append]
  | case3 x hr ih =>
    have hread : shape.read (x ++ '{' :: s) = none := by
      rcases braceFree_or_exists x with hx | ⟨v, c, t, hv, hc, rfl⟩
      · exact read_open h hx (by simp)
      · refine (read_eq_none_congr h ?_).1 hr
        rw [List.append_assoc, List.cons_append, start_append hv hc, start_append hv hc]
    rw [List.cons_append, shape.pieces_of_refused hread, ih, List.cons_append]
  | case4 c x hc ih => rw [List.cons_append, shape.pieces_cons hc, ih, List.cons_append]

theorem withPlaceholders_append (kind : PlaceholderKind) (n : Nat)
    (ps rest : List (Piece ExtensionArgument)) :
    ∃ m, (withPlaceholders kind n (ps ++ rest)).text =
      (withPlaceholders kind n ps).text ++ (withPlaceholders kind m rest).text := by
  induction ps generalizing n with
  | nil => exact ⟨n, rfl⟩
  | cons p ps ih =>
    cases p with
    | char c =>
      obtain ⟨m, hm⟩ := ih n
      refine ⟨m, ?_⟩
      rw [List.cons_append, withPlaceholders, withPlaceholders, hm, List.cons_append]
    | found a =>
      obtain ⟨m, hm⟩ := ih (n + 1)
      refine ⟨m, ?_⟩
      rw [List.cons_append, withPlaceholders, withPlaceholders, hm]
      simp

/-- The first of the passes that takes what follows a brace. -/
def taker? (ps : List Pass) (s : List Char) : Option Pass :=
  ps.find? fun p ↦ (p.2.read s).isSome

theorem taker?_congr {ps : List Pass} (hcloses : ∀ p ∈ ps, p.2.read.Closes)
    (h : start s = start t) : taker? ps s = taker? ps t := by
  induction ps with
  | nil => rfl
  | cons p ps ih =>
    obtain ⟨hclose, hcloses⟩ := List.forall_mem_cons.1 hcloses
    have hp : (p.2.read s).isSome = (p.2.read t).isSome := by
      rw [Bool.eq_iff_iff, Option.isSome_iff_ne_none, Option.isSome_iff_ne_none]
      exact not_congr (Shape.read_eq_none_congr hclose h)
    rw [taker?, taker?, List.find?_cons, List.find?_cons, hp]
    split
    · rfl
    · exact ih hcloses

/-- What follows the brace, up to and with the next one, after one pass: as it was, or a
placeholder. -/
theorem exists_putAside_brace {p : Pass} (h : p.2.read.Closes) (x s : List Char)
    (asides asides' : Asides) :
    ∃ z, (Prepared.putAside ⟨x ++ '{' :: s, asides⟩ p.1 p.2).text =
        (Prepared.putAside ⟨x, asides'⟩ p.1 p.2).text ++ '{' :: z ∧
      (p.2.read s = none → start z = start s) ∧
      (p.2.read s ≠ none → ∃ n, start z = (p.1.token n).toList ++ ['}']) := by
  obtain ⟨m, hm⟩ := withPlaceholders_append p.1 0 (p.2.pieces x) (p.2.pieces ('{' :: s))
  rw [← Shape.pieces_append_brace h] at hm
  cases hr : p.2.read s with
  | none =>
    refine ⟨(withPlaceholders p.1 m (p.2.pieces s)).text, ?_, fun _ ↦ ?_, fun hne ↦ absurd rfl hne⟩
    · rw [p.2.pieces_of_refused hr] at hm
      exact hm
    · exact start_withPlaceholders p.1 m p.2 s
  | some found =>
    obtain ⟨a, t⟩ := found
    rw [p.2.pieces_of_read hr] at hm
    exact ⟨_, hm, fun hnone ↦ absurd hnone (by simp), fun _ ↦ ⟨m, start_token p.1 m _⟩⟩

/-- What follows the brace, up to and with the next one, after all passes: as it was, or a
placeholder of the first pass that takes it. -/
theorem exists_foldl_brace {ps : List Pass} (hcloses : ∀ p ∈ ps, p.2.read.Closes)
    (hnamed : ∀ p ∈ ps, p.2.Named) (x s : List Char) (asides asides' : Asides) :
    ∃ z, (ps.foldl (fun w p ↦ w.putAside p.1 p.2) (⟨x ++ '{' :: s, asides⟩ : Prepared)).text =
        (ps.foldl (fun w p ↦ w.putAside p.1 p.2) (⟨x, asides'⟩ : Prepared)).text ++ '{' :: z ∧
      (taker? ps s = none → start z = start s) ∧
      (∀ p ∈ taker? ps s, ∃ n, start z = (p.1.token n).toList ++ ['}']) := by
  induction ps generalizing x s asides asides' with
  | nil => exact ⟨s, rfl, fun _ ↦ rfl, by simp [taker?]⟩
  | cons p ps ih =>
    obtain ⟨hclose, hcloses⟩ := List.forall_mem_cons.1 hcloses
    obtain ⟨-, hnamed⟩ := List.forall_mem_cons.1 hnamed
    obtain ⟨s', hs', hkept, htaken⟩ := exists_putAside_brace hclose x s asides asides'
    obtain ⟨z, hz, hnone, hsome⟩ := ih hcloses hnamed
      (Prepared.putAside ⟨x, asides'⟩ p.1 p.2).text s'
      (Prepared.putAside ⟨x ++ '{' :: s, asides⟩ p.1 p.2).asides
      (Prepared.putAside ⟨x, asides'⟩ p.1 p.2).asides
    refine ⟨z, ?_, ?_⟩
    · rw [List.foldl_cons, List.foldl_cons, ← hz, ← hs']
    · cases hr : p.2.read s with
      | none =>
        have hstart := hkept hr
        have htaker : taker? (p :: ps) s = taker? ps s' := by
          rw [← taker?_congr hcloses hstart.symm, taker?, List.find?_cons, hr]
          rfl
        rw [htaker]
        exact ⟨fun h ↦ (hnone h).trans hstart, hsome⟩
      | some found =>
        -- no later pass takes the placeholder, for want of a comma
        obtain ⟨n, hn⟩ := htaken (by simp [hr])
        have htaker : taker? (p :: ps) s = some p := by
          rw [taker?, List.find?_cons, hr]
          rfl
        have hlater : taker? ps s' = none := by
          refine List.find?_eq_none.2 fun q hq ↦ ?_
          have hrefused : q.2.read s' = none := by
            refine (Shape.read_eq_none_iff (hcloses q hq)).2 fun v hv ↦ ?_
            obtain rfl := List.append_inj_left' (hn.symm.trans hv) rfl
            exact (hnamed q hq).found?_eq_none (p.1.comma_notMem_token n)
          simp [hrefused]
        refine ⟨fun h ↦ absurd h (by simp [htaker]), fun q hq ↦ ⟨n, ?_⟩⟩
        rw [htaker] at hq
        rw [← Option.mem_some.1 hq, hnone hlater, hn]

end Passes

/-! ### Arguments under a word -/

/-- What stands after the opening brace of an argument under a word: a name, a comma and the word,
with white space around the first two, and then, perhaps after white space, a comma or the closing
brace. -/
def Under (name : List Char) (word : String) (rest s : List Char) : Prop :=
  (name ≠ [] ∧ ∀ c ∈ name, isLooseNameChar c = true) ∧
    (∃ c t, (c = ',' ∨ c = '}') ∧ White rest (c :: t)) ∧
    ∃ s₁ s₂, White s (name ++ s₁) ∧ White s₁ (',' :: s₂) ∧ White s₂ (word.toList ++ rest)

/-- The argument at this brace of a template is put aside for a formatter: behind what stands before
it there is a placeholder of their kind. -/
def Takes (names : List String) (x s : List Char) : Prop :=
  ∃ n z, (prepare names (x ++ '{' :: s)).text =
    (prepare names x).text ++ '{' :: ((PlaceholderKind.custom.token n).toList ++ '}' :: z)

section Read

variable {α : Type} {r : Reader α} {name s s₁ s₂ t u rest : List Char} {n word : String}

/-- Where a reader takes the closing brace, it is the next brace. -/
theorem exists_close_of_read (h : r.Closes) (hr : r s ≠ none) :
    ∃ v t, s = v ++ '}' :: t ∧ BraceFree v := by
  rcases braceFree_or_exists s with hs | ⟨v, c, t, hv, hc, rfl⟩
  · obtain ⟨_, -, hnone⟩ := h s hs
    have := hnone [] (by simp)
    rw [List.append_nil] at this
    exact absurd this hr
  · obtain ⟨_, -, hnone⟩ := h v hv
    rcases hc with rfl | rfl
    · exact absurd (hnone _ (by simp)) hr
    · exact ⟨v, t, rfl, hv⟩

/-- The name of an argument can be that of a variable if it is a word. -/
theorem variableName_eq (hne : name ≠ []) (hloose : ∀ c ∈ name, isLooseNameChar c = true)
    (hs : White s (name ++ s₁)) (hs₁ : White s₁ (',' :: s₂)) :
    variableName s =
      if ∀ c ∈ name, isWord c = true then some (String.ofList name, s₂) else none := by
  have hstart : blanks s = some ((), name ++ s₁) := by
    obtain ⟨a, name', rfl⟩ := List.exists_cons_of_ne_nil hne
    exact hs.blanks_cons (classes_of_isLooseNameChar (hloose a List.mem_cons_self)).1
  have hstop : ∀ c ∈ s₁.head?, isWord c = false := hs₁.endsWord (by decide)
  have htake := takeWhile_append_stop' (v := name) hstop
  have hdrop := dropWhile_append_stop' (v := name) hstop
  have hcommas : blanks s₁ = some ((), ',' :: s₂) := hs₁.blanks_cons (by decide)
  rw [variableName, bind_of_some hstart]
  cases hname : name.dropWhile isWord with
  | nil =>
    have hword : ∀ c ∈ name, isWord c = true := List.dropWhile_eq_nil_iff.1 hname
    have hself : name.takeWhile isWord = name := List.takeWhile_eq_self_iff.2 hword
    have hrun : run isWord (name ++ s₁) = some (name, s₁) := by
      rw [run, htake, hdrop, hname, hself, if_neg (by simpa using hne)]
      rfl
    have hcomma : comma (',' :: s₂) = some ((), s₂) := rfl
    rw [if_pos hword, bind_of_some hrun, bind_of_some hcommas, bind_of_some hcomma]
    rfl
  | cons d v =>
    -- behind the word stands a character of the name, and no comma
    have hd : isLooseNameChar d = true :=
      hloose d ((List.dropWhile_suffix _).subset (by rw [hname]; exact List.mem_cons_self))
    obtain ⟨hblank, hcomma⟩ := classes_of_isLooseNameChar hd
    have hnot : ¬ ∀ c ∈ name, isWord c = true := fun h ↦ by
      rw [List.dropWhile_eq_nil_iff.2 h] at hname
      cases hname
    rw [if_neg hnot]
    by_cases hempty : (name.takeWhile isWord).isEmpty = true
    · refine bind_of_none ?_
      rw [run, htake, if_pos hempty]
    · have hrun : run isWord (name ++ s₁) = some (name.takeWhile isWord, d :: v ++ s₁) := by
        rw [run, htake, hdrop, hname, if_neg hempty]
      have hkeep : blanks (d :: v ++ s₁) = some ((), d :: v ++ s₁) :=
        blanks_of_head fun c hc ↦ by rwa [← Option.mem_some.1 hc]
      have hrefuse : comma (d :: v ++ s₁) = none :=
        exactly_of_head fun c hc ↦ by rwa [← Option.mem_some.1 hc]
      rw [bind_of_some hrun, bind_of_some hkeep, bind_of_none hrefuse]

/-- What follows the name of the formatter in its argument. -/
def customEnd (n : String) : Reader Extension := do
  blanks
  let style ← optionally do
    comma
    span isStyleChar
  close
  let style := (style.map trim).filter fun t ↦ !t.isEmpty
  return .custom n (style.map String.ofList)

theorem customRest_eq (n : String) :
    customRest n = exactly n.toList >>= fun _ ↦ customEnd n :=
  rfl

theorem closes_customEnd (n : String) : (customEnd n).Closes :=
  closes_bind within_blanks fun _ ↦
    closes_bind (within_optionally (within_bind within_comma fun _ ↦
      within_span (by decide) (by decide))) fun _ ↦ closes_close _

theorem White.of_cons {c d : Char} (h : White (d :: s) (c :: t)) (hne : d ≠ c) :
    White s (c :: t) := by
  obtain ⟨b, hb, he⟩ := h
  cases b with
  | nil => exact absurd (List.cons.inj he).1 hne
  | cons e b => exact ⟨b, (List.forall_mem_cons.1 hb).2, (List.cons.inj he).2⟩

/-- What stands before the closing brace is white space, the comma, and the style. -/
theorem White.exists_of_close {v : List Char} (h : White (v ++ '}' :: t) (',' :: u))
    (hv : BraceFree v) : ∃ w, u = w ++ '}' :: t ∧ BraceFree w := by
  obtain ⟨b, hb, he⟩ := h
  rcases List.append_eq_append_iff.1 he with ⟨w, rfl, hw⟩ | ⟨w, rfl, hw⟩
  · cases w with
    | nil => exact absurd (List.cons.inj hw).1 (by decide)
    | cons d w =>
      obtain ⟨rfl, -⟩ := List.cons.inj hw
      exact absurd (hb '}' (by simp)) (by decide)
  · cases w with
    | nil => exact absurd (List.cons.inj hw).1 (by decide)
    | cons d w =>
      obtain ⟨rfl, rfl⟩ := List.cons.inj hw
      exact ⟨w, rfl, fun c hc ↦ hv c (by simp [hc])⟩

/-- An argument of a formatter ends with the next brace, if that one closes. -/
theorem customEnd_ne_none {c : Char} {v : List Char} (hc : c = ',' ∨ c = '}')
    (h : White (v ++ '}' :: t) (c :: u)) (hv : BraceFree v) :
    customEnd n (v ++ '}' :: t) ≠ none := by
  rcases hc with rfl | rfl
  · obtain ⟨w, rfl, hw⟩ := h.exists_of_close hv
    have hspan := span_append (p := isStyleChar) (s := w) (t := '}' :: t)
      (fun d hd ↦ by simp [isStyleChar, hw d hd]) (by simp [isStyleChar])
    have hcomma : comma (',' :: (w ++ '}' :: t)) = some ((), w ++ '}' :: t) := rfl
    have hstyle : optionally (comma >>= fun _ ↦ span isStyleChar) (',' :: (w ++ '}' :: t)) =
        some (some w, '}' :: t) := by
      rw [optionally, bind_of_some hcomma, hspan]
    rw [customEnd, bind_of_some (h.blanks_cons (by decide)), bind_of_some hstyle]
    exact Option.some_ne_none _
  · rw [customEnd, bind_of_some (h.blanks_cons (by decide))]
    exact Option.some_ne_none _

/-- Where a text begins with a word, and with a word and the end of a line, the words are the same,
and the end of the line follows. -/
theorem eq_of_append_line {w : String} (hw : IsWordName w) (hword : IsWordName word)
    (hends : EndsWord rest) (h : word.toList ++ rest = (w ++ "\n").toList ++ u) :
    word = w ∧ rest = '\n' :: u := by
  have hline : EndsWord ('\n' :: u) := fun d hd ↦ by
    rw [← Option.mem_some.1 hd]
    decide
  have hsplit : word.toList ++ rest = w.toList ++ '\n' :: u := by simpa using h
  constructor
  · refine String.toList_inj.1 ?_
    rw [← takeWhile_append_stop hword.2 hends, hsplit, takeWhile_append_stop hw.2 hline]
  · rw [← dropWhile_append_stop hword.2 hends, hsplit, dropWhile_append_stop hw.2 hline]

/-- A word is taken by the formatter whose name is the word and the end of a line. -/
theorem customRest_ne_none_iff (hn : Roster.Nameable n) (hword : word ∈ Roster.reservedNames)
    (hrest : ∃ c t, (c = ',' ∨ c = '}') ∧ White rest (c :: t)) :
    customRest n (word.toList ++ rest) ≠ none ↔
      n = word ++ "\n" ∧ ∃ v t, rest = '\n' :: (v ++ '}' :: t) ∧ BraceFree v := by
  have hwordName := Roster.isWordName_of_reserved hword
  obtain ⟨c, t, hc, hwhite⟩ := hrest
  have hends : EndsWord rest := hwhite.endsWord (by rcases hc with rfl | rfl <;> decide)
  rcases hn with ⟨hn, hfree⟩ | ⟨w, hw, rfl⟩
  · have hrefused : customRest n (word.toList ++ rest) = none :=
      refuses_after_word (refusesWords_customEnd n) hn.2 hwordName (fun he ↦ hfree (he ▸ hword))
        hends
    refine iff_of_false (fun h ↦ h hrefused) fun ⟨he, _⟩ ↦ ?_
    rw [he] at hn
    exact Roster.not_isWordName_line word hn
  · rw [customRest_eq]
    constructor
    · intro h
      obtain ⟨x, hx⟩ := Option.ne_none_iff_exists'.1 h
      obtain ⟨_, u, hu, hend⟩ := exists_of_bind hx
      obtain ⟨rfl, hline⟩ := eq_of_append_line hw hwordName hends (append_of_exactly hu)
      obtain ⟨v, t, rfl, hv⟩ := exists_close_of_read (closes_customEnd _)
        (Option.ne_none_iff_exists'.2 ⟨x, hend⟩)
      exact ⟨rfl, v, t, hline, hv⟩
    · rintro ⟨he, v, t', rfl, hv⟩
      have hbehind : White (v ++ '}' :: t') (c :: t) :=
        hwhite.of_cons (by rcases hc with rfl | rfl <;> decide)
      have hsplit : word.toList ++ '\n' :: (v ++ '}' :: t') =
          (w ++ "\n").toList ++ (v ++ '}' :: t') := by
        rw [he]
        simp
      rw [hsplit, bind_of_some (exactly_append _ _)]
      exact customEnd_ne_none hc hbehind hv

/-- Of several formatters, a word is taken just by the one named by the word and the end of a
line. -/
theorem firstOf_customRest_ne_none_iff {names : List String}
    (hnames : ∀ n ∈ names, Roster.Nameable n) (hword : word ∈ Roster.reservedNames)
    (hrest : ∃ c t, (c = ',' ∨ c = '}') ∧ White rest (c :: t)) :
    firstOf ((longestFirst names).map customRest) (word.toList ++ rest) ≠ none ↔
      word ++ "\n" ∈ names ∧ ∃ v t, rest = '\n' :: (v ++ '}' :: t) ∧ BraceFree v := by
  have hsome : firstOf ((longestFirst names).map customRest) (word.toList ++ rest) ≠ none ↔
      ∃ n ∈ names, customRest n (word.toList ++ rest) ≠ none := by
    rw [firstOf, List.findSome?_map, Ne, List.findSome?_eq_none_iff]
    simp [mem_longestFirst]
  rw [hsome]
  constructor
  · rintro ⟨n, hn, htaken⟩
    obtain ⟨rfl, hline⟩ := (customRest_ne_none_iff (hnames n hn) hword hrest).1 htaken
    exact ⟨hn, hline⟩
  · rintro ⟨hn, hline⟩
    exact ⟨_, hn, (customRest_ne_none_iff (hnames _ hn) hword hrest).2 ⟨rfl, hline⟩⟩

/-- A formatter takes an argument under a reserved word only if its name is the word and the end of
a line, and these stand in the argument. -/
theorem read_customArgument_iff {names : List String} (hnames : ∀ n ∈ names, Roster.Nameable n)
    (hword : word ∈ Roster.reservedNames) (h : Under name word rest s) :
    (customArgument names).read s ≠ none ↔ (∀ c ∈ name, isWord c = true) ∧ word ++ "\n" ∈ names ∧
      ∃ v t, rest = '\n' :: (v ++ '}' :: t) ∧ BraceFree v := by
  obtain ⟨⟨hne, hloose⟩, hrest, s₁, s₂, hs, hs₁, hs₂⟩ := h
  have hread : (customArgument names).read = variableName >>= fun name ↦
      afterBlanks (firstOf ((longestFirst names).map customRest)) >>= fun extension ↦
        pure ⟨name, extension⟩ := rfl
  have hname := variableName_eq hne hloose hs hs₁
  by_cases hall : ∀ c ∈ name, isWord c = true
  · rw [if_pos hall] at hname
    have hafter : afterBlanks (firstOf ((longestFirst names).map customRest)) s₂ =
        firstOf ((longestFirst names).map customRest) (word.toList ++ rest) := by
      obtain ⟨b, hb, rfl⟩ := hs₂
      exact afterBlanks_append (fun _ s hc ↦ firstOf_customRest_blank
        (fun n hn ↦ (hnames n (mem_longestFirst.1 hn)).exists_cons) hc s) hb
        ((Roster.isWordName_of_reserved hword).head_blank rest)
    rw [and_iff_right hall, ← firstOf_customRest_ne_none_iff hnames hword hrest, hread,
      bind_of_some hname]
    cases hx : firstOf ((longestFirst names).map customRest) (word.toList ++ rest) with
    | none =>
      rw [bind_of_none (hafter.trans hx)]
      exact iff_of_false (fun h ↦ h rfl) fun h ↦ h rfl
    | some x =>
      rw [bind_of_some (hafter.trans hx)]
      exact iff_of_true (Option.some_ne_none _) (Option.some_ne_none _)
  · rw [if_neg hall] at hname
    refine iff_of_false (fun hsome ↦ hsome ?_) fun hword ↦ hall hword.1
    rw [hread, bind_of_none hname]

/-- An argument under a word is not written as a placeholder. -/
theorem Under.start_ne_token (h : Under name word rest s) (kind : PlaceholderKind) (k : Nat) :
    start s ≠ (kind.token k).toList ++ ['}'] := by
  intro he
  obtain ⟨t, rfl⟩ := exists_of_start_append he
  obtain ⟨⟨hne, hloose⟩, -, s₁, s₂, hs, hs₁, -⟩ := h
  have htoken : IsWordName (kind.token k) := Phrase.isWordName_token kind k
  have hhead : ∀ c ∈ (name ++ s₁).head?, isBlank c = false := by
    obtain ⟨a, name', rfl⟩ := List.exists_cons_of_ne_nil hne
    intro c hc
    rw [← Option.mem_some.1 hc]
    exact (classes_of_isLooseNameChar (hloose a List.mem_cons_self)).1
  have hsame := hs.unique (White.refl _) hhead (htoken.head_blank _)
  have hstop : ∀ c ∈ ('}' :: t).head?, isLooseNameChar c = false := by simp [isLooseNameChar]
  have hclose : s₁ = '}' :: t := by
    rw [← dropWhile_append_stop hloose hs₁.not_isLooseNameChar, hsame,
      dropWhile_append_stop (fun c hc ↦ isLooseNameChar_of_isWord (htoken.2 c hc)) hstop]
  have := hs₁.head '}' (by rw [hclose]; rfl)
  exact absurd this (by decide)

/-- The first pass that takes what follows a brace is the one for formatters just if they take
it. -/
theorem exists_taker?_custom_iff (names : List String) (s : List Char) :
    (∃ p ∈ taker? (passes names) s, p.1 = .custom) ↔
      names ≠ [] ∧ (customArgument names).read s ≠ none := by
  let others : List Pass := [(.currency, currencyArgument), (.compact, compactArgument),
    (.relativeTime, relativeTimeArgument), (.list, listArgument)]
  have hothers : ∀ p ∈ taker? others s, p.1 ≠ .custom := fun p hp ↦
    (by simp [others] : ∀ p ∈ others, p.1 ≠ .custom) p (List.mem_of_find?_eq_some hp)
  cases names with
  | nil => exact iff_of_false (fun ⟨p, hp, hcustom⟩ ↦ hothers p hp hcustom) fun h ↦ h.1 rfl
  | cons n names =>
    have htaker : taker? (passes (n :: names)) s =
        if ((customArgument (n :: names)).read s).isSome then
          some (.custom, customArgument (n :: names))
        else taker? others s := by
      have hpasses : passes (n :: names) = (.custom, customArgument (n :: names)) :: others := rfl
      rw [hpasses, taker?, List.find?_cons]
      cases (customArgument (n :: names)).read s <;> rfl
    rw [htaker]
    cases hr : (customArgument (n :: names)).read s with
    | none => exact iff_of_false (fun ⟨p, hp, hcustom⟩ ↦ hothers p hp hcustom) fun h ↦ h.2 rfl
    | some x => exact iff_of_true ⟨_, rfl, rfl⟩ ⟨List.cons_ne_nil _ _, Option.some_ne_none x⟩

theorem takes_iff {names : List String} (hnames : ∀ n ∈ names, BraceFree n.toList)
    (h : Under name word rest s) (x : List Char) :
    Takes names x s ↔ names ≠ [] ∧ (customArgument names).read s ≠ none := by
  obtain ⟨z, hz, hnone, hsome⟩ := exists_foldl_brace (closes_passes hnames) (named_passes names) x s
    [] []
  rw [← prepare_eq_foldl, ← prepare_eq_foldl] at hz
  rw [← exists_taker?_custom_iff]
  have htakes : Takes names x s ↔
      ∃ n, start z = (PlaceholderKind.custom.token n).toList ++ ['}'] := by
    constructor
    · rintro ⟨n, z', hz'⟩
      obtain ⟨-, rfl⟩ := List.cons.inj (List.append_cancel_left (hz.symm.trans hz'))
      exact ⟨n, start_token _ n z'⟩
    · rintro ⟨n, hn⟩
      obtain ⟨z', rfl⟩ := exists_of_start_append hn
      exact ⟨n, z', hz⟩
  rw [htakes]
  constructor
  · rintro ⟨n, hn⟩
    cases htaker : taker? (passes names) s with
    | none => exact absurd ((hnone htaker).symm.trans hn) (h.start_ne_token _ n)
    | some p =>
      obtain ⟨m, hm⟩ := hsome p htaker
      have htoken := List.append_inj_left' (hm.symm.trans hn) rfl
      exact ⟨p, rfl, (PlaceholderKind.token_injective (String.toList_inj.1 htoken)).1⟩
  · rintro ⟨p, hp, hcustom⟩
    obtain ⟨n, hn⟩ := hsome p hp
    exact ⟨n, by rw [hn, hcustom]⟩

end Read

end Template

/-! ### Reserved words -/

namespace Roster

/-- Whatever is asked of a roster, a formatter gets every name but the reserved words that is a
word, perhaps with the end of a line behind it, no other text is a name, and a refused request
changes nothing. So in any template an argument under a reserved word is put aside for a formatter
only where its name is a word, the end of a line follows the reserved word, both together are on the
roster, and the next brace closes. -/
theorem takes_reserved_iff (requests : List Request) :
    let r := ({} : Roster).serve requests
    (∀ name ∈ r.names, Nameable name) ∧
    (∀ name formatter?, (r.perform (.register name formatter?)).2.isRefusal = false ↔
      Nameable name ∧ formatter?.isSome) ∧
    (∀ request, (r.perform request).2.isRefusal = true → (r.perform request).1 = r) ∧
    ∀ x s name word rest, word ∈ reservedNames → Under name word rest s →
      (Takes r.names x s ↔ (∀ c ∈ name, isWord c = true) ∧ word ++ "\n" ∈ r.names ∧
        ∃ v t, rest = '\n' :: (v ++ '}' :: t) ∧ BraceFree v) := by
  intro r
  refine ⟨fun name ↦ nameable_of_mem_names, r.isRefusal_register_iff,
    fun request ↦ perform_of_isRefusal, fun x s name word rest hword h ↦ ?_⟩
  rw [takes_iff r.braceFree_names h,
    read_customArgument_iff (fun _ ↦ nameable_of_mem_names) hword h]
  exact ⟨And.right, fun htaken ↦ ⟨List.ne_nil_of_mem htaken.2.1, htaken⟩⟩

/-- A formatter that is refused a reserved word, and then gets it with the end of a line behind
it. -/
def numberLine : List Request :=
  let calm : Formatter := ⟨"calm", fun v _ _ ↦ .ok v.plainText⟩
  [.register "number" (some calm), .register "number\n" (some calm), .register "date\n" none]

/-- The formatter takes a number before the end of a line, and leaves one before a blank. -/
theorem takes_reserved_iff_numberLine :
    let r := ({} : Roster).serve numberLine
    r.names = ["number\n"] ∧ Under ['n'] "number" ['\n', '}'] "n, number\n\x7d".toList ∧
      Takes r.names "a ".toList "n, number\n\x7d".toList ∧
      Under ['n'] "number" [' ', '\n', '}'] "n, number \n\x7d".toList ∧
      ¬ Takes r.names "a ".toList "n, number \n\x7d".toList ∧
      (r.perform (.register "date\n" none)).1 = r := by
  intro r
  have hline : Under ['n'] "number" ['\n', '}'] "n, number\n\x7d".toList :=
    ⟨by decide, ⟨'}', [], .inr rfl, ['\n'], by decide, rfl⟩, _, _, .refl _, .refl _, [' '],
      by decide, rfl⟩
  have hblank : Under ['n'] "number" [' ', '\n', '}'] "n, number \n\x7d".toList :=
    ⟨by decide, ⟨'}', [], .inr rfl, [' ', '\n'], by decide, rfl⟩, _, _, .refl _, .refl _, [' '],
      by decide, rfl⟩
  obtain ⟨-, -, hrefused, htakes⟩ := takes_reserved_iff numberLine
  refine ⟨rfl, hline, ?_, hblank, ?_, hrefused _ rfl⟩
  · exact (htakes _ _ _ _ _ (by decide) hline).2 ⟨by decide, by decide, [], [], rfl, .nil⟩
  · intro h
    obtain ⟨-, -, v, t, hrest, -⟩ := (htakes _ _ _ _ _ (by decide) hblank).1 h
    exact absurd (List.cons.inj hrest).1 (by decide)

end Roster

end Phrasebook
