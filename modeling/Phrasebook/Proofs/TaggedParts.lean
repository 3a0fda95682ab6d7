import Mathlib.Data.List.Chain
import Mathlib.Data.List.Infix
import Phrasebook.TaggedText

/-!
The parts of a text with tags.

A part ends at the first closing tag after its opening tag (`TaggedText.not_infix_of_splitAt?`), and
a character is text just if no part begins at it, so text between parts holds no pair of tags
(`TaggedText.isSome_component?`). `TaggedText.Divides` says what a division of a text must satisfy;
it holds of the text that remains at every step of the cut (`TaggedText.divides_cut`).
-/

set_option autoImplicit false

namespace Phrasebook.TaggedText

open Text

/-- A part as it stands in the text. -/
def Part.written : Part → String
  | .text t => t
  | .component name content => "<" ++ name ++ ">" ++ content ++ "</" ++ name ++ ">"

/-- A part is text between components. -/
def Part.IsText : Part → Prop
  | .text _ => True
  | .component .. => False

/-- A text has a component's opening tag in it and, after that, its closing tag. -/
def HasPair (names : List String) (t : List Char) : Prop :=
  ∃ name ∈ names, ∃ content, opening name ++ content ++ closing name <:+: t

/-- What the parts of a text have to satisfy: nothing is lost, no two texts stand side by side, none
of them is empty or has a pair of tags in it, and a component has one of the names and ends at the
first closing tag of its own. -/
structure Divides (names : List String) (s : List Char) (ps : List Part) : Prop where
  written : ps.flatMap (fun p ↦ p.written.toList) = s
  separate : ps.IsChain fun p q ↦ ¬ (p.IsText ∧ q.IsText)
  text : ∀ t, .text t ∈ ps → t ≠ "" ∧ ¬ HasPair names t.toList
  component : ∀ name content, .component name content ∈ ps →
    name ∈ names ∧ ¬ closing name <:+: content.toList

variable {names : List String} {s w : List Char} {c : Char} {ps : List Part}

/-! ### The ends of components -/

/-- The first `w` in a text comes at the latest where a `w` stands. -/
theorem exists_splitAt? (w a b : List Char) :
    ∃ r, splitAt? w (a ++ w ++ b) = some r ∧ r.1.length ≤ a.length := by
  induction a with
  | nil =>
    cases h : w ++ b with
    | nil =>
      obtain ⟨rfl, rfl⟩ := List.append_eq_nil_iff.1 h
      exact ⟨([], []), by simp [splitAt?, after?], Nat.le_refl 0⟩
    | cons c s =>
      have hafter : after? w (c :: s) = some b := by rw [← h, after?_append]
      exact ⟨([], b), by simp [h, splitAt?, hafter], Nat.le_refl 0⟩
  | cons c a ih =>
    obtain ⟨r, hr, hle⟩ := ih
    rw [List.cons_append, List.cons_append, splitAt?]
    cases after? w (c :: (a ++ w ++ b)) with
    | some t => exact ⟨([], t), rfl, Nat.zero_le _⟩
    | none => exact ⟨(c :: r.1, r.2), by rw [hr]; rfl, Nat.succ_le_succ hle⟩

/-- There is no `w` before the first `w`. -/
theorem not_infix_of_splitAt? {r : List Char × List Char} (hw : w ≠ [])
    (h : splitAt? w s = some r) : ¬ w <:+: r.1 := by
  rintro ⟨a, b, hab⟩
  have hs : s = a ++ w ++ (b ++ w ++ r.2) := by
    rw [splitAt?_append h, ← hab]
    simp only [List.append_assoc]
  obtain ⟨r', hr', hle⟩ := exists_splitAt? w a (b ++ w ++ r.2)
  rw [← hs, h] at hr'
  cases hr'
  have hlength := congrArg List.length hab
  have hpos := List.length_pos_iff.2 hw
  simp only [List.length_append] at hlength
  omega

theorem not_closing_infix {r : (String × List Char) × List Char}
    (h : component? names s = some r) : ¬ closing r.1.1 <:+: r.1.2 := by
  obtain ⟨name, -, hr⟩ := List.exists_of_findSome?_eq_some h
  obtain ⟨u, hu, rfl⟩ := Option.map_eq_some_iff.1 hr
  obtain ⟨t, -, ht⟩ := Option.bind_eq_some_iff.1 hu
  exact not_infix_of_splitAt? (List.cons_ne_nil _ _) ht

/-- Where a pair of tags begins, a component does. -/
theorem isSome_component? {name : String} (h : name ∈ names) (content rest : List Char) :
    (component? names (opening name ++ content ++ closing name ++ rest)).isSome := by
  obtain ⟨r, hr, -⟩ := exists_splitAt? (closing name) content rest
  have hafter : after? (opening name) (opening name ++ content ++ closing name ++ rest) =
      some (content ++ closing name ++ rest) := by
    simp only [List.append_assoc, after?_append]
  refine List.findSome?_isSome_iff.2 ⟨name, h, ?_⟩
  rw [hafter, Option.bind_some, hr]
  rfl

/-! ### The steps of the cut -/

theorem cut_of_some {r : (String × List Char) × List Char}
    (h : component? names (c :: s) = some r) :
    cut names (c :: s) = .component r.1.1 (String.ofList r.1.2) :: cut names r.2 := by
  rw [cut]
  split
  · rename_i r' hr'
    cases h.symm.trans hr'
    rfl
  · rename_i hnone
    cases h.symm.trans hnone

theorem cut_of_none (h : component? names (c :: s) = none) :
    cut names (c :: s) = addChar c (cut names s) := by
  rw [cut]
  split
  · rename_i r hr
    cases h.symm.trans hr
  · rfl

/-- A character of text is put in front of the text that the parts begin with, or it is a text of
its own before a component. -/
theorem addChar_cases (c : Char) (ps : List Part) :
    (∃ t rest, ps = .text t :: rest ∧
      addChar c ps = .text (String.ofList (c :: t.toList)) :: rest) ∨
    addChar c ps = .text (String.ofList [c]) :: ps ∧ ∀ p ∈ ps.head?, ¬ p.IsText := by
  unfold addChar
  split
  · exact .inl ⟨_, _, rfl, rfl⟩
  · rename_i hnot
    refine .inr ⟨rfl, fun p hp hText ↦ ?_⟩
    obtain ⟨rest, rfl⟩ := List.head?_eq_some_iff.1 hp
    cases p with
    | text t => exact hnot t rest rfl
    | component name content => exact hText

theorem toList_written (name : String) (content : List Char) :
    (Part.component name (String.ofList content)).written.toList =
      opening name ++ content ++ closing name := by
  simp [Part.written, opening, closing]

theorem not_hasPair_nil : ¬ HasPair names [] := by
  rintro ⟨name, -, content, hpair⟩
  simpa [opening] using List.infix_nil.1 hpair

/-- Text at the start of a text has no pair of tags if no component begins at its first character
and none is in the text after that. -/
theorem not_hasPair_cons {t rest : List Char} (h : component? names (c :: t ++ rest) = none)
    (ht : ¬ HasPair names t) : ¬ HasPair names (c :: t) := by
  rintro ⟨name, hname, content, hpair⟩
  rcases List.infix_cons_iff.1 hpair with ⟨after, hafter⟩ | hinfix
  · have hsome := isSome_component? hname content (after ++ rest)
    rw [← List.append_assoc, hafter, h] at hsome
    cases hsome
  · exact ht ⟨name, hname, content, hinfix⟩

namespace Divides

theorem nil (names : List String) : Divides names [] [] where
  written := rfl
  separate := .nil
  text _ h := absurd h List.not_mem_nil
  component _ _ h := absurd h List.not_mem_nil

/-- A component is put in front of the parts of what comes after it. -/
theorem cons_component {r : (String × List Char) × List Char} (h : component? names s = some r)
    (hps : Divides names r.2 ps) :
    Divides names s (.component r.1.1 (String.ofList r.1.2) :: ps) := by
  obtain ⟨hname, hs⟩ := component?_append h
  refine ⟨?_, ?_, fun t ht ↦ ?_, fun name content hmem ↦ ?_⟩
  · rw [List.flatMap_cons, hps.written, toList_written, hs]
  · exact List.isChain_cons.2 ⟨fun q _ hText ↦ hText.1, hps.separate⟩
  · rcases List.mem_cons.1 ht with heq | ht
    · cases heq
    · exact hps.text t ht
  · rcases List.mem_cons.1 hmem with heq | hmem
    · cases heq
      exact ⟨hname, by simpa using not_closing_infix h⟩
    · exact hps.component name content hmem

/-- Text is put in front of the parts of what comes after it, which begin with a component. -/
theorem cons_text {t : List Char} (hne : t ≠ []) (ht : ¬ HasPair names t)
    (hhead : ∀ p ∈ ps.head?, ¬ p.IsText) (hps : Divides names s ps) :
    Divides names (t ++ s) (.text (String.ofList t) :: ps) := by
  refine ⟨?_, ?_, fun u hu ↦ ?_, fun name content hmem ↦ ?_⟩
  · rw [List.flatMap_cons, hps.written, Part.written, String.toList_ofList]
  · exact List.isChain_cons.2 ⟨fun q hq hText ↦ hhead q hq hText.2, hps.separate⟩
  · rcases List.mem_cons.1 hu with heq | hu
    · cases heq
      exact ⟨by simpa [← String.toList_inj] using hne, by simpa using ht⟩
    · exact hps.text u hu
  · rcases List.mem_cons.1 hmem with heq | hmem
    · cases heq
    · exact hps.component name content hmem

/-- What follows the text at the start is divided by the other parts. -/
theorem of_cons_text {t : String} (h : Divides names s (.text t :: ps)) :
    ∃ s', s = t.toList ++ s' ∧ Divides names s' ps ∧ ∀ p ∈ ps.head?, ¬ p.IsText := by
  obtain ⟨hhead, hchain⟩ := List.isChain_cons.1 h.separate
  refine ⟨_, h.written.symm, ⟨rfl, hchain, fun u hu ↦ ?_, fun name content hmem ↦ ?_⟩,
    fun p hp hText ↦ hhead p hp ⟨trivial, hText⟩⟩
  · exact h.text u (List.mem_cons_of_mem _ hu)
  · exact h.component name content (List.mem_cons_of_mem _ hmem)

/-- A character at which no component begins becomes text. -/
theorem cons_char (h : component? names (c :: s) = none) (hps : Divides names s ps) :
    Divides names (c :: s) (addChar c ps) := by
  rcases addChar_cases c ps with ⟨t, rest, rfl, hadd⟩ | ⟨hadd, hhead⟩
  · obtain ⟨s', rfl, hrest, hhead⟩ := hps.of_cons_text
    have ht := (hps.text t List.mem_cons_self).2
    rw [hadd]
    exact hrest.cons_text (List.cons_ne_nil _ _) (not_hasPair_cons h ht) hhead
  · rw [hadd]
    exact hps.cons_text (List.cons_ne_nil _ _) (not_hasPair_cons h not_hasPair_nil) hhead

end Divides

/-- A text is cut into parts that divide it. -/
theorem divides_cut (names : List String) (s : List Char) : Divides names s (cut names s) := by
  induction hlength : s.length using Nat.strong_induction_on generalizing s with
  | _ n ih =>
    subst hlength
    cases s with
    | nil => rw [cut]; exact .nil names
    | cons c s =>
      cases h : component? names (c :: s) with
      | some r =>
        rw [cut_of_some h]
        exact (ih _ (length_lt_of_component? h) r.2 rfl).cons_component h
      | none =>
        rw [cut_of_none h]
        exact (ih _ (Nat.lt_succ_self _) s rfl).cons_char h

/-- The parts of a text, each written as it stands, are the text. Text is never empty and never next
to text, and no text has a pair of tags in it, whatever is between the two. A component has one of
the names, and no closing tag of its own in it. -/
theorem parts_divide (s : String) {names : List String} (hnames : names ≠ []) :
    String.join ((parts s names).map Part.written) = s ∧
      (parts s names).IsChain (fun p q ↦ ¬ (p.IsText ∧ q.IsText)) ∧
      (∀ t, .text t ∈ parts s names → t ≠ "" ∧ ∀ name ∈ names, ∀ before content after,
        t ≠ before ++ ("<" ++ name ++ ">" ++ content ++ "</" ++ name ++ ">") ++ after) ∧
      ∀ name content, .component name content ∈ parts s names →
        name ∈ names ∧ ∀ before after, content ≠ before ++ ("</" ++ name ++ ">") ++ after := by
  have hcut : parts s names = cut names s.toList := by
    rw [parts, if_neg (by simpa using hnames)]
  obtain ⟨hwritten, hseparate, htext, hcomponent⟩ := divides_cut names s.toList
  rw [hcut]
  refine ⟨?_, hseparate, fun t ht ↦ ?_, fun name content hmem ↦ ?_⟩
  · rw [← String.toList_inj, String.toList_join, List.flatMap_map, hwritten]
  · obtain ⟨hne, hpair⟩ := htext t ht
    refine ⟨hne, fun name hname before content after heq ↦ hpair ⟨name, hname, content.toList, ?_⟩⟩
    exact ⟨before.toList, after.toList, by simp [heq, opening, closing]⟩
  · obtain ⟨hname, hinfix⟩ := hcomponent name content hmem
    refine ⟨hname, fun before after heq ↦ hinfix ?_⟩
    exact ⟨before.toList, after.toList, by simp [heq, closing]⟩

/-- Of two names that begin alike the right one is taken, a tag in a component is not looked at, and
a tag that is never closed is text. -/
theorem parts_divide_unclosed :
    let s := "<ab><a>x</a></ab></a> <a>y"
    parts s ["a", "ab"] = [.component "ab" "<a>x</a>", .text "</a> <a>y"] ∧
      String.join ((parts s ["a", "ab"]).map Part.written) = s := by
  intro s
  obtain ⟨hwritten, -⟩ := parts_divide s (List.cons_ne_nil "a" ["ab"])
  exact ⟨by decide +kernel, hwritten⟩

end Phrasebook.TaggedText
