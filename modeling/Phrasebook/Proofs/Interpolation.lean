import Phrasebook.Proofs.DirectPhrases

/-!
Rendering the template of a tree.

The template of a well-formed tree is filled in directly, or its plurals in short are written out,
its calls are put aside and what is left is read as a message, in which the calls are found again.
Either way the tree is shown as its outline says. Only an offset with more digits than the reader
takes stands in the way (`tryRender_print`).
-/

set_option autoImplicit false

namespace Phrasebook

open Grammar Message Phrase Template Text

/-- Formatters with words for names can be called. -/
theorem Roster.areFormatters (roster : Roster)
    (h : ∀ name ∈ roster.names, ∀ c ∈ name.toList, isWord c = true) :
    AreFormatters roster.names := by
  intro name hname
  obtain ⟨hreserved, hvalid⟩ := roster.named name hname
  refine ⟨⟨?_, h name hname⟩, hreserved⟩
  intro hnil
  rw [isName, hnil] at hvalid
  cases hvalid

namespace Phrase

variable {names : List String} {ps : List Phrase}

/-- What is prepared for the template of a tree is the template of a message for the tree. -/
theorem exists_lowered_prepare (hnames : AreFormatters names)
    (h : RowWellFormed names false ps) :
    ∃ m, Lowered (prepare names (spellOut (rowChars ps))).asides false (spellRow ps)
      (prepare names (spellOut (rowChars ps))).text m := by
  have hspelled := rowWellFormed_spellRow h
  have hsettled := settled_rowItems hnames hspelled .nil
  rw [List.append_nil] at hsettled
  have hfollows := follows_prepare hnames.braceFree hsettled
  rw [textOf_rowItems, ← spellOut_rowChars hnames h] at hfollows
  obtain ⟨is, htext, hlabelled⟩ := hfollows.labelled
  rw [← htext]
  exact exists_lowered hnames (isIndex_prepare hnames.braceFree _) hspelled
    (rowSpelled_spellRow ps) hlabelled

/-- What is filled in directly has no offsets. -/
theorem rowOffsets_of_isDirect (h : ∀ p ∈ ps, isDirect p = true) : rowOffsets ps = [] := by
  induction ps with
  | nil => rfl
  | cons p ps ih =>
    obtain ⟨hp, hps⟩ := List.forall_mem_cons.1 h
    rw [rowOffsets, ih hps, List.append_nil]
    cases p with
    | text | argument => rfl
    | _ => cases hp

end Phrase

namespace Renderer

/-- The outline of the template of a tree: the one of the tree, as far as it can be told when it is
filled. Before that the reader may give up at an offset. -/
theorem outline_print (r : Renderer) (clock : Calendar.Moment) (values : Values) (locale : String)
    {ps : List Phrase} (hnames : AreFormatters r.roster.names)
    (h : RowWellFormed r.roster.names false ps) :
    match firstLong (rowOffsets ps) with
    | some n => (r.outline clock (Phrase.print ps) values locale).2.result =
        .error (.template (.longOffset ⟨n⟩))
    | none => ∃ o, (r.outline clock (Phrase.print ps) values locale).2.result = .ok o ∧
        Outline.Same o (rowOutline (r.scene clock values locale) none ps) := by
  rw [result_outline, Phrase.print, String.toList_ofList, prepared, String.toList_ofList]
  cases hneeds : needsMessage r.roster.names (rowChars ps) with
  | false =>
    have hdirect : ∀ p ∈ ps, isDirect p = true :=
      fun p hp ↦ isDirect_of_needsMessage hnames h hneeds hp
    rw [rowOffsets_of_isDirect hdirect]
    exact ⟨_, rfl, same_simple _ hnames h hdirect⟩
  | true =>
    obtain ⟨m, hm⟩ := exists_lowered_prepare hnames h
    have hlengths : offsetLengths m = rowOffsets ps := hm.lengths.trans (rowOffsets_spellRow ps)
    have hsame := hm.same (r.scene clock values locale) none
    rw [rowOutline_spellRow] at hsame
    rw [← hlengths, hm.text]
    cases hfirst : firstLong (offsetLengths m) with
    | none =>
      rw [parse_of_firstLong_eq_none hm.wellFormed hfirst plainLayout]
      exact ⟨_, rfl, hsame⟩
    | some n =>
      rw [parse_of_firstLong_eq_some hm.wellFormed hfirst plainLayout]
      rfl

/-- A well-formed tree, written as a template and rendered, is shown as its outline says, for all
values and in every locale, whatever the formatters and the handler of missing values do; but if it
has an offset with too many digits, rendering fails at the first one. -/
theorem tryRender_print (r : Renderer) (clock : Calendar.Moment) (values : Values)
    (locale : Option String) {ps : List Phrase}
    (hnames : ∀ name ∈ r.roster.names, ∀ c ∈ name.toList, isWord c = true)
    (h : RowWellFormed r.roster.names false ps) :
    (r.tryRender clock (Phrase.print ps) values locale).2.result =
      match firstLong (rowOffsets ps) with
      | some n => .error (.template (.longOffset ⟨n⟩))
      | none => ((rowOutline (r.scene clock values (r.settings.localeOr locale)) none ps).fill
          (r.missing (r.settings.localeOr locale))).result := by
  have hprint := r.outline_print clock values (r.settings.localeOr locale)
    (r.roster.areFormatters hnames) h
  rw [result_tryRender]
  cases hfirst : firstLong (rowOffsets ps) with
  | some n =>
    rw [hfirst] at hprint
    rw [hprint]
    rfl
  | none =>
    rw [hfirst] at hprint
    obtain ⟨o, ho, hsame⟩ := hprint
    rw [ho]
    exact congrArg Answer.result (hsame _)

/-- A renderer with one formatter of the program. -/
def loudRenderer : Renderer :=
  .ofSettings {}
    { entries := [("loud", ⟨"loud", fun v _ _ ↦ .ok (v.plainText ++ "!")⟩)], named := by decide }

/-- A letter with a call in a branch, and a plural in short for which there is no number. -/
def letter : List Phrase :=
  [.text "Dear ", .select "who" [("f", [.text "Ms ", .call "name" (.custom "loud" none)]),
    ("other", [.text "friend"])], .text ": ", .shorthand ⟨"n", some "none", "day", "days"⟩]

def letterValues : Values :=
  .ofList [("who", .text "f"), ("name", .text "Ada")]

theorem rowWellFormed_letter : RowWellFormed loudRenderer.roster.names false letter := by
  have hplain {s : String} (h : IsPlainText false s.toList) :
      WellFormed loudRenderer.roster.names false (.text s) := h
  have hnone : BranchesWellFormed loudRenderer.roster.names false [] := trivial
  have hfriend : RowWellFormed loudRenderer.roster.names false [.text "friend"] :=
    ⟨hplain (by decide), trivial⟩
  have hother : BranchesWellFormed loudRenderer.roster.names false
      [("other", [.text "friend"])] :=
    ⟨selector_of_head (by decide) (by decide) (by decide), hfriend,
      fun _ ↦ isUntouched_of_notMem (by decide), hnone⟩
  have hcall : CallWellFormed loudRenderer.roster.names (.custom "loud" none) :=
    ⟨by decide, by simp⟩
  have hname : RowWellFormed loudRenderer.roster.names false
      [.text "Ms ", .call "name" (.custom "loud" none)] :=
    ⟨hplain (by decide), ⟨by decide, hcall⟩, trivial⟩
  have hbranches : BranchesWellFormed loudRenderer.roster.names false
      [("f", [.text "Ms ", .call "name" (.custom "loud" none)]), ("other", [.text "friend"])] :=
    ⟨selector_of_head (by decide) (by decide) (by decide), hname,
      fun hflat ↦ absurd hflat (by decide), hother⟩
  have hzero : IsForm "none" ∧ IsUntouched loudRenderer.roster.names (trim "none".toList) :=
    ⟨⟨by decide, by decide⟩, isUntouched_of_notMem (by decide +kernel)⟩
  have hforms : ∀ s ∈ some "none", IsForm s ∧
      IsUntouched loudRenderer.roster.names (trim s.toList) := by
    intro s hs
    rw [← Option.mem_some.1 hs]
    exact hzero
  exact ⟨hplain (by decide), ⟨by decide, by decide, by decide, hbranches⟩, hplain (by decide),
    ⟨by decide, hforms, ⟨by decide, by decide⟩, ⟨by decide, by decide⟩⟩, trivial⟩

/-- The formatter is called, and the missing number is shown by its name. -/
theorem tryRender_letter :
    RowWellFormed loudRenderer.roster.names false letter ∧
      (loudRenderer.tryRender default (Phrase.print letter) letterValues none).2.result =
        .ok "Dear Ms Ada!: \x7bn\x7d" := by
  refine ⟨rowWellFormed_letter, ?_⟩
  rw [tryRender_print loudRenderer default letterValues none (by decide +kernel)
    rowWellFormed_letter]
  decide +kernel

end Renderer

end Phrasebook
