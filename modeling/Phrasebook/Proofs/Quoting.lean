import Phrasebook.Proofs.ClearTemplates
import Phrasebook.Proofs.DirectTemplates
import Phrasebook.Proofs.SparedTexts

/-!
Quoted texts in front of a template.

Between apostrophes a text that begins with a brace is literal to the parser
(`Grammar.piece_quoted`). Preparing a template knows nothing of apostrophes, so the quoted text is
shown as it was written only if preparing spares it, and then the template after it is rendered as
it would be alone (`Renderer.behind_of_spared`). Otherwise the argument in it is rewritten, and what
is shown does not begin with the quoted text (`Renderer.ne_of_not_spared`).
`Renderer.tryRender_quoted_iff` puts the two together.
-/

set_option autoImplicit false

namespace Phrasebook

open Text Template

open Phrase (IsWordName)

/-! ### Quoted texts in the grammar -/

namespace Grammar

open Message

theorem run_append {s b : List Char} (hs : '\'' ∉ s) (hb : b.head? ≠ some '\'') :
    Run (s ++ '\'' :: b) s b := by
  induction s with
  | nil => exact .closed hb
  | cons c s ih =>
    rw [List.mem_cons, not_or] at hs
    exact .char (Ne.symm hs.1) (ih hs.2)

/-- A text that begins with a brace is literal between apostrophes. -/
theorem piece_quoted {s b : List Char} (hs : '\'' ∉ s) (hbrace : ∃ c ∈ s.head?, c = '{' ∨ c = '}')
    (hb : b.head? ≠ some '\'') : Piece false ('\'' :: (s ++ '\'' :: b)) s b := by
  obtain ⟨c, hc, hbrace⟩ := hbrace
  obtain ⟨t, rfl⟩ := List.head?_eq_some_iff.1 (Option.mem_def.1 hc)
  exact .quoted (hbrace.imp_right .inl) (run_append hs hb)

/-- What is read first from a template that begins with an apostrophe and a brace is literal. -/
theorem exists_run_of_elements {fits : Nat → Prop} {c : Char} {s : List Char} {m : Message}
    (hc : c = '{' ∨ c = '}') (h : Elements fits false ('\'' :: c :: s) m []) :
    ∃ w t m', Run (c :: s) w t ∧ m = addText w m' := by
  cases h with
  | @text _ _ w t _ m' hp hm =>
    cases hp with
    | char hne => exact absurd rfl hne
    | doubled => exact absurd hc (by decide)
    | quoted _ hrun => exact ⟨w, t, m', hrun, rfl⟩
    | lone hs => exact absurd (hc.imp_right .inl) (hs c rfl).2

end Grammar

/-! ### Reading behind a quoted text -/

/-- The same fault, but that a template may be no message at another place. -/
inductive Fault.Alike : Fault → Fault → Prop
  | refl (f : Fault) : Alike f f
  | notMessage {e e' : SyntaxError} : e.reason = e'.reason →
      Alike (.template (.notMessage e)) (.template (.notMessage e'))

/-- The second result is the text `s` and then the first one, or both are the same fault. -/
def Behind (s : String) : Except Fault String → Except Fault String → Prop
  | .ok t, result => result = .ok (s ++ t)
  | .error f, result => ∃ f', result = .error f' ∧ f.Alike f'

namespace Message

open Grammar

theorem parse_of_view_ok {template : String} {x : Message × List Char}
    (h : view (parseMessage false false template.toList) = .ok x) : parse template = .ok x.1 := by
  cases hp : parseMessage false false template.toList with
  | ok y =>
    rw [hp] at h
    obtain rfl := Except.ok.inj h
    exact parse_of_ok hp
  | error f =>
    rw [hp] at h
    cases h

theorem parse_of_view_error {template : String} {x : Cause × Nat}
    (h : view (parseMessage false false template.toList) = .error x) :
    parse template = .error (Failure.inTemplate ⟨x.1, x.2, []⟩ template) := by
  cases hp : parseMessage false false template.toList with
  | ok y =>
    rw [hp] at h
    cases h
  | error f =>
    rw [hp] at h
    obtain rfl := Except.error.inj h
    exact (parse_of_error hp).trans rfl

theorem alike_inTemplate (cause : Cause) (remaining : Nat) (template template' : String) :
    (Fault.template (Failure.inTemplate ⟨cause, remaining, []⟩ template)).Alike
      (.template (Failure.inTemplate ⟨cause, remaining, []⟩ template')) := by
  cases cause with
  | notMessage reason => exact .notMessage rfl
  | longOffset l => exact .refl _

/-- Reading with literal text in front: the text is put in front of the message, and a fault stays
the same. -/
theorem parse_of_piece {s t w : List Char} (h : Piece false s w t) :
    (∃ m, parse (String.ofList t) = .ok m ∧ parse (String.ofList s) = .ok (addText w m)) ∨
      ∃ f f', parse (String.ofList t) = .error f ∧ parse (String.ofList s) = .error f' ∧
        (Fault.template f).Alike (.template f') := by
  have hview := view_parseMessage_text h false
  rw [← String.toList_ofList (l := s), ← String.toList_ofList (l := t)] at hview
  cases ht : view (parseMessage false false (String.ofList t).toList) with
  | ok x =>
    rw [ht] at hview
    exact .inl ⟨x.1, parse_of_view_ok ht, parse_of_view_ok hview⟩
  | error x =>
    rw [ht] at hview
    exact .inr ⟨_, _, parse_of_view_error ht, parse_of_view_error hview, alike_inTemplate _ _ _ _⟩

end Message

/-! ### Text behind a word -/

namespace Template

variable {s t v b w q : List Char}

/-- What stands before the first apostrophe of a text does not depend on what follows it. -/
theorem White.before_apostrophe (h : White (v ++ '\'' :: b) (w ++ q)) (hw : '\'' ∉ w) :
    ∃ v', q = v' ++ '\'' :: b ∧ ∀ y, White (v ++ y) (w ++ (v' ++ y)) := by
  obtain ⟨l, hl, he⟩ := h
  have hplain : '\'' ∉ l ++ w := by
    rw [List.mem_append, not_or]
    exact ⟨fun hmem ↦ absurd (hl _ hmem) (by decide), hw⟩
  rw [← List.append_assoc] at he
  rcases List.append_eq_append_iff.1 he with ⟨u, hu, hq⟩ | ⟨u, rfl, hq⟩
  · cases u with
    | nil => exact ⟨[], hq.symm, fun y ↦ ⟨l, hl, by rw [List.append_nil] at hu; simp [← hu]⟩⟩
    | cons c u =>
      obtain ⟨rfl, -⟩ := List.cons.inj hq
      exact absurd (by rw [hu]; simp) hplain
  · exact ⟨u, hq, fun y ↦ ⟨l, hl, by simp⟩⟩

/-- A text whose variable and comma stand before an apostrophe does not go on as a word and a
closing brace. -/
theorem not_append_close {name token : String} {r y : List Char} (htoken : IsWordName token)
    (h : Reader.variableName (v ++ '\'' :: b) = some (name, r)) :
    v ++ t ≠ token.toList ++ '}' :: y := by
  intro he
  obtain ⟨hname, u, hstart, hu⟩ := Reader.exists_of_variableName h
  have hplain : '\'' ∉ name.toList := fun hmem ↦ absurd (hname.2 _ hmem) (by decide)
  obtain ⟨v₁, rfl, hv⟩ := hstart.before_apostrophe hplain
  obtain ⟨v₂, -, hv₁⟩ := White.before_apostrophe (w := [',']) hu (by decide)
  have hclose : EndsWord ('}' :: y) := by
    intro c hc
    rw [← Option.mem_some.1 hc]
    decide
  have hrest : '}' :: y = v₁ ++ t := by
    have hv := hv t
    rw [he] at hv
    exact White.word_unique htoken hname (White.refl _) hv hclose ((hv₁ t).endsWord (by decide))
  have hcomma := (hv₁ t).head '}' (by rw [← hrest]; rfl)
  exact absurd hcomma (by decide)

/-- A text whose variable and keyword of a plural in short stand before an apostrophe does not go on
as the plural that is written out. -/
theorem not_append_plural {f : PluralForms} {r y : List Char}
    (h : shorthand.read (v ++ '\'' :: b) = some (f, r)) :
    v ++ t ≠ f.name.toList ++ ", plural,".toList ++ y := by
  intro he
  obtain ⟨hname, s₁, s₂, s₃, s₄, hs, hs₁, hs₂, hs₃⟩ := exists_of_shorthand h
  have hplain : '\'' ∉ f.name.toList := fun hmem ↦ absurd (hname.2 _ hmem) (by decide)
  obtain ⟨v₁, rfl, hv⟩ := hs.before_apostrophe hplain
  obtain ⟨v₂, rfl, hv₁⟩ := White.before_apostrophe (w := [',']) hs₁ (by decide)
  obtain ⟨v₃, rfl, hv₂⟩ := White.before_apostrophe (w := ['p']) hs₂ (by decide)
  obtain ⟨v₄, rfl, hv₃⟩ := White.before_apostrophe (w := [',']) hs₃ (by decide)
  have hcomma : EndsWord (", plural,".toList ++ y) := by
    intro c hc
    rw [← Option.mem_some.1 hc]
    decide
  have hrest : ", plural,".toList ++ y = v₁ ++ t := by
    have hv := hv t
    rw [he, List.append_assoc] at hv
    exact White.word_unique hname hname (White.refl _) hv hcomma ((hv₁ t).endsWord (by decide))
  have hword : " plural,".toList ++ y = v₂ ++ t := by
    have hv₁ := hv₁ t
    rw [← hrest] at hv₁
    have := White.unique (White.refl _) hv₁ (by simp; decide) (by simp; decide)
    exact (List.cons.inj this).2
  have hp : "lural,".toList ++ y = v₃ ++ t := by
    have hv₂ := hv₂ t
    rw [← hword] at hv₂
    have hspace : White (" plural,".toList ++ y) ("plural,".toList ++ y) := ⟨[' '], by decide, rfl⟩
    have := White.unique hspace hv₂ (by simp; decide) (by simp; decide)
    exact (List.cons.inj this).2
  have hend := (hv₃ t).head 'l' (by rw [← hp]; rfl)
  exact absurd hend (by decide)

/-- What has a typed argument needs to be read. -/
theorem needsMessage_of_beginsTyped {names : List String} {u : List Char} (hs : s = u ++ '{' :: t)
    (ht : BeginsTyped t) : Renderer.needsMessage names s = true := by
  have htyped : typedArgument.occursIn s = true := by
    by_contra hnone
    exact not_beginsTyped_of_occursIn (Bool.eq_false_iff.2 hnone) hs ht
  rw [Renderer.needsMessage, htyped]
  rfl

theorem head?_start (s : List Char) : (start s).head? = s.head? := by
  cases s with
  | nil => rfl
  | cons c s =>
    rw [start]
    split <;> rfl

theorem Shape.Spares.cons {α : Type} {shape : Shape α} {c : Char} (h : shape.Spares s t)
    (hc : c ≠ '{') : shape.Spares (c :: s) t := by
  intro u v hu
  cases u with
  | nil => exact absurd (List.cons.inj hu).1 hc
  | cons d u => exact h u v (List.cons.inj hu).2

theorem Shape.spares_nil {α : Type} (shape : Shape α) (s : List Char) : shape.Spares [] s :=
  fun _ _ h ↦ absurd h (by simp)

/-- An apostrophe in front is prepared to an apostrophe. -/
theorem prepare_apostrophe {names : List String} (hnames : ∀ name ∈ names, BraceFree name.toList)
    (s : List Char) : prepare names (spellOut ('\'' :: s)) =
      (prepare names (spellOut s)).behind ['\''] :=
  prepare_behind (x := ['\'']) hnames ⟨(shorthand.spares_nil s).cons (by decide),
    fun p _ ↦ (p.2.spares_nil s).cons (by decide)⟩

end Template

/-! ### Rendering behind a quoted text -/

namespace Renderer

/-- The text between apostrophes, in front of the template. -/
def quotedBefore (s template : String) : String :=
  "'" ++ s ++ "'" ++ template

section Quoted

variable (r : Renderer) {s template : String}

theorem toList_quotedBefore (s template : String) :
    (quotedBefore s template).toList = '\'' :: (s.toList ++ '\'' :: template.toList) := by
  simp [quotedBefore]

/-- A template that needs to be read needs it behind a quoted text as well. -/
theorem needsMessage_quotedBefore {m : Message} (hm : Message.parse template = .ok m)
    (htyped : ∃ e ∈ m, e.isDirect = false) :
    needsMessage r.roster.names template.toList = true ∧
      needsMessage r.roster.names (quotedBefore s template).toList = true := by
  have hsome : ∃ u t, template.toList = u ++ '{' :: t ∧ BeginsTyped t := by
    by_contra hnone
    push Not at hnone
    obtain ⟨e, he, hdirect⟩ := htyped
    rw [(Grammar.elements_of_parse hm).isDirect rfl hnone e he] at hdirect
    cases hdirect
  obtain ⟨u, t, hu, ht⟩ := hsome
  refine ⟨needsMessage_of_beginsTyped hu ht, needsMessage_of_beginsTyped
    (u := '\'' :: (s.toList ++ '\'' :: u)) ?_ ht⟩
  rw [toList_quotedBefore, hu]
  simp

theorem prepared_quotedBefore (s template : String) :
    r.prepared (quotedBefore s template) =
      (prepare r.roster.names (spellOut (s.toList ++ '\'' :: template.toList))).behind ['\''] := by
  rw [prepared, toList_quotedBefore]
  exact prepare_apostrophe r.roster.braceFree_names _

theorem prepared_of_spared (hspared : Spared r.roster.names s.toList ('\'' :: template.toList)) :
    r.prepared (quotedBefore s template) =
      ⟨'\'' :: (s.toList ++ '\'' :: (r.prepared template).text), (r.prepared template).asides⟩ := by
  rw [prepared_quotedBefore, prepare_behind r.roster.braceFree_names hspared,
    prepare_apostrophe r.roster.braceFree_names]
  rfl

/-- A message with text in front is shown with the text in front. -/
theorem fill_addText (scene : Scene) (missing : String → Except CallFault String) (w : List Char)
    (m : Message) : ((scene.message none (m.addText w)).fill missing).result =
      ((scene.message none m).fill missing).result.map (String.ofList w ++ ·) := by
  have h := congrArg Answer.result (Phrase.same_addText (s := w) scene none m missing)
  rwa [Outline.fill] at h

/-- A quoted text that preparing spares is shown as it was written, and the template behind it as it
would be alone. -/
theorem behind_of_spared (hs : '\'' ∉ s.toList) (hbrace : ∃ c ∈ s.toList.head?, c = '{' ∨ c = '}')
    (hb : template.toList.head? ≠ some '\'') {m : Message} (hm : Message.parse template = .ok m)
    (htyped : ∃ e ∈ m, e.isDirect = false)
    (hspared : Spared r.roster.names s.toList ('\'' :: template.toList)) (clock : Calendar.Moment)
    (values : Values) (locale : Option String) :
    Behind s (r.tryRender clock template values locale).2.result
      (r.tryRender clock (quotedBefore s template) values locale).2.result := by
  obtain ⟨hneeds, hneeds'⟩ := needsMessage_quotedBefore r (s := s) hm htyped
  have hhead : (r.prepared template).text.head? ≠ some '\'' := by
    rw [← head?_start, prepared, start_prepare, head?_start]
    exact hb
  rw [result_tryRender_of_needsMessage r hneeds, result_tryRender_of_needsMessage r hneeds',
    prepared_of_spared r hspared]
  rcases Message.parse_of_piece (Grammar.piece_quoted hs hbrace hhead) with
    ⟨m', hparse, hparse'⟩ | ⟨f, f', hparse, hparse', halike⟩
  · rw [hparse, hparse']
    dsimp only [Except.mapError, Except.map, Except.bind]
    rw [fill_addText, String.ofList_toList]
    generalize (Outline.fill _ _).result = shown
    cases shown with
    | ok t => rfl
    | error f => exact ⟨f, rfl, .refl f⟩
  · rw [hparse, hparse']
    exact ⟨_, rfl, halike⟩

/-- What stands behind the first brace of a quoted text that is not spared is not what the prepared
template goes on with. -/
theorem exists_prepared_of_not_spared
    (hspared : ¬ Spared r.roster.names s.toList ('\'' :: template.toList)) :
    ∃ u v k z, s.toList = u ++ '{' :: v ∧
      (r.prepared (quotedBefore s template)).text = '\'' :: (u ++ '{' :: (k ++ z)) ∧
      '\'' ∉ k ∧ ∀ t y, v ++ t ≠ k ++ y := by
  rw [prepared_quotedBefore]
  obtain ⟨u, v, z, hsplit, ⟨f, t, hr, htext⟩ | ⟨p, hp, hr, kind, n, htext⟩⟩ :=
    exists_of_not_spared r.roster.braceFree_names hspared
  · obtain ⟨hname, -⟩ := exists_of_shorthand hr
    have hplain : '\'' ∉ f.name.toList := fun hmem ↦ absurd (hname.2 _ hmem) (by decide)
    refine ⟨u, v, f.name.toList ++ ", plural,".toList, z, hsplit, ?_, ?_,
      fun t y ↦ not_append_plural hr⟩
    · rw [Prepared.behind, htext]
      rfl
    · rw [List.mem_append, not_or]
      exact ⟨hplain, by decide⟩
  · have hword : IsWordName (kind.token n) := Phrase.isWordName_token kind n
    have hplain : '\'' ∉ (kind.token n).toList := fun hmem ↦ absurd (hword.2 _ hmem) (by decide)
    obtain ⟨g, hg, -⟩ := named_passes r.roster.names p hp
    obtain ⟨x, hx⟩ := Option.ne_none_iff_exists'.1 hr
    rw [hg] at hx
    obtain ⟨name, w, hname, -⟩ := Reader.exists_of_bind hx
    refine ⟨u, v, (kind.token n).toList ++ ['}'], z, hsplit, ?_, ?_, fun t y ↦ ?_⟩
    · rw [Prepared.behind, htext]
      simp
    · rw [List.mem_append, not_or]
      exact ⟨hplain, by decide⟩
    · rw [List.append_assoc]
      exact not_append_close hword hname

/-- A quoted text that preparing does not spare is not shown. -/
theorem ne_of_not_spared (hs : '\'' ∉ s.toList) (hbrace : ∃ c ∈ s.toList.head?, c = '{' ∨ c = '}')
    (hneeds : needsMessage r.roster.names (quotedBefore s template).toList = true)
    (hspared : ¬ Spared r.roster.names s.toList ('\'' :: template.toList)) (clock : Calendar.Moment)
    (values : Values) (locale : Option String) (t : String) :
    (r.tryRender clock (quotedBefore s template) values locale).2.result ≠ .ok (s ++ t) := by
  intro hresult
  obtain ⟨u, v, k, z, hsplit, htext, hk, hne⟩ := exists_prepared_of_not_spared r hspared
  rw [result_tryRender_of_needsMessage r hneeds, htext] at hresult
  have hu : '\'' ∉ u := fun hmem ↦ hs (by rw [hsplit]; simp [hmem])
  cases hparse : Message.parse (String.ofList ('\'' :: (u ++ '{' :: (k ++ z)))) with
  | error f =>
    rw [hparse] at hresult
    cases hresult
  | ok m =>
    have hm := Grammar.elements_of_parse hparse
    rw [String.toList_ofList] at hm
    obtain ⟨c, rest, hrest, hc⟩ :
        ∃ c rest, u ++ '{' :: (k ++ z) = c :: rest ∧ (c = '{' ∨ c = '}') := by
      cases u with
      | nil => exact ⟨'{', k ++ z, rfl, .inl rfl⟩
      | cons d u =>
        obtain ⟨c, hc, hbrace⟩ := hbrace
        rw [hsplit] at hc
        obtain rfl := Option.some.inj hc
        exact ⟨d, _, rfl, hbrace⟩
    rw [hrest] at hm
    obtain ⟨w, w', m', hrun, rfl⟩ := Grammar.exists_run_of_elements hc hm
    rw [← hrest] at hrun
    have hplain : '\'' ∉ u ++ '{' :: k := by
      simp [hu, hk]
    rw [← List.cons_append, ← List.append_assoc] at hrun
    obtain ⟨l, rfl, -⟩ := hrun.of_append hplain
    rw [hparse] at hresult
    dsimp only [Except.mapError, Except.map, Except.bind] at hresult
    rw [fill_addText] at hresult
    obtain ⟨shown, hshown⟩ : ∃ shown, String.ofList ((u ++ '{' :: k) ++ l) ++ shown = s ++ t := by
      revert hresult
      generalize (Outline.fill _ _).result = shown
      cases shown with
      | error f => exact fun h ↦ absurd h (by simp [Except.map])
      | ok shown => exact fun h ↦ ⟨shown, Except.ok.inj h⟩
    have hlists := congrArg String.toList hshown
    rw [String.toList_append, String.toList_append, String.toList_ofList, hsplit] at hlists
    refine hne t.toList (l ++ shown.toList) ?_
    simpa using hlists.symm

end Quoted

/-- A quoted text that begins with a brace, in front of a template that is a message and has an
argument with a type, is shown as it was written and followed by what the template alone shows, just
when no plural in short and no argument beyond the message format begins in it. Then a template that
fails alone fails in the same way behind it. -/
theorem tryRender_quoted_iff (r : Renderer) (s template : String) (m : Message)
    (hs : '\'' ∉ s.toList) (hbrace : ∃ c ∈ s.toList.head?, c = '{' ∨ c = '}')
    (hb : template.toList.head? ≠ some '\'') (hm : Message.parse template = .ok m)
    (htyped : ∃ e ∈ m, e.isDirect = false) (clock : Calendar.Moment) (values : Values)
    (locale : Option String) :
    (Spared r.roster.names s.toList ('\'' :: template.toList) →
      Behind s (r.tryRender clock template values locale).2.result
        (r.tryRender clock (quotedBefore s template) values locale).2.result) ∧
    ∀ t, (r.tryRender clock (quotedBefore s template) values locale).2.result = .ok (s ++ t) ↔
      Spared r.roster.names s.toList ('\'' :: template.toList) ∧
        (r.tryRender clock template values locale).2.result = .ok t := by
  have hbehind (h : Spared r.roster.names s.toList ('\'' :: template.toList)) :=
    behind_of_spared r hs hbrace hb hm htyped h clock values locale
  refine ⟨hbehind, fun t ↦ ⟨fun hresult ↦ ?_, fun ⟨hspared, hresult⟩ ↦ ?_⟩⟩
  · have hspared : Spared r.roster.names s.toList ('\'' :: template.toList) := by
      by_contra hspared
      exact ne_of_not_spared r hs hbrace (needsMessage_quotedBefore r hm htyped).2 hspared clock
        values locale t hresult
    refine ⟨hspared, ?_⟩
    have h := hbehind hspared
    rw [hresult] at h
    cases hp : (r.tryRender clock template values locale).2.result with
    | error f =>
      rw [hp] at h
      obtain ⟨f', hf', -⟩ := h
      cases hf'
    | ok shown =>
      rw [hp] at h
      have hlists := congrArg String.toList (Except.ok.inj h)
      rw [String.toList_append, String.toList_append, List.append_cancel_left_eq,
        String.toList_inj] at hlists
      rw [hlists]
  · have h := hbehind hspared
    rw [hresult] at h
    exact h

/-- A template with one branch for every value. -/
def oneBranch : String := "\x7bn, select, other \x7ba\x7d\x7d"

theorem exists_parse_oneBranch :
    ∃ m, Message.parse oneBranch = .ok m ∧ ∃ e ∈ m, e.isDirect = false := by
  have h : (Message.parse oneBranch).toOption.any (fun m ↦ m.any fun e ↦ !e.isDirect) = true := by
    decide +kernel
  cases hp : Message.parse oneBranch with
  | error f =>
    rw [hp] at h
    cases h
  | ok m =>
    rw [hp] at h
    obtain ⟨e, he, hdirect⟩ := List.any_eq_true.1 h
    exact ⟨m, rfl, e, he, by simpa using hdirect⟩

/-- A quoted argument for a number is spared, and one for an amount of money is not: its placeholder
is shown. -/
theorem tryRender_quoted_oneBranch :
    let r := ofSettings {} {}
    Spared r.roster.names "\x7bx, number\x7d".toList ('\'' :: oneBranch.toList) ∧
      ¬ Spared r.roster.names "\x7bx, currency\x7d".toList ('\'' :: oneBranch.toList) ∧
      (r.tryRender default (quotedBefore "\x7bx, currency\x7d" oneBranch) .none none).2.result =
        .ok "\x7b__CURRENCY_0__\x7da" := by
  intro r
  obtain ⟨m, hm, htyped⟩ := exists_parse_oneBranch
  have halone : (r.tryRender default oneBranch .none none).2.result = .ok "a" := by
    decide +kernel
  have hnumber : (r.tryRender default (quotedBefore "\x7bx, number\x7d" oneBranch) .none
      none).2.result = .ok ("\x7bx, number\x7d" ++ "a") := by
    decide +kernel
  have hcurrency : (r.tryRender default (quotedBefore "\x7bx, currency\x7d" oneBranch) .none
      none).2.result = .ok "\x7b__CURRENCY_0__\x7da" := by
    decide +kernel
  obtain ⟨-, hspared⟩ := tryRender_quoted_iff r "\x7bx, number\x7d" oneBranch m (by decide)
    ⟨'{', rfl, .inl rfl⟩ (by decide) hm htyped default .none none
  obtain ⟨-, hrewritten⟩ := tryRender_quoted_iff r "\x7bx, currency\x7d" oneBranch m (by decide)
    ⟨'{', rfl, .inl rfl⟩ (by decide) hm htyped default .none none
  refine ⟨((hspared "a").1 hnumber).1, fun h ↦ ?_, hcurrency⟩
  rw [(hrewritten "a").2 ⟨h, halone⟩] at hcurrency
  exact absurd hcurrency (by decide)

end Renderer

end Phrasebook
