import Phrasebook.Proofs.Lexemes

/-!
The places that the reader comes to.

While it reads a template the reader moves from place to place, and a place is what is left of the
text there. For each part of the reader there is the row of the places that it moves to, one after
the other: every character of blanks and texts is a move of its own, and so is a word that is cut
off as a whole, the jump to the closing brace after a style, and the step back to a type that is not
known. Where a part goes on after another one, its moves go on where the reader left off, so the
moves are those of the reader itself (`Message.Moves`). `Message.places` has all of a template.

Moves lead onward (`Onward`) if each of them leaves less than the one before. The moves of blanks,
literal runs, signs, offsets and styles do.
-/

set_option autoImplicit false

namespace Phrasebook.Message

open Grammar Text

/-! ### Moves -/

/-- The moves after an outcome, which there are only where something was read. -/
def movesAfter {ε α : Type} (o : Except ε α) (moves : α → List (List Char)) : List (List Char) :=
  match o with
  | .ok x => moves x
  | .error _ => []

/-- The moves over white space. -/
def spaceMoves : List Char → List (List Char)
  | [] => []
  | c :: s => if isSpace c then s :: spaceMoves s else []

/-- The moves through a literal run. -/
def runMoves : List Char → List (List Char)
  | [] => []
  | '\'' :: '\'' :: s => s :: runMoves s
  | '\'' :: s => [s]
  | _ :: s => s :: runMoves s

/-- The moves over an apostrophe and what it quotes, given what follows it. -/
def apostropheMoves (inPlural : Bool) : List Char → List (List Char)
  | '\'' :: s => [s]
  | '{' :: s => ('{' :: s) :: runMoves ('{' :: s)
  | '}' :: s => ('}' :: s) :: runMoves ('}' :: s)
  | '#' :: s => ('#' :: s) :: if inPlural then runMoves ('#' :: s) else []
  | s => [s]

/-- The moves over white space and the sign `c`. -/
def expectMoves (c : Char) (s : List Char) : List (List Char) :=
  spaceMoves s ++ movesAfter (expect c s) fun r ↦ [r.1]

/-- The moves over characters of a kind at once. -/
def wordMoves (p : Char → Bool) (s : List Char) : List (List Char) :=
  if (s.takeWhile p).isEmpty then [] else [s.dropWhile p]

/-- The moves over the offset of a plural argument. -/
def offsetMoves (s : List Char) : List (List Char) :=
  match after? "offset".toList s with
  | some (':' :: t) => wordMoves isDigit (takeMinus (t.dropWhile isBlank)).2
  | _ => []

/-- The moves after the comma before a style: at once to the next closing brace, if the style is
one, and over it. -/
def closingMoves (s : List Char) : List (List Char) :=
  match s.dropWhile (· ≠ '}') with
  | [] => [[]]
  | c :: rest =>
    let style := trim (s.takeWhile (· ≠ '}'))
    if style.contains '{' then [] else if style.isEmpty then [] else [c :: rest, rest]

/-- The moves after the type of a formatted argument. -/
def styleMoves (s : List Char) : List (List Char) :=
  match skipSpace s with
  | ',' :: t => spaceMoves s ++ [t] ++ closingMoves t
  | _ => expectMoves '}' s

/-! ### Options one by one -/

/-- Reads an option whose selector is not among the ones `seen`. -/
def parseOption (inPlural : Bool) (seen : List String) (s : List Char) :
    Outcome s (String × Message) :=
  let selector := String.ofList (takeSelector s).1
  let s₂ := (takeSelector s).2
  have h₂ : s₂.length ≤ s.length := length_takeSelector_le s
  if (takeSelector s).1.isEmpty then fail .noSelector s
  else if seen.contains selector then fail (.duplicateSelector selector) s₂
  else match expect '{' s₂ with
  | .error f => .error f
  | .ok r₃ =>
    match parseMessage inPlural true r₃.1 with
    | .error f => .error f
    | .ok m =>
      match expect '}' m.rest with
      | .error f => .error (f.after m.passedOver)
      | .ok r₄ => .ok ⟨(selector, m.value), r₄.1, m.passedOver,
          Nat.le_trans (Nat.le_of_lt r₄.2)
            (Nat.le_trans m.le (Nat.le_trans (Nat.le_of_lt r₃.2) h₂))⟩

/-- Options are read one after the other. -/
theorem parseOptions_eq (inPlural : Bool) (seen : List String) (s : List Char) :
    parseOptions inPlural seen s =
      if (skipSpace s).head? = none ∨ (skipSpace s).head? = some '}' then
        if seen.isEmpty then fail .noOption (skipSpace s)
        else .ok ⟨[], skipSpace s, [], length_skipSpace_le s⟩
      else
        match parseOption inPlural seen (skipSpace s) with
        | .error f => .error f
        | .ok o =>
          match parseOptions inPlural (o.value.1 :: seen) o.rest with
          | .error f => .error (f.after o.passedOver)
          | .ok os => .ok ⟨o.value :: os.value, os.rest, o.passedOver ++ os.passedOver,
              Nat.le_trans os.le (Nat.le_trans o.le (length_skipSpace_le s))⟩ := by
  rw [parseOptions, parseOption]
  dsimp only
  split
  · rfl
  · split
    · rfl
    · split
      · rfl
      · cases expect '{' (takeSelector (skipSpace s)).2 with
        | error f => rfl
        | ok r₃ =>
          dsimp only
          cases parseMessage inPlural true r₃.1 with
          | error f => rfl
          | ok m =>
            dsimp only
            cases expect '}' m.rest with
            | error f => rfl
            | ok r₄ =>
              dsimp only
              cases parseOptions inPlural (_ :: seen) r₄.1 <;> rfl

/-- An option has a selector and two braces. -/
theorem length_parseOption {inPlural : Bool} {seen : List String} {s : List Char}
    {o : Parsed s (String × Message)} (h : parseOption inPlural seen s = .ok o) :
    o.rest.length + 3 ≤ s.length := by
  have happend := congrArg List.length (takeSelector_append s)
  rw [List.length_append] at happend
  unfold parseOption at h
  dsimp only at h
  split at h
  · cases h
  · rename_i hne
    have hselector : 0 < (takeSelector s).1.length := by
      rw [List.length_pos_iff]
      simpa using hne
    split at h
    · cases h
    · split at h
      · cases h
      · rename_i r₃ _
        have hopen := r₃.2
        split at h
        · cases h
        · rename_i m _
          have hm := m.le
          split at h
          · cases h
          · rename_i r₄ _
            have hclose := r₄.2
            cases h
            dsimp only
            omega

/-! ### Moves through messages -/

mutual

/-- The moves through a message. -/
def messageMoves (inPlural : Bool) (s : List Char) : List (List Char) :=
  match s with
  | [] => []
  | c :: s =>
    if c = '{' then
      s :: (argumentMoves s ++ movesAfter (parseArgument s) fun e ↦
        have := e.le
        messageMoves inPlural e.rest)
    else if c = '}' then []
    else if c = '\'' then
      have := length_takeApostrophe_le inPlural s
      apostropheMoves inPlural s ++ messageMoves inPlural (takeApostrophe inPlural s).2
    else s :: messageMoves inPlural s
termination_by 2 * s.length

/-- The moves through an argument after its opening brace. -/
def argumentMoves (s : List Char) : List (List Char) :=
  let s₁ := skipSpace s
  have : s₁.length ≤ s.length := length_skipSpace_le s
  let s₂ := s₁.dropWhile isNameChar
  have : s₂.length ≤ s₁.length := length_dropWhile_le _ _
  spaceMoves s ++
  if (s₁.takeWhile isNameChar).isEmpty then []
  else s₂ ::
    match expect '}' s₂ with
    | .ok _ => expectMoves '}' s₂
    | .error _ => expectMoves ',' s₂ ++ movesAfter (expect ',' s₂) fun r ↦
      have := r.2
      let s₃ := skipSpace r.1
      have : s₃.length ≤ r.1.length := length_skipSpace_le r.1
      let s₄ := s₃.dropWhile isLetter
      have : s₄.length ≤ s₃.length := length_dropWhile_le _ _
      let word := s₃.takeWhile isLetter
      spaceMoves r.1 ++
      if word.isEmpty then []
      else s₄ ::
        match ArgumentType.ofWord? (String.ofList word) with
        | none => [s₃]
        | some (.formatted _) => styleMoves s₄
        | some (.plural _) => expectMoves ',' s₄ ++ movesAfter (expect ',' s₄) fun r₅ ↦
          have := r₅.2
          have := length_skipSpace_le r₅.1
          spaceMoves r₅.1 ++ (offsetMoves (skipSpace r₅.1) ++
            movesAfter (takeOffset (skipSpace r₅.1)) fun o ↦
              have := o.2.2
              optionsMoves true [] o.2.1 ++ movesAfter (parseOptions true [] o.2.1) fun os ↦
                expectMoves '}' os.rest)
        | some .select => expectMoves ',' s₄ ++ movesAfter (expect ',' s₄) fun r₅ ↦
          have := r₅.2
          optionsMoves false [] r₅.1 ++ movesAfter (parseOptions false [] r₅.1) fun os ↦
            expectMoves '}' os.rest
termination_by 2 * s.length

/-- The moves through an option. -/
def optionMoves (inPlural : Bool) (seen : List String) (s : List Char) : List (List Char) :=
  let s₂ := (takeSelector s).2
  have : s₂.length ≤ s.length := length_takeSelector_le s
  if (takeSelector s).1.isEmpty then []
  else s₂ ::
    if seen.contains (String.ofList (takeSelector s).1) then []
    else expectMoves '{' s₂ ++ movesAfter (expect '{' s₂) fun r₃ ↦
      have := r₃.2
      messageMoves inPlural r₃.1 ++ movesAfter (parseMessage inPlural true r₃.1) fun m ↦
        expectMoves '}' m.rest
termination_by 2 * s.length

/-- The moves through the options of an argument. -/
def optionsMoves (inPlural : Bool) (seen : List String) (s : List Char) : List (List Char) :=
  have := length_skipSpace_le s
  spaceMoves s ++
  if (skipSpace s).head? = none ∨ (skipSpace s).head? = some '}' then []
  else optionMoves inPlural seen (skipSpace s) ++
    match h : parseOption inPlural seen (skipSpace s) with
    | .ok o =>
      have := length_parseOption h
      optionsMoves inPlural (o.value.1 :: seen) o.rest
    | .error _ => []
termination_by 2 * s.length + 1

end

/-- The places that the reader of a template stands at, from the first one on. -/
def places (template : String) : List (List Char) :=
  template.toList :: messageMoves false template.toList

/-! ### Moving onward -/

/-- The moves lead from the first place to the last one, and each leaves less than the one
before. -/
inductive Onward : List Char → List (List Char) → List Char → Prop
  | here (s : List Char) : Onward s [] s
  | move {s t u : List Char} {moves : List (List Char)} : t <:+ s → t.length < s.length →
      Onward t moves u → Onward s (t :: moves) u

/-- A place that the reader does not come to by reading is the one it names for the cause: the end
of the template for a style that does not end, and the start of a type that is not known. -/
def Cause.Jumps (cause : Cause) : Prop :=
  cause = .notMessage .unterminated ∨ ∃ word, cause = .notMessage (.unknownType word)

/-- The moves lead onward to the last place, and a last one may jump there for the cause. -/
inductive Halts (cause : Cause) : List Char → List (List Char) → List Char → Prop
  | onward {s t : List Char} {moves : List (List Char)} : Onward s moves t → Halts cause s moves t
  | jump {s t u : List Char} {moves : List (List Char)} : cause.Jumps → Onward s moves t → u <:+ s →
      Halts cause s (moves ++ [u]) u

namespace Onward

variable {s t u : List Char} {moves moves' : List (List Char)}

theorem one (ht : t <:+ s) (hlt : t.length < s.length) : Onward s [t] t :=
  .move ht hlt (.here t)

theorem cons (c : Char) (h : Onward s moves t) : Onward (c :: s) (s :: moves) t :=
  .move (List.suffix_cons c s) (Nat.lt_succ_self _) h

theorem append (h : Onward s moves t) (h' : Onward t moves' u) : Onward s (moves ++ moves') u := by
  induction h with
  | here => exact h'
  | move ht hlt _ ih => exact .move ht hlt (ih h')

theorem suffix (h : Onward s moves t) : t <:+ s := by
  induction h with
  | here => exact List.suffix_rfl
  | move ht _ _ ih => exact ih.trans ht

theorem halts {cause : Cause} (h : Onward s moves t) (h' : Halts cause t moves' u) :
    Halts cause s (moves ++ moves') u := by
  cases h' with
  | onward h' => exact .onward (h.append h')
  | jump hjump h' hu =>
    rw [← List.append_assoc]
    exact .jump hjump (h.append h') (hu.trans h.suffix)

end Onward

theorem Halts.suffix {cause : Cause} {s t : List Char} {moves : List (List Char)}
    (h : Halts cause s moves t) : t <:+ s := by
  cases h with
  | onward h => exact h.suffix
  | jump _ _ ht => exact ht

/-- The failure of what is no message is said of the place `t`. -/
def Failure.At (f : Failure) (t : List Char) : Prop :=
  ∀ reason, f.cause = .notMessage reason → f.remaining = t.length

/-- The moves of a part of the reader that begins at `s`: onward to the place that it leaves to the
next part, or to the place where it fails. A failure is said of a place that is not before `s`, and
of the last one if the cause is that the template is no message. -/
def Moves {α : Type} (s : List Char) (moves : List (List Char)) (o : Except Failure α)
    (rest : α → List Char) : Prop :=
  match o with
  | .ok x => Onward s moves (rest x)
  | .error f => f.remaining ≤ s.length ∧ ∃ t, Halts f.cause s moves t ∧ f.At t

namespace Moves

variable {α β : Type} {s t : List Char} {moves moves' : List (List Char)} {o : Except Failure α}
  {rest : α → List Char}

/-- A part that halts at the place of which its failure is said. -/
theorem halt {f : Failure} (h : Halts f.cause s moves t) (hf : f.remaining = t.length) :
    Moves s moves (.error f) rest :=
  ⟨hf ▸ h.suffix.length_le, t, h, fun _ _ ↦ hf⟩

/-- A part that fails where the reader stands. -/
theorem fail (reason : SyntaxReason) (t : List Char) {rest : Parsed s α → List Char} :
    Moves t [] (Message.fail reason t : Outcome s α) rest :=
  .halt (.onward (.here t)) rfl

/-- What is read first comes first. -/
theorem after (h : Moves t moves' o rest) (hs : Onward s moves t) :
    Moves s (moves ++ moves') o rest := by
  cases o with
  | ok x => exact hs.append h
  | error f =>
    obtain ⟨hle, u, hu, hf⟩ := h
    exact ⟨hle.trans hs.suffix.length_le, u, hs.halts hu, hf⟩

/-- A single move comes first. -/
theorem next (h : Moves t moves' o rest) (ht : Onward s [t] t) : Moves s (t :: moves') o rest :=
  h.after ht

/-- One part of the reader and then the next, which begins where the first one ends. -/
theorem bind {o' : Except Failure β} {rest' : β → List Char}
    {next : α → List (List Char)} (h : Moves s moves o rest)
    (herror : ∀ f, o = .error f → o' = .error f)
    (hok : ∀ x, o = .ok x → Moves (rest x) (next x) o' rest') :
    Moves s (moves ++ movesAfter o next) o' rest' := by
  cases o with
  | ok x => exact (hok x rfl).after h
  | error f =>
    rw [herror f rfl, movesAfter, List.append_nil]
    exact h

/-- What is made of a part that was read does not matter to the moves. -/
theorem map {o' : Except Failure β} {rest' : β → List Char} (h : Moves s moves o rest)
    (herror : ∀ f, o = .error f → ∃ w, o' = .error (f.after w))
    (hok : ∀ x, o = .ok x → ∃ y, rest' y = rest x ∧ o' = .ok y) : Moves s moves o' rest' := by
  cases o with
  | ok x =>
    obtain ⟨y, hy, rfl⟩ := hok x rfl
    change Onward s moves (rest' y)
    rw [hy]
    exact h
  | error f =>
    obtain ⟨w, rfl⟩ := herror f rfl
    exact h

end Moves

/-! ### Parts of an argument -/

variable {s : List Char}

theorem onward_spaceMoves (s : List Char) : Onward s (spaceMoves s) (skipSpace s) := by
  induction s with
  | nil => exact .here []
  | cons c s ih =>
    rw [spaceMoves, skipSpace, List.dropWhile_cons]
    cases isSpace c with
    | true => exact ih.cons c
    | false => exact .here _

theorem onward_runMoves (s : List Char) : Onward s (runMoves s) (takeRun s).2 := by
  fun_induction runMoves s with
  | case1 => exact .here []
  | case2 s ih =>
    rw [takeRun]
    refine .move (List.suffix_append ['\'', '\''] s) ?_ ih
    simp only [List.length_cons]
    omega
  | case3 s hlone =>
    rw [takeRun]
    · exact (Onward.here s).cons _
    · exact hlone
  | case4 c s hdoubled hlone ih =>
    rw [takeRun]
    · exact ih.cons c
    · exact hdoubled
    · exact hlone

theorem onward_apostropheMoves (inPlural : Bool) (s : List Char) :
    Onward ('\'' :: s) (apostropheMoves inPlural s) (takeApostrophe inPlural s).2 := by
  unfold apostropheMoves
  split
  · rw [takeApostrophe]
    refine .one (List.suffix_append ['\'', '\''] _) ?_
    simp only [List.length_cons]
    omega
  · rw [takeApostrophe]
    exact (onward_runMoves _).cons _
  · rw [takeApostrophe]
    exact (onward_runMoves _).cons _
  · rw [takeApostrophe]
    cases inPlural with
    | true => exact (onward_runMoves _).cons _
    | false => exact (Onward.here _).cons _
  · rename_i hquote hopen hclose hpound
    rw [takeApostrophe]
    · exact (Onward.here s).cons _
    · exact hquote
    · exact hopen
    · exact hclose
    · exact hpound

theorem skipSpace_of_expect {c : Char} {r : { r : List Char // r.length < s.length }}
    (h : expect c s = .ok r) : skipSpace s = c :: r.1 := by
  unfold expect at h
  split at h
  · rename_i d r' hs
    split at h
    · rename_i hd
      cases h
      exact hd ▸ hs
    · cases h
  · cases h

theorem remaining_of_expect {c : Char} {f : Failure} (h : expect c s = .error f) :
    f.remaining = (skipSpace s).length := by
  unfold expect at h
  split at h
  · rename_i d r hs
    split at h
    · cases h
    · cases h
      rw [hs]
  · rename_i hs
    cases h
    rw [hs]
    rfl

theorem moves_expect (c : Char) (s : List Char) :
    Moves s (expectMoves c s) (expect c s) Subtype.val := by
  refine Moves.after ?_ (onward_spaceMoves s)
  cases h : expect c s with
  | ok r =>
    rw [skipSpace_of_expect h]
    exact (Onward.here r.1).cons c
  | error f => exact .halt (.onward (.here _)) (remaining_of_expect h)

/-- A part of the reader and the brace that closes it. -/
theorem Moves.closed {α β : Type} {moves : List (List Char)} {o : Outcome s α}
    {o' : Except Failure β} {rest' : β → List Char} (h : Moves s moves o Parsed.rest)
    (herror : ∀ f, o = .error f → o' = .error f)
    (hopen : ∀ x f, o = .ok x → expect '}' x.rest = .error f → o' = .error (f.after x.passedOver))
    (hok : ∀ x r, o = .ok x → expect '}' x.rest = .ok r → ∃ y, rest' y = r.1 ∧ o' = .ok y) :
    Moves s (moves ++ movesAfter o fun x ↦ expectMoves '}' x.rest) o' rest' :=
  h.bind herror fun x hx ↦ (moves_expect '}' x.rest).map
    (fun f hf ↦ ⟨x.passedOver, hopen x f hx hf⟩) fun r hr ↦ hok x r hx hr

theorem takeMinus_isSuffix (s : List Char) : (takeMinus s).2 <:+ s :=
  ⟨_, takeMinus_append s⟩

/-- What is left after the word `offset`, a colon, blanks and digits is further on. -/
theorem afterOffset_isSuffix {s t : List Char} (h : after? "offset".toList s = some (':' :: t)) :
    (takeMinus (t.dropWhile isBlank)).2.dropWhile isDigit <:+ s ∧
      ((takeMinus (t.dropWhile isBlank)).2.dropWhile isDigit).length < s.length := by
  have hs : s = "offset".toList ++ ':' :: t := append_of_after? h
  have hsuffix : (takeMinus (t.dropWhile isBlank)).2.dropWhile isDigit <:+ t :=
    ((List.dropWhile_suffix _).trans (takeMinus_isSuffix _)).trans (List.dropWhile_suffix _)
  have hlt : t.length < s.length := by
    rw [hs, List.length_append, List.length_cons]
    omega
  refine ⟨hsuffix.trans ?_, Nat.lt_of_le_of_lt hsuffix.length_le hlt⟩
  exact (List.suffix_cons ':' t).trans ⟨_, hs.symm⟩

theorem moves_takeOffset (s : List Char) :
    Moves s (offsetMoves s) (takeOffset s) fun o ↦ o.2.1 := by
  unfold takeOffset
  split
  · rename_i hno
    simp only [offsetMoves, hno]
    exact .here s
  · rename_i t ht
    dsimp only
    split
    · rename_i u
      have hmoves : offsetMoves s = wordMoves isDigit (takeMinus (u.dropWhile isBlank)).2 := by
        simp only [offsetMoves, ht]
      obtain ⟨hsuffix, hlt⟩ := afterOffset_isSuffix ht
      rw [hmoves, wordMoves]
      by_cases hdigits : (takeMinus (u.dropWhile isBlank)).2.takeWhile isDigit = []
      · -- no digits, so no number
        rw [hdigits, readInt?_takeMinus]
        exact .halt (.onward (.here s)) rfl
      · obtain ⟨negative, hneg⟩ := exists_minus (u.dropWhile isBlank)
        have hread := readInt?_digits ⟨hdigits, fun _ hc ↦ List.mem_takeWhile_imp hc⟩ negative
        rw [if_neg (by simpa using hdigits), hneg, hread]
        split
        · exact ⟨Nat.le_refl _, _, .onward (.one hsuffix hlt), fun _ hcause ↦ by cases hcause⟩
        · rw [dif_pos (Nat.le_of_lt hlt)]
          rename_i heq
          cases heq
          exact .one hsuffix hlt
        · rename_i heq
          cases heq
    · rename_i hcolon
      have hmoves : offsetMoves s = [] := by
        unfold offsetMoves
        split
        · rename_i u hu
          exact (hcolon u (Option.some.inj (ht.symm.trans hu))).elim
        · rfl
      rw [hmoves]
      exact .halt (.onward (.here s)) rfl

/-- Characters that were read off stand before the place where the others begin. -/
theorem onward_dropWhile {p : Char → Bool} {s : List Char} (h : s.takeWhile p ≠ []) :
    Onward s [s.dropWhile p] (s.dropWhile p) := by
  refine .one (List.dropWhile_suffix p) ?_
  have happend := congrArg List.length (List.takeWhile_append_dropWhile (p := p) (l := s))
  have hpos : 0 < (s.takeWhile p).length := List.length_pos_iff.2 h
  rw [List.length_append] at happend
  omega

theorem moves_parseStyle (name : String) (type : FormattedType) (s : List Char) :
    Moves s (styleMoves s) (parseStyle name type s) Parsed.rest := by
  have hspace := onward_spaceMoves s
  unfold parseStyle
  split
  · rename_i t ht
    have hcomma : Onward s (spaceMoves s ++ [t]) t := by
      rw [ht] at hspace
      exact hspace.append ((Onward.here t).cons ',')
    have hmoves : styleMoves s = spaceMoves s ++ [t] ++ closingMoves t := by
      simp only [styleMoves, ht]
    rw [hmoves]
    refine Moves.after ?_ hcomma
    dsimp only
    split
    · rename_i hend
      rw [closingMoves, hend]
      exact .halt (.jump (.inl rfl) (.here t) List.nil_suffix) rfl
    · rename_i c rest hend
      have hmoves : closingMoves t = if (trim (t.takeWhile (· ≠ '}'))).contains '{' then []
          else if (trim (t.takeWhile (· ≠ '}'))).isEmpty then [] else [c :: rest, rest] := by
        simp only [closingMoves, hend]
      rw [hmoves]
      split
      · exact .fail _ t
      · split
        · exact .fail _ t
        · rename_i hstyle
          have hne : t.takeWhile (· ≠ '}') ≠ [] := by
            intro hnil
            rw [hnil] at hstyle
            exact hstyle rfl
          have hclose := onward_dropWhile hne
          rw [hend] at hclose
          exact hclose.append ((Onward.here rest).cons c)
  · rename_i hno
    have hmoves : styleMoves s = expectMoves '}' s := by
      unfold styleMoves
      split
      · rename_i t ht
        exact (hno t ht).elim
      · rfl
    rw [hmoves]
    have hclose := moves_expect '}' s
    cases he : expect '}' s with
    | error f =>
      rw [he] at hclose
      exact hclose
    | ok r =>
      rw [he] at hclose
      exact hclose

end Phrasebook.Message
