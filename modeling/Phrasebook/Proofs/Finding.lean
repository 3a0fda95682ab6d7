import Phrasebook.Proofs.Phrases

/-!
What the shapes find in arguments that are written.

A shape takes an argument by the word for its type. It finds nothing under another word, whatever
follows, and under its own word it finds what the argument asks for (`firstFound_call`,
`found?_shorthand`).
-/

set_option autoImplicit false

namespace Phrasebook.Template

open Text Phrase

/-! ### Readers at the start of a text -/

namespace Reader

variable {α β : Type} {r : Reader α} {f : α → Reader β} {s t : List Char} {a : α}

theorem bind_of_some (h : r s = some (a, t)) : (r >>= f) s = f a t := by
  change (r s).bind _ = _
  rw [h]
  rfl

theorem bind_of_none (h : r s = none) : (r >>= f) s = none := by
  change (r s).bind _ = _
  rw [h]
  rfl

theorem blanks_of_head (h : ∀ c ∈ s.head?, isBlank c = false) : blanks s = some ((), s) := by
  have := dropWhile_append_stop (w := []) (p := isBlank) (by simp) h
  rw [List.nil_append] at this
  rw [blanks, this]

/-- White space in front does not matter to a reader that refuses it. -/
theorem afterBlanks_append {b : List Char} (hr : ∀ c s, isBlank c = true → r (c :: s) = none)
    (hb : ∀ c ∈ b, isBlank c = true) (hs : ∀ c ∈ s.head?, isBlank c = false) :
    afterBlanks r (b ++ s) = r s := by
  induction b with
  | nil =>
    cases s with
    | nil => rfl
    | cons c s => rw [List.nil_append, afterBlanks, if_neg (by simp [hs c rfl])]
  | cons c b ih =>
    obtain ⟨hc, hb⟩ := List.forall_mem_cons.1 hb
    rw [List.cons_append, afterBlanks, if_pos hc, ih hb, hr c _ hc]
    cases r s <;> rfl

theorem exactly_append (w s : List Char) : exactly w (w ++ s) = some ((), s) := by
  rw [exactly, after?_append]
  rfl

theorem exactly_of_head {w : Char} (h : ∀ c ∈ s.head?, c ≠ w) : exactly [w] s = none := by
  cases s with
  | nil => rfl
  | cons c s =>
    have hnone : after? [w] (c :: s) = none := if_neg (Ne.symm (h c rfl))
    rw [exactly, hnone]
    rfl

theorem optionalPart_of_head (h : ∀ c ∈ s.head?, c ≠ ',') : optionalPart r s = some (none, s) := by
  have hcomma : comma s = none := exactly_of_head h
  rw [optionalPart, optionally, bind_of_none hcomma]

theorem optionalPart_of_some (hr : r s = some (a, t)) (hs : ∀ c ∈ s.head?, isBlank c = false)
    (ht : ∀ c ∈ t.head?, isBlank c = false) :
    optionalPart r (',' :: ' ' :: s) = some (some a, t) := by
  have hcomma : comma (',' :: ' ' :: s) = some ((), ' ' :: s) := rfl
  have hblanks : blanks (' ' :: s) = some ((), s) := blanks_of_head hs
  rw [optionalPart, optionally, bind_of_some hcomma, bind_of_some hblanks, bind_of_some hr,
    bind_of_some (blanks_of_head ht)]
  rfl

end Reader

open Reader

/-! ### Words for types -/

/-- No word goes on here. -/
def EndsWord (s : List Char) : Prop :=
  ∀ c ∈ s.head?, isWord c = false

/-- Nothing, or something that begins with a comma. -/
def IsDetail (s : List Char) : Prop :=
  ∀ c ∈ s.head?, c = ','

/-- The reader refuses what begins with a word character. -/
def RefusesWords {α : Type} (r : Reader α) : Prop :=
  ∀ c s, isWord c = true → r (c :: s) = none

section Word

variable {name word : String} {w r s : List Char}

theorem variableName_of_isWordName (h : IsWordName name) (s : List Char) :
    variableName (name.toList ++ ',' :: s) = some (name, s) := by
  have hstop : ∀ c ∈ (',' :: s).head?, isWord c = false := by
    intro c hc
    rw [← Option.mem_some.1 hc]
    decide
  have hblanks := blanks_of_head (h.head_blank (',' :: s))
  have hrun : run isWord (name.toList ++ ',' :: s) = some (name.toList, ',' :: s) := by
    rw [run, takeWhile_append_stop h.2 hstop, dropWhile_append_stop h.2 hstop, if_neg]
    simpa using h.1
  have hcomma : comma (',' :: s) = some ((), s) := rfl
  have hspace : blanks (',' :: s) = some ((), ',' :: s) := rfl
  rw [variableName, bind_of_some hblanks, bind_of_some hrun, bind_of_some hspace,
    bind_of_some hcomma, String.ofList_toList]
  rfl

/-- A shape looks at what follows the name. -/
theorem Shape.found?_typed {α : Type} {shape : Shape α} {f : String → Reader α}
    (hf : shape.read = variableName >>= f) (h : IsWordName name) (s : List Char) :
    shape.found? (name.toList ++ ',' :: s) = (f name (s ++ ['}'])).map Prod.fst := by
  rw [found?, hf, List.append_assoc, List.cons_append,
    bind_of_some (variableName_of_isWordName h (s ++ ['}']))]

/-- A word that begins with another one goes on with a word character. -/
theorem exists_of_after?_word {k u : List Char} (hk : ∀ c ∈ k, isWord c = true) (hr : EndsWord r)
    (h : after? k (w ++ r) = some u) : ∃ v, w = k ++ v ∧ u = v ++ r := by
  rcases List.append_eq_append_iff.1 (append_of_after? h) with ⟨v, rfl, rfl⟩ | ⟨v, rfl, rfl⟩
  · cases v with
    | nil => exact ⟨[], by simp, by simp⟩
    | cons c v =>
      have hc := hr c rfl
      rw [hk c (by simp)] at hc
      cases hc
  · exact ⟨v, rfl, rfl⟩

/-- A word that begins with another one is that one, or the rest is refused. -/
theorem refuses_after_word {α : Type} {k : String} {g : Reader α} (hg : RefusesWords g)
    (hk : ∀ c ∈ k.toList, isWord c = true) (hword : IsWordName word) (hne : word ≠ k)
    (hr : EndsWord r) : (exactly k.toList >>= fun _ ↦ blanks >>= fun _ ↦ g) (word.toList ++ r) =
      none := by
  cases h : after? k.toList (word.toList ++ r) with
  | none =>
    refine bind_of_none ?_
    rw [exactly, h]
    rfl
  | some u =>
    obtain ⟨v, hv, rfl⟩ := exists_of_after?_word hk hr h
    cases v with
    | nil => exact absurd (String.toList_inj.1 (by simpa using hv)) hne
    | cons c v =>
      have hc : isWord c = true := hword.2 c (by rw [hv]; simp)
      have hexactly : exactly k.toList (word.toList ++ r) = some ((), c :: v ++ r) := by
        rw [exactly, h]
        rfl
      have hblanks : blanks (c :: v ++ r) = some ((), c :: (v ++ r)) :=
        blanks_of_head fun d hd ↦ by
          rw [← Option.mem_some.1 hd]
          exact isBlank_eq_false_of_isWord hc
      rw [bind_of_some hexactly, bind_of_some hblanks]
      exact hg c _ hc

/-- A keyword that stands there is one of the words, and what follows it is left. -/
theorem exists_of_keyword {ws : List String} {k : String} {u : List Char}
    (hs : ∀ c ∈ s.head?, isBlank c = false) (h : keyword ws (' ' :: s) = some (k, u)) :
    k ∈ ws ∧ exactly k.toList s = some ((), u) := by
  have hblanks : blanks (' ' :: s) = some ((), s) := blanks_of_head hs
  rw [keyword, bind_of_some hblanks] at h
  obtain ⟨k', hmem, hk'⟩ := List.exists_of_findSome?_eq_some h
  obtain ⟨u', hu, he⟩ := Option.map_eq_some_iff.1 hk'
  obtain ⟨rfl, rfl⟩ := Prod.mk.inj he
  refine ⟨hmem, ?_⟩
  rw [exactly, hu]
  rfl

/-- The shape takes an argument by one of the words. -/
def Shape.Keyed {α : Type} (shape : Shape α) (ws : List String) : Prop :=
  ∃ g : String → String → Reader α, (∀ name k, RefusesWords (g name k)) ∧
    shape.read = variableName >>= fun name ↦ keyword ws >>= fun k ↦ blanks >>= fun _ ↦ g name k

/-- Under another word the shape finds nothing. -/
theorem Shape.Keyed.found?_eq_none {α : Type} {shape : Shape α} {ws : List String}
    (h : shape.Keyed ws) (hws : ∀ k ∈ ws, ∀ c ∈ k.toList, isWord c = true) (hname : IsWordName name)
    (hword : IsWordName word) (hnot : word ∉ ws) (hr : EndsWord r) :
    shape.found? (typedInside name word r) = none := by
  obtain ⟨g, hg, hread⟩ := h
  rw [typedInside, found?_typed hread hname, List.cons_append, List.append_assoc]
  have hend : EndsWord (r ++ ['}']) := by
    cases r with
    | nil => exact fun c hc ↦ by rw [← Option.mem_some.1 hc]; decide
    | cons c r => exact hr
  have hhead := hword.head_blank (r ++ ['}'])
  cases hk : keyword ws (' ' :: (word.toList ++ (r ++ ['}']))) with
  | none => rw [bind_of_none hk]; rfl
  | some x =>
    obtain ⟨k, u⟩ := x
    obtain ⟨hmem, hu⟩ := exists_of_keyword hhead hk
    have := refuses_after_word (hg name k) (hws k hmem) hword (fun he ↦ hnot (he ▸ hmem)) hend
    rw [bind_of_some hu] at this
    rw [bind_of_some hk, this]
    rfl

end Word

/-! ### Shapes under another word -/

theorem refusesWords_close {α : Type} (a : α) : RefusesWords (close >>= fun _ ↦ pure a) :=
  fun c s hc ↦ bind_of_none <| exactly_of_head fun d hd ↦ by
    rw [← Option.mem_some.1 hd]
    exact ne_of_isWord hc

theorem refusesWords_optionalPart {α β : Type} {r : Reader α} {f : Option α → Reader β}
    (hf : ∀ o, RefusesWords (f o)) : RefusesWords (optionalPart r >>= f) := by
  intro c s hc
  have hnone : optionalPart r (c :: s) = some (none, c :: s) := optionalPart_of_head fun d hd ↦ by
    rw [← Option.mem_some.1 hd]
    exact ne_of_isWord hc
  rw [bind_of_some hnone]
  exact hf none c s hc

theorem keyed_currencyArgument : currencyArgument.Keyed ["currency"] :=
  ⟨_, fun _ _ ↦ refusesWords_optionalPart fun _ ↦ refusesWords_close _, rfl⟩

theorem keyed_compactArgument : compactArgument.Keyed ["compactLong", "compact"] :=
  ⟨_, fun _ _ ↦ refusesWords_close _, rfl⟩

theorem keyed_relativeTimeArgument : relativeTimeArgument.Keyed ["relativeTime"] :=
  ⟨_, fun _ _ ↦ refusesWords_optionalPart fun _ ↦ refusesWords_close _, rfl⟩

theorem keyed_listArgument : listArgument.Keyed ["list"] :=
  ⟨_, fun _ _ ↦ refusesWords_optionalPart fun _ ↦ refusesWords_optionalPart fun _ ↦
    refusesWords_close _, rfl⟩

theorem keyed_shorthand : shorthand.Keyed ["p"] :=
  ⟨_, fun _ _ c s hc ↦ bind_of_none <| exactly_of_head fun d hd ↦ by
    rw [← Option.mem_some.1 hd]
    exact ne_of_isWord hc, rfl⟩

/-- Where no name of a variable begins, nothing is found. -/
theorem Shape.found?_pound {α : Type} {shape : Shape α} {f : String → Reader α}
    (hf : shape.read = variableName >>= f) (s : List Char) : shape.found? ('#' :: s) = none := by
  have hnone : variableName ('#' :: (s ++ ['}'])) = none := rfl
  rw [found?, hf, List.cons_append, bind_of_none hnone]
  rfl

section Custom

variable {names : List String} {name word : String} {r : List Char}

theorem refusesWords_customEnd (formatter : String) : RefusesWords (do
    let style ← optionally do
      comma
      span isStyleChar
    close
    let style := (style.map trim).filter fun t ↦ !t.isEmpty
    return Extension.custom formatter (style.map String.ofList)) := by
  intro c s hc
  have hnone : comma (c :: s) = none := exactly_of_head fun d hd ↦ by
    rw [← Option.mem_some.1 hd]
    exact ne_of_isWord hc
  have hoptionally : optionally (comma >>= fun _ ↦ span isStyleChar) (c :: s) =
      some (none, c :: s) := by
    rw [optionally, bind_of_none hnone]
  rw [bind_of_some hoptionally]
  exact refusesWords_close _ c s hc

/-- Only the formatter with the name that stands there takes the argument. -/
theorem firstOf_customRest (hnames : ∀ n ∈ names, IsWordName n) (hword : IsWordName word)
    (hr : EndsWord r) : firstOf (names.map customRest) (word.toList ++ r) =
      if word ∈ names then customRest word (word.toList ++ r) else none := by
  rw [firstOf]
  induction names with
  | nil => rfl
  | cons n names ih =>
    obtain ⟨hn, hrest⟩ := List.forall_mem_cons.1 hnames
    rw [List.map_cons, List.findSome?_cons]
    by_cases he : word = n
    · subst he
      rw [if_pos List.mem_cons_self]
      cases h : customRest word (word.toList ++ r) with
      | some x => rfl
      | none =>
        dsimp only
        rw [ih hrest, h, ite_self]
    · have hnone : customRest n (word.toList ++ r) = none :=
        refuses_after_word (refusesWords_customEnd n) hn.2 hword he hr
      have hmem : word ∈ n :: names ↔ word ∈ names := by simp [he]
      rw [hnone, ih hrest]
      simp only [hmem]

/-- No formatter takes an argument where white space stands, if their names begin with word
characters. -/
theorem firstOf_customRest_blank {c : Char}
    (hnames : ∀ n ∈ names, ∃ d u, n.toList = d :: u ∧ isWord d = true) (hc : isBlank c = true)
    (s : List Char) : firstOf (names.map customRest) (c :: s) = none := by
  refine List.findSome?_eq_none_iff.2 fun reader hreader ↦ ?_
  obtain ⟨n, hn, rfl⟩ := List.mem_map.1 hreader
  obtain ⟨d, u, hd, hword⟩ := hnames n hn
  have hne : d ≠ c := by
    rintro rfl
    rw [isBlank_eq_false_of_isWord hword] at hc
    cases hc
  have hafter : after? n.toList (c :: s) = none := by
    rw [hd]
    exact if_neg hne
  refine bind_of_none ?_
  rw [exactly, hafter]
  rfl

/-- What the formatters make of an argument, by the word for its type. -/
theorem found?_customArgument (hnames : ∀ n ∈ names, IsWordName n) (hname : IsWordName name)
    (hword : IsWordName word) (hr : EndsWord (r ++ ['}'])) :
    (customArgument names).found? (typedInside name word r) =
      if word ∈ names then
        (customRest word (word.toList ++ (r ++ ['}']))).map fun x ↦ ⟨name, x.1⟩
      else none := by
  have hlongest : ∀ n ∈ longestFirst names, IsWordName n :=
    fun n hn ↦ hnames n (mem_longestFirst.1 hn)
  have hafter : afterBlanks (firstOf ((longestFirst names).map customRest))
      (' ' :: (word.toList ++ (r ++ ['}']))) =
        firstOf ((longestFirst names).map customRest) (word.toList ++ (r ++ ['}'])) :=
    afterBlanks_append (b := [' '])
      (fun _ s hc ↦ firstOf_customRest_blank (fun n hn ↦ (hlongest n hn).exists_cons) hc s)
      (by decide) (hword.head_blank (r ++ ['}']))
  rw [firstOf_customRest hlongest hword hr] at hafter
  simp only [mem_longestFirst] at hafter
  have hread : (customArgument names).read = variableName >>= fun name ↦
      afterBlanks (firstOf ((longestFirst names).map customRest)) >>= fun extension ↦
        pure ⟨name, extension⟩ := rfl
  rw [typedInside, Shape.found?_typed hread hname, List.cons_append, List.append_assoc]
  by_cases hmem : word ∈ names
  · rw [if_pos hmem] at hafter ⊢
    cases hx : customRest word (word.toList ++ (r ++ ['}'])) with
    | none =>
      rw [bind_of_none (hafter.trans hx)]
      rfl
    | some x =>
      rw [bind_of_some (hafter.trans hx)]
      rfl
  · rw [if_neg hmem] at hafter ⊢
    rw [bind_of_none hafter]
    rfl

end Custom

/-! ### Calls -/

section Calls

variable {names : List String} {name word : String} {r : List Char}

theorem close_close : close ['}'] = some ((), []) :=
  rfl

theorem found?_currencyArgument {code : Option String} (hname : IsWordName name)
    (hcode : CallWellFormed names (.currency code)) :
    currencyArgument.found? (typedInside name "currency" (Call.detail code)) =
      some ⟨name, (Call.currency code).extension⟩ := by
  rw [typedInside, Shape.found?_typed (f := fun _ ↦ _) rfl hname]
  cases code with
  | none => rfl
  | some s =>
    obtain ⟨hlength, hletters⟩ := hcode s rfl
    have htake : (s.toList ++ ['}']).take 3 = s.toList := List.take_left' hlength
    have hdrop : (s.toList ++ ['}']).drop 3 = ['}'] := List.drop_left' hlength
    have hcode : letters 3 (s.toList ++ ['}']) = some (s.toList, ['}']) := by
      rw [letters, htake, hdrop, if_pos ⟨hlength, List.all_eq_true.2 hletters⟩]
    have hkeyword : keyword ["currency"]
        (' ' :: ("currency".toList ++ Call.detail (some s)) ++ ['}']) =
          some ("currency", ',' :: ' ' :: (s.toList ++ ['}'])) := rfl
    have hblanks : blanks (',' :: ' ' :: (s.toList ++ ['}'])) =
        some ((), ',' :: ' ' :: (s.toList ++ ['}'])) := rfl
    have hhead : ∀ c ∈ (s.toList ++ ['}']).head?, isBlank c = false := by
      have hs : IsWordName s :=
        ⟨List.ne_nil_of_length_pos (by omega), fun c hc ↦ isWord_of_isLetter (hletters c hc)⟩
      exact hs.head_blank ['}']
    have hpart := optionalPart_of_some hcode hhead (by decide)
    rw [bind_of_some hkeyword, bind_of_some hblanks, bind_of_some hpart, bind_of_some close_close]
    change some (⟨name, .currency (upper (String.ofList s.toList))⟩ : ExtensionArgument) = _
    rw [String.ofList_toList]
    rfl

theorem found?_compactArgument (hname : IsWordName name) (display : CompactDisplay) :
    compactArgument.found? (typedInside name (Call.compact display).word []) =
      some ⟨name, .compact display⟩ := by
  rw [typedInside, Shape.found?_typed (f := fun _ ↦ _) rfl hname]
  cases display <;> rfl

theorem found?_relativeTimeArgument {style : Option String} (hname : IsWordName name)
    (hstyle : CallWellFormed names (.relativeTime style)) :
    relativeTimeArgument.found? (typedInside name "relativeTime" (Call.detail style)) =
      some ⟨name, (Call.relativeTime style).extension⟩ := by
  rw [typedInside, Shape.found?_typed (f := fun _ ↦ _) rfl hname]
  cases style with
  | none => rfl
  | some s =>
    have hmem : s = "long" ∨ s = "short" ∨ s = "narrow" := by
      simpa [lengthWords] using hstyle s rfl
    rcases hmem with rfl | rfl | rfl <;> rfl

theorem found?_listArgument {kind length : Option String} (hname : IsWordName name)
    (h : CallWellFormed names (.list kind length)) :
    listArgument.found? (typedInside name "list" (Call.list kind length).details) =
      some ⟨name, (Call.list kind length).extension⟩ := by
  obtain ⟨hkind, hlength⟩ := h
  have hkind : kind = none ∨ kind = some "conjunction" ∨ kind = some "disjunction" ∨
      kind = some "unit" := by
    cases kind with
    | none => simp
    | some s => simpa using hkind s rfl
  have hlength : length = none ∨ length = some "long" ∨ length = some "short" ∨
      length = some "narrow" := by
    cases length with
    | none => simp
    | some s => simpa [lengthWords] using hlength s rfl
  rw [typedInside, Shape.found?_typed (f := fun _ ↦ _) rfl hname]
  rcases hkind with rfl | rfl | rfl | rfl <;> rcases hlength with rfl | rfl | rfl | rfl <;> rfl

theorem trimStart_space (s : List Char) : trimStart (' ' :: s) = trimStart s :=
  rfl

theorem trim_space (s : List Char) : trim (' ' :: s) = trim s := by
  rw [trim, trimStart_space, trim]

theorem span_append {p : Char → Bool} {s t : List Char} (hs : ∀ c ∈ s, p c = true)
    (ht : ∀ c ∈ t.head?, p c = false) : span p (s ++ t) = some (s, t) := by
  rw [span, takeWhile_append_stop hs ht, dropWhile_append_stop hs ht]

/-- A formatter is called with its style. -/
theorem customRest_detail {style : Option String} (hstyle : ∀ s ∈ style, BraceFree s.toList) :
    customRest word (word.toList ++ (Call.detail style ++ ['}'])) =
      some (.custom word (Call.styleOf style), []) := by
  have hword := exactly_append word.toList (Call.detail style ++ ['}'])
  cases style with
  | none =>
    rw [customRest, bind_of_some hword]
    rfl
  | some s =>
    have hspan : span isStyleChar (' ' :: s.toList ++ ['}']) = some (' ' :: s.toList, ['}']) := by
      refine span_append (List.forall_mem_cons.2 ⟨rfl, fun c hc ↦ ?_⟩) (by decide)
      have := hstyle s rfl c hc
      simpa [isStyleChar] using this
    have hcomma : comma (',' :: ' ' :: s.toList ++ ['}']) = some ((), ' ' :: s.toList ++ ['}']) :=
      rfl
    have hpart : optionally (comma >>= fun _ ↦ span isStyleChar)
        (',' :: ' ' :: s.toList ++ ['}']) = some (some (' ' :: s.toList), ['}']) := by
      rw [optionally, bind_of_some hcomma, hspan]
    have hblanks : blanks (',' :: ' ' :: s.toList ++ ['}']) =
      some ((), ',' :: ' ' :: s.toList ++ ['}']) := rfl
    rw [customRest, bind_of_some hword, Call.detail, bind_of_some hblanks, bind_of_some hpart,
      bind_of_some close_close]
    rw [Call.styleOf, Option.map_some, Option.map_some, trim_space]
    rfl

end Calls

/-! ### What all passes find -/

theorem found?_customArgument_nil (v : List Char) : (customArgument []).found? v = none := by
  have hnil : longestFirst [] = [] := by simp [longestFirst]
  have hrefused (s : List Char) : afterBlanks (firstOf ((longestFirst []).map customRest)) s =
      none := by
    rw [hnil]
    induction s with
    | nil => rfl
    | cons c s ih =>
      rw [afterBlanks, ih]
      exact ite_self none
  rw [Shape.found?, Option.map_eq_none_iff]
  cases hv : variableName (v ++ ['}']) with
  | none => exact bind_of_none hv
  | some x => exact (bind_of_some hv).trans (bind_of_none (hrefused x.2))

theorem firstFound_passes (names : List String) (v : List Char) : firstFound (passes names) v =
    ((customArgument names).found? v).or ((currencyArgument.found? v).or
      ((compactArgument.found? v).or ((relativeTimeArgument.found? v).or
        (listArgument.found? v)))) := by
  have hnone : firstFound [] v = none := rfl
  cases names with
  | nil =>
    rw [found?_customArgument_nil, Option.none_or, passes, List.isEmpty_nil, if_pos rfl,
      List.nil_append]
    simp only [firstFound_cons, hnone, Option.or_none]
  | cons n names =>
    rw [passes, List.isEmpty_cons, if_neg Bool.false_ne_true, List.singleton_append]
    simp only [firstFound_cons, hnone, Option.or_none]

section Passes

variable {names : List String} {name word : String} {r : List Char} {c : Call}

theorem EndsWord.append_close (hr : EndsWord r) : EndsWord (r ++ ['}']) := by
  cases r with
  | nil => exact fun c hc ↦ by rw [← Option.mem_some.1 hc]; decide
  | cons c r => exact hr

theorem IsDetail.endsWord (hr : IsDetail r) : EndsWord r := by
  intro c hc
  rw [hr c hc]
  decide

theorem isDetail_comma (s : List Char) : IsDetail (',' :: s) :=
  fun _ hc ↦ (Option.mem_some.1 hc).symm

theorem isDetail_details (c : Call) : IsDetail c.details := by
  have hdetail (o : Option String) (s : List Char) (hs : IsDetail s) :
      IsDetail (Call.detail o ++ s) := by
    cases o with
    | none => exact hs
    | some w => exact isDetail_comma _
  have hnil : IsDetail [] := by simp [IsDetail]
  cases c with
  | currency code => simpa [Call.details] using hdetail code [] hnil
  | compact display => exact hnil
  | relativeTime style => simpa [Call.details] using hdetail style [] hnil
  | list kind length => exact hdetail kind _ (by simpa using hdetail length [] hnil)
  | custom formatter style => simpa [Call.details] using hdetail style [] hnil

theorem isDetail_styleDetail (o : Option (List Char)) : IsDetail (styleDetail o) := by
  cases o with
  | none => simp [styleDetail, IsDetail]
  | some s => exact isDetail_comma _

/-- Without a formatter of the name, the first pass leaves the argument. -/
theorem found?_customArgument_of_notMem (hnames : AreFormatters names) (hname : IsWordName name)
    (hword : IsWordName word) (hnot : word ∉ names) (hr : EndsWord r) :
    (customArgument names).found? (typedInside name word r) = none := by
  rw [found?_customArgument (fun n hn ↦ (hnames n hn).1) hname hword hr.append_close, if_neg hnot]

/-- No pass takes an argument under a word that means nothing to it. -/
theorem firstFound_of_notMem (hnames : AreFormatters names) (hname : IsWordName name)
    (hword : IsWordName word) (hnot : word ∉ names)
    (hother : word ∉ ["currency", "compactLong", "compact", "relativeTime", "list"])
    (hr : EndsWord r) : firstFound (passes names) (typedInside name word r) = none := by
  simp only [List.mem_cons, List.not_mem_nil, or_false, not_or] at hother
  obtain ⟨hcurrency, hlong, hshort, hrelative, hlist⟩ := hother
  rw [firstFound_passes, found?_customArgument_of_notMem hnames hname hword hnot hr,
    keyed_currencyArgument.found?_eq_none (by decide) hname hword (by simp [hcurrency]) hr,
    keyed_compactArgument.found?_eq_none (by decide) hname hword (by simp [hlong, hshort]) hr,
    keyed_relativeTimeArgument.found?_eq_none (by decide) hname hword (by simp [hrelative]) hr,
    keyed_listArgument.found?_eq_none (by decide) hname hword (by simp [hlist]) hr]
  rfl

/-- A call is taken by the pass for it, and means there what it says. -/
theorem firstFound_call (hnames : AreFormatters names) (hname : IsWordName name)
    (hc : CallWellFormed names c) :
    firstFound (passes names) (typedInside name c.word c.details) = some ⟨name, c.extension⟩ := by
  have hr := (isDetail_details c).endsWord
  have hcustom {word : String} {r : List Char} (hword : IsWordName word)
      (hreserved : word ∈ Roster.reservedNames) (hr : EndsWord r) :
      (customArgument names).found? (typedInside name word r) = none :=
    found?_customArgument_of_notMem hnames hname hword (fun hmem ↦ (hnames _ hmem).2 hreserved) hr
  rw [firstFound_passes]
  cases c with
  | custom formatter style =>
    obtain ⟨hmem, hstyle⟩ := hc
    dsimp only [Call.word, Call.details] at hr ⊢
    rw [found?_customArgument (fun n hn ↦ (hnames n hn).1) hname (hnames _ hmem).1 hr.append_close,
      if_pos hmem, customRest_detail hstyle]
    rfl
  | currency code =>
    dsimp only [Call.word, Call.details] at hr ⊢
    rw [hcustom (by decide) (by decide) hr, found?_currencyArgument hname hc]
    rfl
  | compact display =>
    have hfound := found?_compactArgument hname display
    have hword := isWordName_word hnames hc
    have hreserved : (Call.compact display).word ∈ Roster.reservedNames := by
      cases display <;> decide
    have hcurrency : (Call.compact display).word ∉ ["currency"] := by cases display <;> decide
    rw [hcustom hword hreserved hr,
      keyed_currencyArgument.found?_eq_none (by decide) hname hword hcurrency hr]
    dsimp only [Call.details]
    rw [hfound]
    rfl
  | relativeTime style =>
    dsimp only [Call.word, Call.details] at hr ⊢
    rw [hcustom (by decide) (by decide) hr,
      keyed_currencyArgument.found?_eq_none (by decide) hname (by decide) (by decide) hr,
      keyed_compactArgument.found?_eq_none (by decide) hname (by decide) (by decide) hr,
      found?_relativeTimeArgument hname hc]
    rfl
  | list kind length =>
    have hfound := found?_listArgument hname hc
    dsimp only [Call.word] at hr ⊢
    rw [hcustom (by decide) (by decide) hr,
      keyed_currencyArgument.found?_eq_none (by decide) hname (by decide) (by decide) hr,
      keyed_compactArgument.found?_eq_none (by decide) hname (by decide) (by decide) hr,
      keyed_relativeTimeArgument.found?_eq_none (by decide) hname (by decide) (by decide) hr,
      hfound]
    rfl

end Passes

/-! ### Plurals in short -/

section Shorthand

variable {names : List String} {f : PluralForms}

theorem isFormChar_of_isForm {s : String} (h : IsForm s) : ∀ c ∈ s.toList, isFormChar c = true := by
  intro c hc
  have hbar : c ≠ '|' := fun he ↦ h.2 (he ▸ hc)
  have hquotable := (h.1 c hc).2
  simp only [Grammar.Quotable, not_or] at hquotable
  simp [isFormChar, hbar, hquotable]

theorem form_append {s t : List Char} (hs : ∀ c ∈ s, isFormChar c = true)
    (ht : ∀ c ∈ t.head?, isFormChar c = false) :
    form (s ++ t) = some (String.ofList (trim s), t) := by
  rw [form, bind_of_some (span_append hs ht)]
  rfl

/-- A plural in short is found with its forms trimmed. -/
theorem found?_shorthand (hname : IsWordName f.name)
    (hzero : ∀ s ∈ f.zero, ∀ c ∈ s.toList, isFormChar c = true)
    (hone : ∀ c ∈ f.one.toList, isFormChar c = true)
    (hother : ∀ c ∈ f.other.toList, isFormChar c = true) :
    shorthand.found? f.text = some f.trimmed := by
  have hkeyword (s : List Char) :
      keyword ["p"] (" p, ".toList ++ s) = some ("p", ", ".toList ++ s) := rfl
  have hblanks (s : List Char) : blanks (", ".toList ++ s) = some ((), ", ".toList ++ s) := rfl
  have hcomma (s : List Char) : comma (", ".toList ++ s) = some ((), ' ' :: s) := rfl
  have hbar (s : List Char) : exactly ['|'] ('|' :: s) = some ((), s) := rfl
  have hstop {t : List Char} : ∀ c ∈ ('|' :: t).head?, isFormChar c = false := by
    intro c hc
    rw [← Option.mem_some.1 hc]
    rfl
  -- the first form has the space after the comma, which does not count
  have hspace {s : List Char} (hs : ∀ c ∈ s, isFormChar c = true) (t : List Char) :
      form (' ' :: (s ++ '|' :: t)) = some (String.ofList (trim s), '|' :: t) := by
    rw [← trim_space s, ← List.cons_append]
    exact form_append (List.forall_mem_cons.2 ⟨rfl, hs⟩) hstop
  cases hz : f.zero with
  | none =>
    have htext : f.text = f.name.toList ++
        ',' :: (" p, ".toList ++ (f.one.toList ++ '|' :: f.other.toList)) := by
      simp [PluralForms.text, hz]
    have hthird : optionally (exactly ['|'] >>= fun _ ↦ form) ['}'] = some (none, ['}']) := rfl
    rw [htext, Shape.found?_typed (f := fun _ ↦ _) rfl hname, List.append_assoc, List.append_assoc,
      List.cons_append, bind_of_some (hkeyword _), bind_of_some (hblanks _),
      bind_of_some (hcomma _), bind_of_some (hspace hone _),
      bind_of_some (hbar _), bind_of_some (form_append hother (by decide)), bind_of_some hthird,
      bind_of_some close_close, PluralForms.trimmed, hz]
    rfl
  | some z =>
    have hzero := hzero z hz
    have htext : f.text = f.name.toList ++ ',' :: (" p, ".toList ++
        (z.toList ++ '|' :: (f.one.toList ++ '|' :: f.other.toList))) := by
      simp [PluralForms.text, hz]
    have hthird : optionally (exactly ['|'] >>= fun _ ↦ form) ('|' :: (f.other.toList ++ ['}'])) =
        some (some (String.ofList (trim f.other.toList)), ['}']) := by
      rw [optionally, bind_of_some (hbar _), form_append hother (by decide)]
    rw [htext, Shape.found?_typed (f := fun _ ↦ _) rfl hname, List.append_assoc, List.append_assoc,
      List.cons_append, List.append_assoc, List.cons_append, bind_of_some (hkeyword _),
      bind_of_some (hblanks _), bind_of_some (hcomma _), bind_of_some (hspace hzero _),
      bind_of_some (hbar _), bind_of_some (form_append hone hstop), bind_of_some hthird,
      bind_of_some close_close, PluralForms.trimmed, hz]
    rfl

end Shorthand

end Phrasebook.Template
