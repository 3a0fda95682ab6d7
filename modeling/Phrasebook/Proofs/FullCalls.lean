import Phrasebook.Proofs.ClearTemplates
import Phrasebook.Proofs.PhraseGroups
import Phrasebook.Proofs.TypedArguments

/-!
Arguments beyond the message format, written in full.

What a shape finds can be written with all of its details (`ExtensionArgument.inside`): the code of
a currency in upper case, the kind and the length of a list even if they are the usual ones, the
style of a formatter without white space around it. Between braces this is found again as the same
argument (`firstFound_inside`).
-/

set_option autoImplicit false

namespace Phrasebook

open Phrase Template Text

/-- An extension with all its details, as it is written. A kind that the library does not know is
written like the name of a formatter. -/
def Extension.call : Extension → Call
  | .custom formatter style => .custom formatter style
  | .currency code => .currency (some code)
  | .compact display => .compact display
  | .relativeTime style => .relativeTime (some style)
  | .list kind length => .list (some kind) (some length)
  | .unknown kind => .custom kind none

/-- The kind of placeholder that an extension gets. -/
def Extension.kind? : Extension → Option PlaceholderKind
  | .custom _ _ => some .custom
  | .currency _ => some .currency
  | .compact _ => some .compact
  | .relativeTime _ => some .relativeTime
  | .list _ _ => some .list
  | .unknown _ => none

/-- An argument written in full, without its braces. -/
def ExtensionArgument.inside (a : ExtensionArgument) : List Char :=
  typedInside a.name a.extension.call.word a.extension.call.details

namespace Template

/-- An argument of a kind that means what it says when it is written in full. -/
structure Faithful (names : List String) (kind : PlaceholderKind) (a : ExtensionArgument) :
    Prop where
  name : IsWordName a.name
  kind : a.extension.kind? = some kind
  wellFormed : CallWellFormed names a.extension.call
  extension : a.extension.call.extension = a.extension

/-! ### Letters -/

theorem isLetter_toUpper {c : Char} (h : isLetter c = true) :
    isLetter c.toUpper = true ∧ upperChar c = [c.toUpper] := by
  have hascii : c.toNat < 0x80 := by
    rw [isLetter, Bool.or_eq_true] at h
    rcases h with h | h
    · exact Nat.lt_of_le_of_lt (UInt32.le_iff_toNat_le.1 (of_decide_eq_true h).2) (by decide)
    · exact Nat.lt_of_le_of_lt
        (UInt32.le_iff_toNat_le.1 (of_decide_eq_true (Bool.and_eq_true_iff.1 h).2)) (by decide)
  have hall : ∀ n < 0x80, isLetter (Char.ofNat n) = true →
      isLetter (Char.ofNat n).toUpper = true := by
    decide +kernel
  have := hall c.toNat hascii
  rw [Char.ofNat_toNat] at this
  exact ⟨this h, if_pos hascii⟩

/-- The code of a currency stays one in upper case. -/
theorem upper_letters {w : List Char} (h : ∀ c ∈ w, isLetter c = true) :
    (upper (String.ofList w)).toList = w.map Char.toUpper ∧
      ∀ c ∈ (upper (String.ofList w)).toList, isLetter c = true := by
  have hlist : (upper (String.ofList w)).toList = w.map Char.toUpper := by
    rw [upper, String.toList_ofList, String.toList_ofList, List.map_eq_flatMap]
    exact List.flatMap_congr fun c hc ↦ (isLetter_toUpper (h c hc)).2
  refine ⟨hlist, fun c hc ↦ ?_⟩
  rw [hlist] at hc
  obtain ⟨d, hd, rfl⟩ := List.mem_map.1 hc
  exact (isLetter_toUpper (h d hd)).1

/-! ### What readers find -/

namespace Reader

variable {α β : Type} {p : Char → Prop} {P : α → Prop} {r : Reader α}

theorem finds_wordName : Finds p IsWordName variableName :=
  fun _ _ _ _ h ↦ (exists_of_variableName h).1

theorem finds_letters (count : Nat) :
    Finds p (fun w ↦ w.length = count ∧ ∀ c ∈ w, isLetter c = true) (letters count) := by
  intro s w t _ h
  unfold letters at h
  split at h
  · rename_i htake
    cases h
    exact ⟨htake.1, List.all_eq_true.1 htake.2⟩
  · cases h

theorem finds_oneOf (ws : List String) : Finds p (· ∈ ws) (oneOf ws) := by
  intro s w t _ h
  obtain ⟨w', hmem, hw⟩ := List.exists_of_findSome?_eq_some h
  obtain ⟨_, -, he⟩ := Option.map_eq_some_iff.1 hw
  cases he
  exact hmem

theorem finds_optionalPart (h : Finds p P r) (hcuts : r.Cuts) :
    Finds p (fun o ↦ ∀ a ∈ o, P a) (optionalPart r) :=
  finds_optionally <| finds_bind (finds_any _) (cuts_exactly _) fun _ _ ↦
    finds_bind (finds_any _) cuts_blanks fun _ _ ↦ finds_bind h hcuts fun _ ha ↦
    finds_bind (finds_any _) cuts_blanks fun _ _ ↦ finds_pure ha

end Reader

open Reader

section Faithful

variable {p : Char → Prop} {names : List String}

theorem faithful_currencyArgument :
    Finds p (Faithful names .currency) currencyArgument.read := by
  refine finds_bind finds_wordName cuts_variableName fun name hname ↦
    finds_bind (finds_any _) (cuts_keyword _) fun _ _ ↦
    finds_bind (finds_any _) cuts_blanks fun _ _ ↦
    finds_bind (finds_optionalPart (finds_letters 3) (cuts_letters 3))
      (cuts_optionalPart (cuts_letters 3)) fun code hcode ↦
    finds_bind (finds_any _) (cuts_exactly _) fun _ _ ↦ finds_pure ?_
  let full := (code.map fun c ↦ upper (String.ofList c)).getD defaultCurrency
  have hfull : (full.toList.length = 3 ∧ ∀ c ∈ full.toList, isLetter c = true) ∧
      upper full = full := by
    cases code with
    | none => exact ⟨by decide, by decide +kernel⟩
    | some w =>
      obtain ⟨hlength, hletters⟩ := hcode w rfl
      obtain ⟨hlist, hupper⟩ := upper_letters hletters
      have hthree : (upper (String.ofList w)).toList.length = 3 := by
        rw [hlist, List.length_map, hlength]
      exact ⟨⟨hthree, hupper⟩, upper_upper _⟩
  refine ⟨hname, rfl, fun s hs ↦ ?_, congrArg Extension.currency hfull.2⟩
  rw [← Option.some.inj hs]
  exact hfull.1

theorem faithful_compactArgument : Finds p (Faithful names .compact) compactArgument.read :=
  finds_bind finds_wordName cuts_variableName fun _ hname ↦
    finds_bind (finds_any _) (cuts_keyword _) fun _ _ ↦
    finds_bind (finds_any _) cuts_blanks fun _ _ ↦
    finds_bind (finds_any _) (cuts_exactly _) fun _ _ ↦ finds_pure ⟨hname, rfl, trivial, rfl⟩

theorem mem_getD {o : Option String} {ws : List String} {w : String} (h : ∀ s ∈ o, s ∈ ws)
    (hw : w ∈ ws) : ∀ s ∈ some (o.getD w), s ∈ ws := by
  intro s hs
  rw [← Option.some.inj hs]
  cases o with
  | none => exact hw
  | some s => exact h s rfl

theorem faithful_relativeTimeArgument :
    Finds p (Faithful names .relativeTime) relativeTimeArgument.read :=
  finds_bind finds_wordName cuts_variableName fun _ hname ↦
    finds_bind (finds_any _) (cuts_keyword _) fun _ _ ↦
    finds_bind (finds_any _) cuts_blanks fun _ _ ↦
    finds_bind (finds_optionalPart (finds_oneOf _) (cuts_oneOf _))
      (cuts_optionalPart (cuts_oneOf _)) fun _ hstyle ↦
    finds_bind (finds_any _) (cuts_exactly _) fun _ _ ↦
    finds_pure ⟨hname, rfl, mem_getD hstyle (by decide), rfl⟩

theorem faithful_listArgument : Finds p (Faithful names .list) listArgument.read :=
  finds_bind finds_wordName cuts_variableName fun _ hname ↦
    finds_bind (finds_any _) (cuts_keyword _) fun _ _ ↦
    finds_bind (finds_any _) cuts_blanks fun _ _ ↦
    finds_bind (finds_optionalPart (finds_oneOf _) (cuts_oneOf _))
      (cuts_optionalPart (cuts_oneOf _)) fun _ hkind ↦
    finds_bind (finds_optionalPart (finds_oneOf _) (cuts_oneOf _))
      (cuts_optionalPart (cuts_oneOf _)) fun _ hlength ↦
    finds_bind (finds_any _) (cuts_exactly _) fun _ _ ↦
    finds_pure ⟨hname, rfl, ⟨mem_getD hkind (by decide), mem_getD hlength (by decide)⟩, rfl⟩

theorem finds_span_class (q : Char → Bool) : Finds p (fun w ↦ ∀ c ∈ w, q c = true) (span q) := by
  intro s w t _ h
  cases h
  exact fun _ hc ↦ List.mem_takeWhile_imp hc

/-- A style without white space around it is one that is found. -/
theorem styleOf_trimmed (o : Option (List Char)) :
    Call.styleOf (((o.map trim).filter fun t ↦ !t.isEmpty).map String.ofList) =
      ((o.map trim).filter fun t ↦ !t.isEmpty).map String.ofList := by
  cases o with
  | none => rfl
  | some w =>
    cases hw : (trim w).isEmpty <;> simp [Option.filter, hw, Call.styleOf, trim_trim]

theorem faithful_customRest {formatter : String} (h : formatter ∈ names) :
    Finds p (fun e ↦ e.kind? = some .custom ∧ CallWellFormed names e.call ∧ e.call.extension = e)
      (customRest formatter) := by
  refine finds_bind (finds_any _) (cuts_exactly _) fun _ _ ↦
    finds_bind (finds_any _) cuts_blanks fun _ _ ↦
    finds_bind (finds_optionally (finds_bind (finds_any _) (cuts_exactly _) fun _ _ ↦
      finds_span_class isStyleChar)) (cuts_optionally (cuts_bind (cuts_exactly _) fun _ ↦
        cuts_span _)) fun style hstyle ↦
    finds_bind (finds_any _) (cuts_exactly _) fun _ _ ↦
    finds_pure ⟨rfl, ⟨h, fun s hs ↦ ?_⟩, congrArg (Extension.custom formatter) (styleOf_trimmed _)⟩
  obtain ⟨t, ht, rfl⟩ := Option.map_eq_some_iff.1 hs
  obtain ⟨w, hw, rfl⟩ := Option.map_eq_some_iff.1 (Option.filter_eq_some_iff.1 ht).1
  rw [String.toList_ofList]
  intro c hc
  have hchar := hstyle w hw c (Grammar.mem_of_mem_trim hc)
  simpa [isStyleChar] using hchar

theorem faithful_customArgument (names : List String) :
    Finds p (Faithful names .custom) (customArgument names).read := by
  have hrest : ∀ r ∈ (longestFirst names).map customRest, Finds p (fun e ↦
      e.kind? = some .custom ∧ CallWellFormed names e.call ∧ e.call.extension = e) r := by
    intro r hr
    obtain ⟨name, hname, rfl⟩ := List.mem_map.1 hr
    exact faithful_customRest (mem_longestFirst.1 hname)
  refine finds_bind finds_wordName cuts_variableName fun _ hname ↦
    finds_bind (finds_afterBlanks (finds_firstOf hrest)) (cuts_afterBlanks (cuts_firstOf ?_))
      fun _ hextension ↦ finds_pure ⟨hname, hextension.1, hextension.2.1, hextension.2.2⟩
  intro r hr
  obtain ⟨name, -, rfl⟩ := List.mem_map.1 hr
  exact cuts_customRest name

end Faithful

section Passes

variable {names : List String} {v : List Char} {a : ExtensionArgument}

/-- What a pass finds is of its kind and can be written in full. -/
theorem faithful_of_found? {pass : Pass} (hpass : pass ∈ passes names)
    (h : pass.2.found? v = some a) : Faithful names pass.1 a := by
  have hfinds : Finds (fun _ ↦ True) (Faithful names pass.1) pass.2.read := by
    rcases List.mem_append.1 hpass with hpass | hpass
    · split at hpass
      · cases hpass
      · rw [List.mem_singleton.1 hpass]
        exact faithful_customArgument names
    · simp only [List.mem_cons, List.not_mem_nil, or_false] at hpass
      rcases hpass with rfl | rfl | rfl | rfl
      · exact faithful_currencyArgument
      · exact faithful_compactArgument
      · exact faithful_relativeTimeArgument
      · exact faithful_listArgument
  obtain ⟨⟨a, t⟩, hr, rfl⟩ := Option.map_eq_some_iff.1 h
  exact hfinds _ a t (fun _ _ ↦ trivial) hr

theorem exists_of_firstFound (h : firstFound (passes names) v = some a) :
    ∃ kind, Faithful names kind a := by
  obtain ⟨pass, hpass, hfound⟩ := List.exists_of_findSome?_eq_some h
  exact ⟨pass.1, faithful_of_found? hpass hfound⟩

theorem Faithful.braceFree {kind : PlaceholderKind} (hnames : AreFormatters names)
    (h : Faithful names kind a) : BraceFree a.inside :=
  braceFree_typedInside h.name (isWordName_word hnames h.wellFormed)
    (braceFree_details h.wellFormed)

/-- Written in full, an argument is found as it was. -/
theorem Faithful.firstFound_inside {kind : PlaceholderKind} (hnames : AreFormatters names)
    (h : Faithful names kind a) : firstFound (passes names) a.inside = some a := by
  rw [ExtensionArgument.inside, firstFound_call hnames h.name h.wellFormed, h.extension]

end Passes

end Template

end Phrasebook
