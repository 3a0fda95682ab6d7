import Phrasebook.Format.Date
import Phrasebook.Format.List
import Phrasebook.Format.Number
import Phrasebook.Format.Relative
import Phrasebook.Proofs.NumberFaults

/-!
How formats fail.

Every fault of a format is one after which the plain text of the value can be shown, but for two:
the arithmetic of a number may leave the range of decimal numbers, and the present may lie outside
the calendar for the offset of a moment.
-/

set_option autoImplicit false

namespace Phrasebook

open Calendar

namespace Format

variable {α : Type} (book : LocaleBook)

/-- After every fault of the computation the plain text can be shown. -/
abbrev Recovers (x : Except FormatFault α) : Prop :=
  FailsOnly (fun f ↦ f.isRecoverable = true) x

/-- The computation has no result, and the plain text can be shown. -/
def GivesUp (x : Except FormatFault α) : Prop :=
  ∃ f, x = .error f ∧ f.isRecoverable = true

theorem GivesUp.bind {β : Type} {x : Except FormatFault α} {f : α → Except FormatFault β}
    (hx : Recovers x) (hf : ∀ a, GivesUp (f a)) : GivesUp (x >>= f) := by
  cases x with
  | error e => exact ⟨e, rfl, hx e rfl⟩
  | ok a => exact hf a

theorem failsOnly_need {kind : FormatFault → Prop} {fault : FormatFault} (h : kind fault)
    (x : Option α) : FailsOnly kind (need fault x) := by
  cases x with
  | none => exact .error h
  | some a => exact .ok a

/-- A computation whose faults are all turned into faults of a kind. -/
theorem failsOnly_mapError {ε : Type} {kind : FormatFault → Prop} {x : Except ε α}
    {f : ε → FormatFault} (h : ∀ e, kind (f e)) : FailsOnly kind (x.mapError f) := by
  have hx : FailsOnly (fun _ ↦ True) x := fun _ _ ↦ trivial
  exact hx.mapError fun e _ ↦ h e

theorem recovers_dataOf (tag : String) : Recovers (dataOf tag book) :=
  .map _ (failsOnly_need (by rfl) _)

/-! ### Dates and times -/

theorem recovers_weekOfYear (r : WeekRule) (d : Date) : Recovers (weekOfYear r d) := by
  unfold weekOfYear
  refine .ite (.bind (failsOnly_need (by rfl) _) fun _ _ ↦ .ok _) (.ite ?_ (.ok _))
  exact .bind (.map _ (failsOnly_need (by rfl) _)) fun _ _ ↦ .ok _

theorem recovers_writeYear (names : CalendarNames) (d : Date) (letter : Char) (n : Nat) :
    Recovers (writeYear names d letter n) := by
  unfold writeYear
  dsimp only
  refine .ite (.ok _) (.ite ?_ (.ite ?_ (.ok _)))
  · exact .bind (recovers_weekOfYear _ d) fun _ _ ↦ .ok _
  · exact .bind (recovers_weekOfYear _ d) fun _ _ ↦ .ok _

theorem recovers_nameAt (table : NameTable) (context : NameContext) (width : NameWidth) (i : Nat) :
    Recovers (nameAt table context width i) :=
  .bind (failsOnly_need (by rfl) _) fun _ _ ↦ .bind (failsOnly_need (by rfl) _) fun _ _ ↦ .ok _

theorem recovers_writePeriod (names : CalendarNames) (context : NameContext) (n : Nat)
    (period : String) : Recovers (writePeriod names context n period) := by
  have hname (width : NameWidth) : Recovers (do
      return (← need .missingData (names.dayPeriods.lookup (context, width))).lookup period) :=
    .bind (failsOnly_need (by rfl) _) fun _ _ ↦ .ok _
  unfold writePeriod
  dsimp only
  refine .bind (hname _) fun a _ ↦ ?_
  cases a with
  | some s => exact .ok _
  | none =>
    refine .bind (hname _) fun a _ ↦ ?_
    cases a with
    | some s => exact .ok _
    | none =>
      refine .bind (hname _) fun a _ ↦ ?_
      cases a with
      | some s => exact .ok _
      | none =>
        exact .bind (hname _) fun _ _ ↦ .bind (failsOnly_need (by rfl) _) fun _ _ ↦ .ok _

theorem recovers_writeFraction (t : TimeOfDay) (n : Nat) : Recovers (writeFraction t n) := by
  unfold writeFraction
  dsimp only
  split
  · exact .error (by rfl)
  · exact .bind (failsOnly_need (by rfl) _) fun _ _ ↦ .ok _

/-- A part of a date or time is written, or the date, the time or a name is not there. -/
theorem recovers_writeField (names : CalendarNames) (o : Occasion) (letter : Char) (n : Nat) :
    Recovers (writeField names o letter n) := by
  have hdate {β : Type} {f : Date → Except FormatFault β} (hf : ∀ d, Recovers (f d)) :
      Recovers (o.theDate >>= f) :=
    .bind (failsOnly_need (by rfl) _) fun d _ ↦ hf d
  have htime {β : Type} {f : TimeOfDay → Except FormatFault β} (hf : ∀ t, Recovers (f t)) :
      Recovers (o.theTime >>= f) :=
    .bind (failsOnly_need (by rfl) _) fun t _ ↦ hf t
  have hname (context : NameContext) (table : NameTable) (i : Nat) (c : Prop) [Decidable c]
      (s : List Char) : Recovers (if c then pure s else nameAt table context (nameWidth n) i) :=
    .ite (.ok _) (recovers_nameAt table context _ i)
  unfold writeField
  refine .ite (hdate fun _ ↦ ?_) ?_
  · exact .bind (failsOnly_need (by rfl) _) fun _ _ ↦ .bind (failsOnly_need (by rfl) _) fun _ _ ↦
      .ok _
  refine .ite (hdate fun d ↦ recovers_writeYear names d letter n) ?_
  refine .ite (hdate fun _ ↦ hname _ _ _ _ _) ?_
  refine .ite (hdate fun _ ↦ hname _ _ _ _ _) ?_
  refine .ite (hdate fun d ↦ .bind (recovers_weekOfYear _ d) fun _ _ ↦ .ok _) ?_
  refine .ite (hdate fun _ ↦ .ok _) ?_
  refine .ite (hdate fun _ ↦ .ok _) ?_
  refine .ite (hdate fun _ ↦ .ok _) ?_
  refine .ite (hdate fun _ ↦ .ok _) ?_
  refine .ite (hdate fun _ ↦ hname _ _ _ _ _) ?_
  refine .ite (htime fun _ ↦ recovers_writePeriod names _ n _) ?_
  refine .ite (htime fun _ ↦ recovers_writePeriod names _ n _) ?_
  refine .ite (htime fun _ ↦ .ok _) ?_
  refine .ite (htime fun _ ↦ .ok _) ?_
  refine .ite (htime fun _ ↦ .ok _) ?_
  refine .ite (htime fun _ ↦ .ok _) ?_
  refine .ite (htime fun _ ↦ .ok _) ?_
  refine .ite (htime fun _ ↦ .ok _) ?_
  refine .ite (htime fun t ↦ recovers_writeFraction t n) ?_
  exact .ite (htime fun _ ↦ .ok _) (.error (by rfl))

theorem recovers_writeTokens (names : CalendarNames) (o : Occasion) (tokens : List DateToken) :
    Recovers (writeTokens names o tokens) := by
  induction tokens with
  | nil => exact .ok _
  | cons token tokens ih =>
    cases token with
    | text s => exact .map _ ih
    | field c n =>
      exact .bind (recovers_writeField names o c n) fun _ _ ↦ .bind ih fun _ _ ↦ .ok _

theorem recovers_readPattern (pattern : String) : Recovers (readPattern pattern) :=
  .ite (.ok _) (.error (by rfl))

theorem recovers_writePattern (names : CalendarNames) (o : Occasion) (pattern : String) :
    Recovers (writePattern names o pattern) :=
  .bind (recovers_readPattern pattern) fun tokens _ ↦
    .bind (recovers_writeTokens names o tokens) fun _ _ ↦ .ok _

theorem recovers_patternOf (patterns : List (String × String)) (style : String) :
    Recovers (patternOf patterns style) :=
  .ite (failsOnly_need (by rfl) _) (.ok _)

theorem recovers_skeletonPattern (names : CalendarNames) (skeleton : String) :
    Recovers (skeletonPattern names skeleton) := by
  unfold skeletonPattern
  split
  · exact .ok _
  · exact .bind (failsOnly_need (by rfl) _) fun _ _ ↦ failsOnly_need (by rfl) _

theorem recovers_writeSkeleton (names : CalendarNames) (m : Moment) (skeleton : String) :
    Recovers (writeSkeleton names (.moment m) skeleton) :=
  .bind (recovers_skeletonPattern names skeleton) fun pattern _ ↦
    .bind (.ok _) fun o _ ↦ recovers_writePattern names o pattern

/-- Where the date of a moment cannot be written, its plain text can be shown. -/
theorem recovers_date (m : Moment) (tag : String) (style skeleton : Option String) :
    Recovers (date (.moment m) tag style skeleton book) := by
  have hplain (names : CalendarNames) : Recovers (date.plain (.moment m) style names) :=
    .bind (recovers_patternOf _ _) fun _ _ ↦ .bind (recovers_readPattern _) fun _ _ ↦
      .bind (.ok _) fun _ _ ↦ .bind (recovers_writeTokens names _ _) fun _ _ ↦ .ok _
  refine .bind (recovers_dataOf book tag) fun data _ ↦ ?_
  cases skeleton with
  | none => exact hplain data.calendar
  | some s => exact .ite (recovers_writeSkeleton data.calendar m s) (hplain data.calendar)

/-- Where the time of a moment cannot be written, its plain text can be shown. -/
theorem recovers_time (m : Moment) (tag : String) (style skeleton : Option String) :
    Recovers (time (.moment m) tag style skeleton book) := by
  have hplain (names : CalendarNames) : Recovers (time.plain (.moment m) style names) :=
    .bind (.ok _) fun _ _ ↦ .bind (recovers_patternOf _ _) fun _ _ ↦ recovers_writePattern names _ _
  refine .bind (recovers_dataOf book tag) fun data _ ↦ ?_
  cases skeleton with
  | none => exact hplain data.calendar
  | some s => exact .ite (recovers_writeSkeleton data.calendar m s) (hplain data.calendar)

/-! ### Lists -/

theorem recovers_joinAll (patterns : List (String × JoinPattern)) (items : List String) :
    Recovers (joinAll patterns items) := by
  match items with
  | [] => exact .ok _
  | [_] => exact .ok _
  | a :: b :: rest =>
    unfold joinAll
    dsimp only
    split
    · exact .ok _
    · refine .bind (failsOnly_need (by rfl) _) fun _ _ ↦ ?_
      have hend (middle last : String) : Recovers (do
          let pattern ← need .missingData (patterns.lookup "end")
          return joinTwo pattern middle last) :=
        .bind (failsOnly_need (by rfl) _) fun _ _ ↦ .ok _
      exact .ite (hend _ _) (.bind (failsOnly_need (by rfl) _) fun _ _ ↦ hend _ _)

/-- Where a list cannot be written, its plain text can be shown. -/
theorem recovers_list (items : List Value) (tag kind length : String) :
    Recovers (list items tag kind length book) := by
  unfold list
  refine .ite (.error (by rfl)) (.bind (recovers_dataOf book tag) fun data _ ↦ ?_)
  split
  · exact .ok _
  · exact .ok _
  · exact .bind (failsOnly_need (by rfl) _) fun _ _ ↦ recovers_joinAll _ _

/-- A list with a whole number in it that is too long to be written is not written. -/
theorem list_of_anyOverlong {items : List Value} (h : Value.anyOverlong items = true)
    (tag kind length : String) : list items tag kind length book = .error .unsuitableValue := by
  simp [list, h]
  rfl

/-! ### Relative time -/

theorem recovers_amount (data : LocaleData) (n : Int) (unit : TimeUnit) (style : String) :
    Recovers (amount data n unit style) := by
  obtain ⟨p, hp⟩ := Plural.exists_ofFinite_integer (data.plurals .cardinal) (n.natAbs : Int)
  unfold amount
  refine .ite (.error (by rfl)) (.bind (failsOnly_need (by rfl) _) fun patterns _ ↦ ?_)
  refine .ite (.error (by rfl)) (.bind ?_ fun _ _ ↦ ?_)
  · rw [hp]
    exact .ok _
  · split
    · exact .ok _
    · exact .ok _

theorem recovers_distance (micros : Int) (tag style : String) :
    Recovers (distance micros tag style book) :=
  .bind (failsOnly_mapError fun _ ↦ by rfl) fun _ _ ↦
    .bind (recovers_dataOf book tag) fun data _ ↦ recovers_amount data _ _ style

/-- A moment is not compared with a present outside the calendar; otherwise its plain text can be
shown where the time between them cannot be written. -/
theorem relative_cases (m : Moment) (tag style : String) (clock : Moment) :
    (presentFor clock m = none ∧ relative m tag style clock book = .error .outsideCalendar) ∨
      presentFor clock m ≠ none ∧ Recovers (relative m tag style clock book) := by
  unfold relative
  cases h : presentFor clock m with
  | none => exact .inl ⟨rfl, rfl⟩
  | some present =>
    refine .inr ⟨by simp, .bind (.ok _) fun _ _ ↦ ?_⟩
    exact .bind (failsOnly_need (by rfl) _) fun _ _ ↦ recovers_distance book _ tag style

/-! ### Numbers -/

/-- The plain text of the number can be shown after every fault of the computation, but for one that
leaves the range of decimal arithmetic. -/
abbrev Numeric (x : Except FormatFault α) : Prop :=
  FailsOnly (fun f ↦ f.isRecoverable = true ∨ f = .overflow) x

theorem numeric_arith (x : Except Decimal.Fault α) : Numeric (arith x) :=
  failsOnly_mapError fun e ↦ by cases e <;> decide

theorem numeric_need {fault : FormatFault} (h : fault.isRecoverable = true) (x : Option α) :
    Numeric (need fault x) :=
  failsOnly_need (.inl h) x

theorem numeric_dataOf (tag : String) : Numeric (dataOf tag book) :=
  fun f h ↦ .inl (recovers_dataOf book tag f h)

theorem numeric_applyPattern (f : NumberFormats) (pattern : List Char)
    (money : Option NumberPattern.Money) (natural : Bool) (d : Decimal) :
    Numeric (applyPattern f pattern money natural d) :=
  .bind (numeric_need (by rfl) _) fun _ _ ↦ numeric_arith _

theorem numeric_money (f : NumberFormats) (code : String) (v : Value) :
    Numeric (money f code v) :=
  .bind (numeric_need (by rfl) _) fun _ _ ↦ numeric_applyPattern f _ _ _ _

theorem numeric_choose (rules : Plural.Rules) (patterns : CompactPatterns) (d : Decimal)
    (places : Nat) : Numeric (Compact.choose rules patterns d places) := by
  unfold Compact.choose
  refine .bind (numeric_need (by rfl) _) fun _ _ ↦ .bind (numeric_arith _) fun _ _ ↦ ?_
  split
  · exact .ok _
  · refine .ite (.ok _) (.bind (numeric_arith _) fun _ _ ↦ .bind (numeric_arith _) fun _ _ ↦ ?_)
    exact .bind (numeric_arith _) fun _ _ ↦ .bind (numeric_arith _) fun _ _ ↦ .ok _

theorem numeric_compactIn (data : LocaleData) (v : Value) (display : CompactDisplay) :
    Numeric (compactIn data v display) := by
  refine .bind (numeric_need (by rfl) _) fun _ _ ↦ .bind (numeric_arith _) fun _ _ ↦
    .bind (numeric_need (by rfl) _) fun _ _ ↦ .bind (numeric_choose _ _ _ _) fun chosen _ ↦ ?_
  split
  · exact numeric_applyPattern _ _ _ _ _
  · exact numeric_applyPattern _ _ _ _ _

theorem numeric_rounded (v : Value) (places : Int) {β : Type}
    {f : Decimal → Except FormatFault β} (hf : ∀ d, Numeric (f d)) : Numeric (do
      let d ← decimalOf v
      let rounded ← arith (d.roundPlaces places)
      f rounded) :=
  .bind (numeric_need (by rfl) _) fun _ _ ↦ .bind (numeric_arith _) fun d _ ↦ hf d

theorem numeric_numberWith (data : LocaleData) (v : Value) (o : NumberOptions) :
    Numeric (numberWith data v o) := by
  unfold numberWith
  split
  · exact numeric_compactIn data v _
  · exact numeric_money _ _ v
  · exact numeric_rounded v _ fun _ ↦ numeric_applyPattern _ _ _ _ _
  · exact numeric_rounded v _ fun _ ↦ numeric_applyPattern _ _ _ _ _

theorem numeric_numberIn (f : NumberFormats) (v : Value) (style : String) :
    Numeric (numberIn f v style) := by
  unfold numberIn
  refine .ite (numeric_rounded v _ fun _ ↦ numeric_applyPattern f _ _ _ _) ?_
  refine .ite (numeric_rounded v _ fun _ ↦ numeric_applyPattern f _ _ _ _) ?_
  refine .ite (numeric_rounded v _ fun _ ↦ numeric_applyPattern f _ _ _ _) ?_
  exact .ite (numeric_money f _ v) (.bind (numeric_need (by rfl) _) fun _ _ ↦
    numeric_applyPattern f _ _ _ _)

theorem numeric_number (v : Value) (tag : String) (style : Option String)
    (options : Option NumberOptions) : Numeric (number v tag style options book) := by
  refine .bind (numeric_dataOf book tag) fun data _ ↦ ?_
  cases options with
  | some o => exact numeric_numberWith _ v o
  | none => exact numeric_numberIn _ v _

theorem numeric_currency (v : Value) (code tag : String) :
    Numeric (currency v (some code) tag book) :=
  .bind (numeric_dataOf book tag) fun _ _ ↦ numeric_money _ code v

theorem numeric_compact (v : Value) (tag : String) (display : CompactDisplay) :
    Numeric (compact v tag display book) :=
  .bind (numeric_dataOf book tag) fun _ _ ↦ numeric_compactIn _ v display

/-! ### Whole numbers that are too long -/

section Overlong

variable {n : Number}

theorem decimalOf_of_isOverlong (h : n.isOverlong = true) :
    decimalOf (.number n) = .error .unsuitableValue := by
  rw [decimalOf, Value.toDecimal?, if_pos h]
  rfl

/-- What begins with the decimal number of such a number gives up. -/
theorem givesUp_decimalOf (h : n.isOverlong = true) (f : Decimal → Except FormatFault α) :
    GivesUp (decimalOf (.number n) >>= f) := by
  rw [decimalOf_of_isOverlong h]
  exact ⟨.unsuitableValue, rfl, rfl⟩

theorem givesUp_money (h : n.isOverlong = true) (f : NumberFormats) (code : String) :
    GivesUp (money f code (.number n)) :=
  givesUp_decimalOf h _

theorem givesUp_number (h : n.isOverlong = true) (tag : String) (style : Option String)
    (options : Option NumberOptions) : GivesUp (number (.number n) tag style options book) := by
  refine .bind (recovers_dataOf book tag) fun data ↦ ?_
  cases options with
  | some o =>
    dsimp only [numberWith]
    split
    · exact givesUp_decimalOf h _
    · exact givesUp_money h _ _
    · exact givesUp_decimalOf h _
    · exact givesUp_decimalOf h _
  | none =>
    have hite {c : Prop} [Decidable c] {x y : Except FormatFault String} (hx : GivesUp x)
        (hy : GivesUp y) : GivesUp (if c then x else y) := by
      split
      · exact hx
      · exact hy
    have hdecimal (f : Decimal → Except FormatFault String) := givesUp_decimalOf h f
    exact hite (hdecimal _) (hite (hdecimal _) (hite (hdecimal _) (hite (givesUp_money h _ _)
      (hdecimal _))))

theorem givesUp_currency (h : n.isOverlong = true) (code tag : String) :
    GivesUp (currency (.number n) (some code) tag book) :=
  .bind (recovers_dataOf book tag) fun _ ↦ givesUp_money h _ code

theorem givesUp_compact (h : n.isOverlong = true) (tag : String) (display : CompactDisplay) :
    GivesUp (compact (.number n) tag display book) :=
  .bind (recovers_dataOf book tag) fun _ ↦ givesUp_decimalOf h _

end Overlong

end Format

end Phrasebook
