import Phrasebook.Message.Skeleton
import Phrasebook.Proofs.Words

/-!
Every way to write a number that a skeleton can ask for has a skeleton of its own.

What a skeleton asks for is `Attainable`: a currency code is in upper case, a style that needs a
currency or a length has one, and both bounds on the fraction digits are given or none
(`attainable_ofSkeleton`). The words of `NumberOptions.settings` ask for exactly that, the one that
sets the style last (`foldl_settings`), and the skeleton made of them is read back word by word
(`ofSkeleton_skeleton`).
-/

set_option autoImplicit false

namespace Phrasebook

open Text

namespace SkeletonWord

/-- How a word is written. -/
def text : SkeletonWord → List Char
  | .percent => "percent".toList
  | .currency code => "currency/".toList ++ code.toList
  | .compact display => "compact-".toList ++ display.word.toList
  | .integer => "integer".toList
  | .groupOff => "group-off".toList
  | .fraction least optional => '.' :: (List.replicate least '0' ++ List.replicate optional '#')
  | .unknown w => w.toList

theorem text_currency (code : String) :
    text (.currency code) = "currency/".toList ++ code.toList :=
  rfl

theorem text_fraction (least optional : Nat) : text (.fraction least optional) =
    '.' :: (List.replicate least '0' ++ List.replicate optional '#') :=
  rfl

/-- A word whose text is one word and means it. -/
structure Written (w : SkeletonWord) : Prop where
  read : ofText w.text = w
  ne_nil : w.text ≠ []
  plain : ∀ c ∈ w.text, isPlain c = true

/-- A currency code as a word can give it: in upper case, without white space and braces. -/
def IsCode (code : String) : Prop :=
  upper code = code ∧ ∀ c ∈ code.toList, isPlain c = true

theorem written_percent : Written .percent :=
  ⟨rfl, by decide +kernel, by decide +kernel⟩

theorem written_groupOff : Written .groupOff :=
  ⟨rfl, by decide +kernel, by decide +kernel⟩

theorem written_compact (display : CompactDisplay) : Written (.compact display) := by
  cases display
  · exact ⟨rfl, by decide +kernel, by decide +kernel⟩
  · exact ⟨rfl, by decide +kernel, by decide +kernel⟩

theorem written_currency {code : String} (h : IsCode code) : Written (.currency code) := by
  have hne : ∀ w : String, w.toList.head? ≠ some 'c' →
      String.ofList (text (.currency code)) ≠ w := by
    rintro w hw rfl
    exact hw (by rw [String.toList_ofList]; rfl)
  refine ⟨?_, List.append_ne_nil_of_left_ne_nil (by decide +kernel) _, fun c hc ↦ ?_⟩
  · rw [ofText, if_neg (not_or.2 ⟨hne _ (by decide +kernel), hne _ (by decide +kernel)⟩),
      text_currency, after?_append]
    dsimp only
    rw [String.ofList_toList, h.1]
  · rcases List.mem_append.1 hc with hc | hc
    · exact (by decide +kernel : ∀ c ∈ "currency/".toList, isPlain c = true) c hc
    · exact h.2 c hc

/-- A word that begins with a point is a fraction or unknown. -/
theorem ofText_point {s : List Char} {n : Nat × Nat} (h : fraction? ('.' :: s) = some n) :
    ofText ('.' :: s) = .fraction n.1 n.2 := by
  have hne : ∀ w : String, w.toList.head? ≠ some '.' → String.ofList ('.' :: s) ≠ w := by
    rintro w hw rfl
    exact hw (by rw [String.toList_ofList]; rfl)
  have hcurrency : after? "currency/".toList ('.' :: s) = none := rfl
  rw [ofText, if_neg (not_or.2 ⟨hne _ (by decide +kernel), hne _ (by decide +kernel)⟩), hcurrency]
  dsimp only
  rw [if_neg (not_or.2 ⟨hne _ (by decide +kernel), hne _ (by decide +kernel)⟩),
    if_neg (not_or.2 ⟨hne _ (by decide +kernel), hne _ (by decide +kernel)⟩),
    if_neg (not_or.2 ⟨hne _ (by decide +kernel), hne _ (by decide +kernel)⟩),
    if_neg (not_or.2 ⟨hne _ (by decide +kernel), hne _ (by decide +kernel)⟩), h]

theorem fraction?_point (s : List Char) : fraction? ('.' :: s) =
    if (s.dropWhile (· = '0')).all (· = '#') then
      some ((s.takeWhile (· = '0')).length, (s.dropWhile (· = '0')).length) else none :=
  rfl

theorem written_fraction (least optional : Nat) : Written (.fraction least optional) := by
  have hzeros : ∀ c ∈ List.replicate least '0', decide (c = '0') = true := by
    simp [List.mem_replicate]
  have hsigns : ∀ c ∈ (List.replicate optional '#').head?, decide (c = '0') = false := by
    intro c hc
    rw [(List.mem_replicate.1 (List.mem_of_head? hc)).2]
    rfl
  have hread : fraction? ('.' :: (List.replicate least '0' ++ List.replicate optional '#')) =
      some (least, optional) := by
    rw [fraction?_point, takeWhile_append_stop hzeros hsigns, dropWhile_append_stop hzeros hsigns,
      if_pos (by simp), List.length_replicate, List.length_replicate]
  refine ⟨ofText_point hread, List.cons_ne_nil _ _, fun c hc ↦ ?_⟩
  rw [text_fraction, List.mem_cons, List.mem_append, List.mem_replicate, List.mem_replicate] at hc
  rcases hc with rfl | ⟨-, rfl⟩ | ⟨-, rfl⟩ <;> decide

/-- The code that a word asks for is in upper case. -/
theorem isCode_of_ofText {w : List Char} (hw : ∀ c ∈ w, isPlain c = true) {code : String}
    (h : ofText w = .currency code) : IsCode code := by
  rw [ofText] at h
  split at h
  · cases h
  · split at h
    · rename_i rest hrest
      cases h
      refine ⟨upper_upper _, isPlain_of_mem_upper fun c hc ↦ hw c ?_⟩
      rw [String.toList_ofList] at hc
      rw [append_of_after? hrest]
      exact List.mem_append_right _ hc
    · split_ifs at h
      split at h <;> cases h

end SkeletonWord

namespace NumberOptions

open SkeletonWord

def currencyWords (o : NumberOptions) : List SkeletonWord :=
  o.currency.toList.map .currency

def compactWords (o : NumberOptions) : List SkeletonWord :=
  o.compactDisplay.toList.map .compact

/-- The words for the style, the currency and the length, the one for the style last. -/
def styleWords (o : NumberOptions) : List SkeletonWord :=
  match o.style with
  | .decimal => []
  | .percent => o.currencyWords ++ o.compactWords ++ [.percent]
  | .currency => o.compactWords ++ o.currencyWords
  | .compact => o.currencyWords ++ o.compactWords

def fractionWords (o : NumberOptions) : List SkeletonWord :=
  match o.minimumFractionDigits, o.maximumFractionDigits with
  | some least, some most => [.fraction least.toNat (most - least).toNat]
  | _, _ => []

/-- Words that ask for the options. -/
def settings (o : NumberOptions) : List SkeletonWord :=
  o.styleWords ++ o.fractionWords ++ if o.useGrouping then [] else [.groupOff]

/-- A skeleton that asks for the options. -/
def skeleton (o : NumberOptions) : List Char :=
  spaced (o.settings.map SkeletonWord.text)

/-- What the words of a skeleton without braces can ask for. -/
structure Attainable (o : NumberOptions) : Prop where
  code : ∀ code ∈ o.currency, IsCode code
  decimal : o.style = .decimal → o.currency = none ∧ o.compactDisplay = none
  currency : o.style = .currency → o.currency ≠ none
  compact : o.style = .compact → o.compactDisplay ≠ none
  fraction : o.minimumFractionDigits = none ∧ o.maximumFractionDigits = none ∨
    ∃ least optional : Nat, o.minimumFractionDigits = some (least : Int) ∧
      o.maximumFractionDigits = some (least + optional : Int)

theorem attainable_default : Attainable {} :=
  ⟨by simp, fun _ ↦ ⟨rfl, rfl⟩, by simp, by simp, .inl ⟨rfl, rfl⟩⟩

/-- A word leads from options that can be attained to others. -/
theorem Attainable.set {o : NumberOptions} (h : Attainable o) {w : List Char}
    (hw : ∀ c ∈ w, isPlain c = true) : Attainable (SkeletonWord.set o (ofText w)) := by
  cases hword : ofText w with
  | percent => exact ⟨h.code, nofun, nofun, nofun, h.fraction⟩
  | currency code =>
    refine ⟨fun c hc ↦ ?_, nofun, fun _ ↦ Option.some_ne_none _, nofun, h.fraction⟩
    rw [← Option.mem_some.1 hc]
    exact isCode_of_ofText hw hword
  | compact display =>
    exact ⟨h.code, nofun, nofun, fun _ ↦ Option.some_ne_none _, h.fraction⟩
  | integer => exact ⟨h.code, h.decimal, h.currency, h.compact, .inr ⟨0, 0, rfl, rfl⟩⟩
  | groupOff => exact ⟨h.code, h.decimal, h.currency, h.compact, h.fraction⟩
  | fraction least optional =>
    exact ⟨h.code, h.decimal, h.currency, h.compact, .inr ⟨least, optional, rfl, rfl⟩⟩
  | unknown => exact h

theorem Attainable.foldl {ws : List (List Char)} (hws : ∀ w ∈ ws, ∀ c ∈ w, isPlain c = true)
    {o : NumberOptions} (h : Attainable o) :
    Attainable ((ws.map ofText).foldl SkeletonWord.set o) := by
  induction ws generalizing o with
  | nil => exact h
  | cons w ws ih =>
    obtain ⟨hw, hws⟩ := List.forall_mem_cons.1 hws
    exact ih hws (h.set hw)

theorem attainable_ofSkeleton {s : List Char} (hs : ∀ c ∈ s, c ≠ '{' ∧ c ≠ '}') :
    Attainable (ofSkeleton s) :=
  attainable_default.foldl fun _ hw ↦ isPlain_of_mem_words hs hw

theorem written_styleWords {o : NumberOptions} (h : Attainable o) :
    ∀ w ∈ o.styleWords, Written w := by
  have hcurrency : ∀ w ∈ o.currencyWords, Written w := by
    intro w hw
    obtain ⟨code, hcode, rfl⟩ := List.mem_map.1 hw
    exact written_currency (h.code code (Option.mem_toList.1 hcode))
  have hcompact : ∀ w ∈ o.compactWords, Written w := by
    intro w hw
    obtain ⟨display, -, rfl⟩ := List.mem_map.1 hw
    exact written_compact display
  intro w hw
  unfold styleWords at hw
  split at hw
  · exact absurd hw List.not_mem_nil
  · rcases List.mem_append.1 hw with hw | hw
    · rcases List.mem_append.1 hw with hw | hw
      · exact hcurrency w hw
      · exact hcompact w hw
    · rw [List.mem_singleton.1 hw]
      exact written_percent
  · rcases List.mem_append.1 hw with hw | hw
    · exact hcompact w hw
    · exact hcurrency w hw
  · rcases List.mem_append.1 hw with hw | hw
    · exact hcurrency w hw
    · exact hcompact w hw

theorem written_settings {o : NumberOptions} (h : Attainable o) :
    ∀ w ∈ o.settings, Written w := by
  intro w hw
  rcases List.mem_append.1 hw with hw | hw
  · rcases List.mem_append.1 hw with hw | hw
    · exact written_styleWords h w hw
    · unfold fractionWords at hw
      split at hw
      · rw [List.mem_singleton.1 hw]
        exact written_fraction _ _
      · exact absurd hw List.not_mem_nil
  · split at hw
    · exact absurd hw List.not_mem_nil
    · rw [List.mem_singleton.1 hw]
      exact written_groupOff

/-- The word for the style comes last, so its style stays. -/
theorem foldl_styleWords {o : NumberOptions} (h : Attainable o) :
    o.styleWords.foldl SkeletonWord.set {} =
      { style := o.style, currency := o.currency, compactDisplay := o.compactDisplay } := by
  have hdecimal := h.decimal
  have hcurrency := h.currency
  have hcompact := h.compact
  unfold styleWords currencyWords compactWords
  revert hdecimal hcurrency hcompact
  generalize o.style = style, o.currency = currency, o.compactDisplay = display
  intro hdecimal hcurrency hcompact
  cases style with
  | decimal =>
    obtain ⟨rfl, rfl⟩ := hdecimal rfl
    rfl
  | percent => cases currency <;> cases display <;> rfl
  | currency =>
    cases currency with
    | none => exact absurd rfl (hcurrency rfl)
    | some code => cases display <;> rfl
  | compact =>
    cases display with
    | none => exact absurd rfl (hcompact rfl)
    | some display => cases currency <;> rfl

theorem foldl_settings {o : NumberOptions} (h : Attainable o) :
    o.settings.foldl SkeletonWord.set {} = o := by
  rw [settings, List.foldl_append, List.foldl_append, foldl_styleWords h]
  have hfraction := h.fraction
  unfold fractionWords
  obtain ⟨style, currency, display, least, most, grouping⟩ := o
  rcases hfraction with ⟨hleast, hmost⟩ | ⟨least', optional, hleast, hmost⟩
  · obtain rfl : least = none := hleast
    obtain rfl : most = none := hmost
    cases grouping <;> rfl
  · obtain rfl : least = some (least' : Int) := hleast
    obtain rfl : most = some (least' + optional : Int) := hmost
    have hoptional : (least' + optional - least' : Int).toNat = optional := by omega
    dsimp only
    rw [Int.toNat_natCast, hoptional]
    cases grouping <;> rfl

theorem plain_settings {o : NumberOptions} (h : Attainable o) :
    ∀ w ∈ o.settings.map SkeletonWord.text, w ≠ [] ∧ ∀ c ∈ w, isPlain c = true := by
  intro w hw
  obtain ⟨v, hv, rfl⟩ := List.mem_map.1 hw
  exact ⟨(written_settings h v hv).ne_nil, (written_settings h v hv).plain⟩

/-- A skeleton of the options is read as them. -/
theorem ofSkeleton_skeleton {o : NumberOptions} (h : Attainable o) :
    ofSkeleton o.skeleton = o := by
  have hread : skeletonWords o.skeleton = o.settings := by
    rw [skeletonWords, skeleton, words_spaced (plain_settings h), List.map_map]
    exact (List.map_congr_left fun w hw ↦ (written_settings h w hw).read).trans (List.map_id _)
  rw [ofSkeleton, hread, foldl_settings h]

theorem bare_skeleton {o : NumberOptions} (h : Attainable o) : Bare o.skeleton :=
  bare_spaced (plain_settings h)

theorem ne_brace_of_mem_skeleton {o : NumberOptions} (h : Attainable o) :
    ∀ c ∈ o.skeleton, c ≠ '{' ∧ c ≠ '}' := by
  intro c hc
  rcases mem_spaced hc with rfl | ⟨w, hw, hc⟩
  · decide
  · exact ne_brace_of_isPlain ((plain_settings h w hw).2 c hc)

end NumberOptions

end Phrasebook
