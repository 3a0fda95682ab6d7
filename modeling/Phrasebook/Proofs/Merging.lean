import Phrasebook.Dictionary.Basic

/-!
Merging dictionaries.

A merged dictionary has under each key what merging the two entries gives
(`Dictionary.lookup_merge`). Along a path this says that its phrases are those of the dictionary
that came last and those of the older one that the later one does not touch
(`Dictionary.phrase_merge_iff`): a dictionary touches a path if it has a phrase or a branch at its
end, or a phrase on the way. So after several dictionaries a phrase is the one of the last
dictionary that has one there and that none of the later ones touches
(`Dictionary.phrase_foldl_merge_iff`).
-/

set_option autoImplicit false

namespace Phrasebook

/-! ### Keys -/

namespace Key

/-- What tells a key from others. -/
def identity : Key → String ⊕ String
  | .text s => .inl s
  | .other i _ => .inr i

theorem beq_iff {k l : Key} : (k == l) = true ↔ k.identity = l.identity := by
  change same k l = true ↔ k.identity = l.identity
  cases k <;> cases l <;> simp [same, identity]

instance : EquivBEq Key where
  rfl := beq_iff.2 rfl
  symm h := beq_iff.2 (beq_iff.1 h).symm
  trans h h' := beq_iff.2 ((beq_iff.1 h).trans (beq_iff.1 h'))

end Key

namespace Table

/-- Keys that are the same lead to the same value. -/
theorem lookup_congr {κ υ : Type} [BEq κ] [EquivBEq κ] {k k' : κ} (h : (k == k') = true)
    (t : Table κ υ) : t.lookup k = t.lookup k' := by
  induction t with
  | nil => rfl
  | cons e t ih => rw [List.lookup_cons, List.lookup_cons, ih, BEq.congr_left h]

end Table

/-! ### Dictionaries of phrases -/

namespace Entry

mutual

/-- Phrases, in branches of any depth that have no key twice. -/
def OnlyPhrases : Entry → Prop
  | .text _ => True
  | .branch entries =>
    entries.Pairwise (fun x y ↦ (x.1 == y.1) = false) ∧ AllOnlyPhrases entries
  | .absent | .boolean _ | .number _ | .list _ | .foreign _ => False

/-- Every entry is one of phrases. -/
def AllOnlyPhrases : List (Key × Entry) → Prop
  | [] => True
  | (_, e) :: entries => OnlyPhrases e ∧ AllOnlyPhrases entries

end

theorem AllOnlyPhrases.of_lookup {entries : List (Key × Entry)} {key : Key} {e : Entry}
    (h : AllOnlyPhrases entries) (hlookup : entries.lookup key = some e) : OnlyPhrases e := by
  induction entries with
  | nil => cases hlookup
  | cons x entries ih =>
    obtain ⟨other, f⟩ := x
    rw [List.lookup_cons] at hlookup
    cases hb : key == other with
    | true =>
      rw [hb] at hlookup
      exact Option.some.inj hlookup ▸ h.1
    | false =>
      rw [hb] at hlookup
      exact ih h.2 hlookup

end Entry

namespace Dictionary

/-- A dictionary of phrases: its leaves are texts, and no key comes twice in a branch. -/
def OnlyPhrases (d : Dictionary) : Prop :=
  Entry.OnlyPhrases (.branch d)

/-- A dictionary has something to say about a path: a phrase or a branch at its end, or a phrase
before it ends. -/
def Touches (d : Dictionary) (path : List String) : Prop :=
  (∃ s, Entry.follow (.branch d) path = some (.text s)) ∨
    (∃ entries, Entry.follow (.branch d) path = some (.branch entries)) ∨
    ∃ before s, before <+: path ∧ before ≠ path ∧
      Entry.follow (.branch d) before = some (.text s)

variable {d new : Dictionary} {s name : String} {path : List String}

/-- A key has at least one part. -/
theorem path_ne_nil (key : String) : Dictionary.path key ≠ [] := by
  rw [Dictionary.path, ne_eq, List.map_eq_nil_iff]
  exact List.splitOn_ne_nil _ _

/-! ### Merging key by key -/

/-- Under each key the entries are merged. -/
theorem lookup_merge (hnew : new.Pairwise fun x y ↦ (x.1 == y.1) = false) (d : Dictionary)
    (key : Key) : (merge d new).lookup key =
      ((new.lookup key).map (mergeEntry (d.lookup key))).or (d.lookup key) := by
  induction new generalizing d with
  | nil =>
    rw [merge, List.lookup_nil]
    rfl
  | cons x new ih =>
    obtain ⟨k, e⟩ := x
    obtain ⟨hk, hnew⟩ := List.pairwise_cons.1 hnew
    rw [merge, ih hnew, List.lookup_cons, Table.lookup_put]
    cases h : key == k with
    | true =>
      have hlater : new.lookup key = none := by
        rw [List.lookup_eq_none_iff]
        intro y hy
        rw [bne, BEq.congr_left h, hk y hy]
        rfl
      rw [hlater, ← Table.lookup_congr h d]
      rfl
    | false => rfl

/-- What a branch is merged to is a branch: the older one with the new entries, or the new one where
there was no branch. -/
theorem mergeEntry_branch_cases (old : Option Entry) (entries : List (Key × Entry)) :
    (∃ older, old = some (.branch older) ∧
      mergeEntry old (.branch entries) = .branch (merge older entries)) ∨
    (∀ older, old ≠ some (.branch older)) ∧ mergeEntry old (.branch entries) = .branch entries := by
  unfold mergeEntry
  split
  · exact .inl ⟨_, rfl, rfl⟩
  · rename_i hold
    exact .inr ⟨fun older h ↦ hold older h, rfl⟩

/-! ### Merging along paths -/

/-- One step of a path into a branch. -/
theorem follow_cons (d : Dictionary) (name : String) (path : List String) :
    Entry.follow (.branch d) (name :: path) =
      match d.lookup (.text name) with
      | none => none
      | some .absent => none
      | some e => e.follow path :=
  Entry.follow.eq_def (.branch d) (name :: path)

theorem follow_of_lookup_text (h : d.lookup (.text name) = some (.text s)) (path : List String) :
    Entry.follow (.branch d) (name :: path) = Entry.follow (.text s) path := by
  rw [follow_cons, h]

theorem follow_of_lookup_branch {entries : List (Key × Entry)}
    (h : d.lookup (.text name) = some (.branch entries)) (path : List String) :
    Entry.follow (.branch d) (name :: path) = Entry.follow (.branch entries) path := by
  rw [follow_cons, h]

/-- A dictionary without a key does not touch the paths that begin with it. -/
theorem not_touches_of_lookup_eq_none (h : d.lookup (.text name) = none) (path : List String) :
    ¬ Touches d (name :: path) := by
  have hnone (rest : List String) : Entry.follow (.branch d) (name :: rest) = none := by
    rw [follow_cons, h]
  rintro (⟨s, hs⟩ | ⟨entries, hentries⟩ | ⟨before, s, hbefore, -, hs⟩)
  · rw [hnone] at hs
    cases hs
  · rw [hnone] at hentries
    cases hentries
  · cases before with
    | nil => cases hs
    | cons other before =>
      obtain rfl := (List.cons_prefix_cons.1 hbefore).1
      rw [hnone] at hs
      cases hs

/-- A phrase is in the way of all paths through it. -/
theorem touches_of_lookup_text (h : d.lookup (.text name) = some (.text s)) (path : List String) :
    Touches d (name :: path) := by
  have hfollow : Entry.follow (.branch d) [name] = some (.text s) := follow_of_lookup_text h []
  by_cases hpath : path = []
  · subst hpath
    exact .inl ⟨s, hfollow⟩
  · refine .inr (.inr ⟨[name], s, List.cons_prefix_cons.2 ⟨rfl, List.nil_prefix⟩, ?_, hfollow⟩)
    intro he
    exact hpath (List.cons.inj he).2.symm

/-- A dictionary touches a path into a branch just when the branch touches what is left of it. -/
theorem touches_cons_iff {entries : List (Key × Entry)}
    (h : d.lookup (.text name) = some (.branch entries)) (path : List String) :
    Touches d (name :: path) ↔ Touches entries path := by
  have hfollow := follow_of_lookup_branch h
  constructor
  · rintro (⟨s, hs⟩ | ⟨es, hes⟩ | ⟨before, s, hbefore, hne, hs⟩)
    · exact .inl ⟨s, (hfollow path).symm.trans hs⟩
    · exact .inr (.inl ⟨es, (hfollow path).symm.trans hes⟩)
    · cases before with
      | nil => cases hs
      | cons other before =>
        obtain ⟨hname, hprefix⟩ := List.cons_prefix_cons.1 hbefore
        subst hname
        refine .inr (.inr ⟨before, s, hprefix, ?_, (hfollow before).symm.trans hs⟩)
        intro he
        exact hne (congrArg _ he)
  · rintro (⟨s, hs⟩ | ⟨es, hes⟩ | ⟨before, s, hbefore, hne, hs⟩)
    · exact .inl ⟨s, (hfollow path).trans hs⟩
    · exact .inr (.inl ⟨es, (hfollow path).trans hes⟩)
    · refine .inr (.inr ⟨name :: before, s, List.cons_prefix_cons.2 ⟨rfl, hbefore⟩, ?_,
        (hfollow before).trans hs⟩)
      intro he
      exact hne (List.cons.inj he).2

/-- A path leads nowhere past what is no branch. -/
theorem follow_eq_none_of_not_branch (h : ∀ entries, d.lookup (.text name) ≠ some (.branch entries))
    (hpath : path ≠ []) : Entry.follow (.branch d) (name :: path) = none := by
  obtain ⟨next, rest, rfl⟩ := List.exists_cons_of_ne_nil hpath
  rw [follow_cons]
  cases hentry : d.lookup (.text name) with
  | none => rfl
  | some e =>
    cases e with
    | branch entries => exact absurd hentry (h entries)
    | _ => rfl

/-- The phrases of a merged dictionary: those of the dictionary that came last, and those of the
older one that it does not touch. -/
theorem phrase_merge_iff (hnew : new.OnlyPhrases) (hpath : path ≠ []) :
    Entry.follow (.branch (merge d new)) path = some (.text s) ↔
      Entry.follow (.branch new) path = some (.text s) ∨
        Entry.follow (.branch d) path = some (.text s) ∧ ¬ Touches new path := by
  induction path generalizing d new with
  | nil => exact absurd rfl hpath
  | cons name path ih =>
    have hmerged := lookup_merge hnew.1 d (.text name)
    cases hlast : new.lookup (.text name) with
    | none =>
      -- the later dictionary does not know the key
      rw [hlast] at hmerged
      have hsame : Entry.follow (.branch (merge d new)) (name :: path) =
          Entry.follow (.branch d) (name :: path) := by
        rw [follow_cons, follow_cons, hmerged]
        rfl
      have hnone : Entry.follow (.branch new) (name :: path) = none := by
        rw [follow_cons, hlast]
      rw [hsame, hnone]
      simp [not_touches_of_lookup_eq_none hlast path]
    | some e =>
      have he : e.OnlyPhrases := hnew.2.of_lookup hlast
      rw [hlast] at hmerged
      cases e with
      | text t =>
        have hmerged : (merge d new).lookup (.text name) = some (.text t) := by
          rw [hmerged, Option.map_some, Option.some_or]
          unfold mergeEntry
          rfl
        rw [follow_of_lookup_text hmerged, follow_of_lookup_text hlast]
        simp [touches_of_lookup_text hlast path]
      | branch entries =>
        rw [Option.map_some, Option.some_or] at hmerged
        by_cases hend : path = []
        · -- a branch at the end of the path is no phrase, and takes the place of one
          subst hend
          have htouches : Touches new [name] :=
            .inr (.inl ⟨entries, follow_of_lookup_branch hlast []⟩)
          have hbranch : ∃ es, mergeEntry (d.lookup (.text name)) (.branch entries) =
              .branch es := by
            rcases mergeEntry_branch_cases (d.lookup (.text name)) entries with
              ⟨older, -, hentry⟩ | ⟨-, hentry⟩
            · exact ⟨_, hentry⟩
            · exact ⟨_, hentry⟩
          obtain ⟨es, hes⟩ := hbranch
          rw [hes] at hmerged
          rw [follow_of_lookup_branch hmerged, follow_of_lookup_branch hlast]
          simp [htouches, Entry.follow]
        · rw [follow_of_lookup_branch hlast, touches_cons_iff hlast path]
          rcases mergeEntry_branch_cases (d.lookup (.text name)) entries with
            ⟨older, hold, hentry⟩ | ⟨hold, hentry⟩
          · rw [hentry] at hmerged
            rw [follow_of_lookup_branch hmerged, follow_of_lookup_branch hold]
            exact ih he hend
          · rw [hentry] at hmerged
            rw [follow_of_lookup_branch hmerged, follow_eq_none_of_not_branch hold hend]
            simp
      | _ => exact he.elim

/-! ### Several dictionaries -/

/-- The phrases after several dictionaries were merged into one: those that one of them has and no
later one touches, and those of the first dictionary that none of them touches. -/
theorem phrase_foldl_merge_iff {ds : List Dictionary} (hds : ∀ d ∈ ds, d.OnlyPhrases)
    (first : Dictionary) (hpath : path ≠ []) :
    Entry.follow (.branch (ds.foldl merge first)) path = some (.text s) ↔
      (∃ before d after, ds = before ++ d :: after ∧
        Entry.follow (.branch d) path = some (.text s) ∧ ∀ later ∈ after, ¬ Touches later path) ∨
      Entry.follow (.branch first) path = some (.text s) ∧ ∀ d ∈ ds, ¬ Touches d path := by
  induction ds generalizing first with
  | nil => simp
  | cons new ds ih =>
    obtain ⟨hnew, hds⟩ := List.forall_mem_cons.1 hds
    rw [List.foldl_cons, ih hds, phrase_merge_iff hnew hpath]
    constructor
    · rintro (⟨before, d, after, rfl, hd⟩ | ⟨hlast | ⟨hfirst, htouches⟩, hlater⟩)
      · exact .inl ⟨new :: before, d, after, rfl, hd⟩
      · exact .inl ⟨[], new, ds, rfl, hlast, hlater⟩
      · exact .inr ⟨hfirst, List.forall_mem_cons.2 ⟨htouches, hlater⟩⟩
    · rintro (⟨before, d, after, hsplit, hd, hlater⟩ | ⟨hfirst, htouches⟩)
      · cases before with
        | nil =>
          obtain ⟨rfl, rfl⟩ := List.cons.inj hsplit
          exact .inr ⟨.inl hd, hlater⟩
        | cons other before =>
          obtain ⟨rfl, rfl⟩ := List.cons.inj hsplit
          exact .inl ⟨before, d, after, rfl, hd, hlater⟩
      · obtain ⟨hnew, hds⟩ := List.forall_mem_cons.1 htouches
        exact .inr ⟨.inr ⟨hfirst, hnew⟩, hds⟩

end Dictionary

end Phrasebook
