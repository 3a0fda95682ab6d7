import Phrasebook.Proofs.Loads

/-!
Loading dictionaries again.

A dictionary without double keys is known from its keys in order and from what is under each of them
(`Table.ext_of_lookup`), and merging says what becomes of both (`Dictionary.keys_merge`,
`Dictionary.lookup_merge`). So each law of merging is one about a single key, where entries that are
no branches are replaced and branches lead to the same law one level down
(`Dictionary.OnlyPhrases.induction`). A dictionary that is merged a second time changes nothing
(`Dictionary.merge_merge_self`), and so does loading it into a catalog a second time
(`Catalog.load_load`).

Merging is associative unless a phrase of the dictionary in the middle cuts off a branch: it removes
a branch of the first dictionary before the last one brings its own to the same place, but when the
last two are merged first, it is gone before it could (`Dictionary.merge_assoc`). Dictionaries that
never have a phrase and a branch in one place are safe from this.
-/

set_option autoImplicit false

namespace Phrasebook

/-! ### Tables without double keys -/

namespace Table

variable {κ υ : Type} [BEq κ] {k k' : κ} {v : υ} {t u : Table κ υ}

theorem exists_mem_of_lookup (h : t.lookup k = some v) : ∃ l, (l, v) ∈ t := by
  induction t with
  | nil => cases h
  | cons e t ih =>
    rw [List.lookup_cons] at h
    split at h
    · exact ⟨e.1, Option.some.inj h ▸ List.mem_cons_self⟩
    · obtain ⟨l, hl⟩ := ih h
      exact ⟨l, List.mem_cons_of_mem _ hl⟩

variable [EquivBEq κ]

theorem has_congr (h : (k == k') = true) : t.has k = t.has k' := by
  rw [has, has, lookup_congr h]

theorem has_of_mem_keys (h : k ∈ t.keys) : t.has k = true := by
  induction t with
  | nil => cases h
  | cons e t ih =>
    rw [has, List.lookup_cons]
    rcases List.mem_cons.1 h with rfl | h
    · rw [BEq.rfl]
      rfl
    · cases k == e.1 with
      | true => rfl
      | false => exact ih h

theorem has_put (k k' : κ) (v : υ) (t : Table κ υ) :
    (t.put k v).has k' = (k' == k || t.has k') := by
  rw [has, lookup_put]
  cases k' == k <;> rfl

/-- Tables without double keys are the same if they have the same keys in order and the same value
under each of them. -/
theorem ext_of_lookup (ht : (keys t).Pairwise fun k l ↦ (k == l) = false) (hkeys : keys t = keys u)
    (h : ∀ k ∈ keys t, t.lookup k = u.lookup k) : t = u := by
  induction t generalizing u with
  | nil => exact (List.map_eq_nil_iff.1 hkeys.symm).symm
  | cons e t ih =>
    obtain ⟨k, v⟩ := e
    cases u with
    | nil => cases hkeys
    | cons f u =>
      obtain ⟨l, w⟩ := f
      obtain ⟨hkl, htail⟩ : k = l ∧ keys t = keys u := List.cons.inj hkeys
      subst hkl
      obtain ⟨hk, ht⟩ := List.pairwise_cons.1 ht
      have hfirst : some v = some w := by simpa using h k List.mem_cons_self
      have hrest : ∀ l ∈ keys t, t.lookup l = u.lookup l := by
        intro l hl
        have hlk : (l == k) = false := by rw [BEq.comm, hk l hl]
        simpa [List.lookup_cons, hlk] using h l (List.mem_cons_of_mem _ hl)
      rw [Option.some.inj hfirst, ih ht htail hrest]

end Table

namespace Entry

theorem OnlyPhrases.cases {e : Entry} (h : e.OnlyPhrases) :
    (∃ phrase, e = .text phrase) ∨
      ∃ entries, e = .branch entries ∧ Dictionary.OnlyPhrases entries := by
  cases e with
  | text phrase => exact .inl ⟨phrase, rfl⟩
  | branch entries => exact .inr ⟨entries, rfl, h⟩
  | _ => exact h.elim

end Entry

namespace Dictionary

variable {a b c d new s t : Dictionary}

/-! ### Dictionaries key by key -/

/-- No key comes twice. -/
def Distinct (d : Dictionary) : Prop :=
  (Table.keys d).Pairwise fun k l ↦ (k == l) = false

theorem OnlyPhrases.distinct (h : d.OnlyPhrases) : Distinct d :=
  List.pairwise_map.2 h.1

theorem OnlyPhrases.lookup {key : Key} {entries : Dictionary} (h : d.OnlyPhrases)
    (hlookup : d.lookup key = some (.branch entries)) : OnlyPhrases entries :=
  h.2.of_lookup hlookup

/-- What holds of a dictionary of phrases as soon as it holds of the branches in it holds of all of
them. -/
theorem OnlyPhrases.induction {motive : (d : Dictionary) → d.OnlyPhrases → Prop}
    (step : ∀ (d : Dictionary) (h : d.OnlyPhrases),
      (∀ key entries (hlookup : d.lookup key = some (.branch entries)),
        motive entries (h.lookup hlookup)) → motive d h)
    (d : Dictionary) (h : d.OnlyPhrases) : motive d h :=
  step d h fun _ entries hlookup ↦ OnlyPhrases.induction step entries (h.lookup hlookup)
termination_by sizeOf d
decreasing_by
  obtain ⟨l, hl⟩ := Table.exists_mem_of_lookup hlookup
  have hlt := List.sizeOf_lt_of_mem hl
  simp only [Prod.mk.sizeOf_spec, Entry.branch.sizeOf_spec] at hlt
  omega

/-- The keys of a merged dictionary are those of the older one and then the new ones. -/
theorem keys_merge (hnew : Distinct new) (d : Dictionary) :
    Table.keys (merge d new) = Table.keys d ++ (Table.keys new).filter fun k ↦ !Table.has k d := by
  induction new generalizing d with
  | nil =>
    rw [merge]
    exact (List.append_nil _).symm
  | cons x new ih =>
    obtain ⟨k, e⟩ := x
    obtain ⟨hk, hnew⟩ := List.pairwise_cons.1 hnew
    -- no later key is the one that was put
    have hlater : (Table.keys new).filter
        (fun l ↦ !Table.has l (Table.put k (mergeEntry (d.lookup k) e) d)) =
          (Table.keys new).filter fun l ↦ !Table.has l d := by
      refine List.filter_congr fun l hl ↦ ?_
      rw [Table.has_put, BEq.comm, hk l hl, Bool.false_or]
    have hfirst : Table.keys ((k, e) :: new) = k :: Table.keys new := rfl
    rw [merge, ih hnew, hlater, Table.keys_put_eq_ite_has, hfirst, List.filter_cons]
    cases Table.has k d with
    | true => rfl
    | false => exact List.append_assoc _ _ _

theorem has_merge (hnew : Distinct new) (d : Dictionary) (key : Key) :
    Table.has key (merge d new) = (Table.has key d || Table.has key new) := by
  rw [Table.has, lookup_merge (List.pairwise_map.1 hnew), Table.has, Table.has]
  cases new.lookup key <;> cases d.lookup key <;> rfl

theorem Distinct.merge (hd : Distinct d) (hnew : Distinct new) : Distinct (merge d new) := by
  rw [Distinct, keys_merge hnew, List.pairwise_append]
  refine ⟨hd, hnew.filter _, fun k hk l hl ↦ ?_⟩
  obtain ⟨-, hl⟩ := List.mem_filter.1 hl
  rw [Bool.eq_false_iff]
  intro h
  rw [← Table.has_congr h, Table.has_of_mem_keys hk] at hl
  cases hl

/-- Dictionaries with the same keys in order and the same entries are the same. -/
theorem ext_of_lookup (hd : Distinct d) (hkeys : Table.keys d = Table.keys new)
    (h : ∀ key, d.lookup key = new.lookup key) : d = new :=
  Table.ext_of_lookup hd hkeys fun key _ ↦ h key

/-! ### Merging again -/

/-- Where no key is new, the keys stay as they are. -/
theorem keys_merge_of_has (hnew : Distinct new) (h : ∀ k ∈ Table.keys new, Table.has k d = true) :
    Table.keys (merge d new) = Table.keys d := by
  have hnone : ((Table.keys new).filter fun k ↦ !Table.has k d) = [] := by
    rw [List.filter_eq_nil_iff]
    intro k hk
    simp [h k hk]
  rw [keys_merge hnew, hnone, List.append_nil]

@[simp]
theorem mergeEntry_text (old : Option Entry) (phrase : String) :
    mergeEntry old (.text phrase) = .text phrase := by
  rw [mergeEntry]
  intro entries h
  cases h

@[simp]
theorem mergeEntry_branch_branch (older entries : List (Key × Entry)) :
    mergeEntry (some (.branch older)) (.branch entries) = .branch (merge older entries) := by
  rw [mergeEntry]

@[simp]
theorem mergeEntry_none (e : Entry) : mergeEntry none e = e := by
  unfold mergeEntry
  split <;> rfl

/-- A branch takes the place of what is no branch. -/
theorem mergeEntry_branch_of_ne {old : Option Entry} (h : ∀ older, old ≠ some (.branch older))
    (entries : List (Key × Entry)) : mergeEntry old (.branch entries) = .branch entries := by
  rcases mergeEntry_branch_cases old entries with ⟨older, hold, -⟩ | ⟨-, he⟩
  · exact absurd hold (h older)
  · exact he

/-- A dictionary merged into itself is the same. -/
theorem merge_self (hs : s.OnlyPhrases) : merge s s = s := by
  induction s, hs using OnlyPhrases.induction with
  | step s hs ih =>
    refine ext_of_lookup (hs.distinct.merge hs.distinct)
      (keys_merge_of_has hs.distinct fun _ ↦ Table.has_of_mem_keys) fun key ↦ ?_
    rw [lookup_merge hs.1]
    cases hlookup : s.lookup key with
    | none => rfl
    | some e =>
      rcases (hs.2.of_lookup hlookup).cases with ⟨phrase, rfl⟩ | ⟨entries, rfl, -⟩
      · simp
      · simp [ih key entries hlookup]

/-- A dictionary that was merged into another changes nothing when it comes again. -/
theorem merge_merge_self (ht : t.OnlyPhrases) (hs : s.OnlyPhrases) :
    merge (merge t s) s = merge t s := by
  induction s, hs using OnlyPhrases.induction generalizing t with
  | step s hs ih =>
    have hold : ∀ k ∈ Table.keys s, Table.has k (merge t s) = true := by
      intro k hk
      rw [has_merge hs.distinct, Table.has_of_mem_keys hk, Bool.or_true]
    have hmerged := ht.distinct.merge hs.distinct
    refine ext_of_lookup (hmerged.merge hs.distinct) (keys_merge_of_has hs.distinct hold)
      fun key ↦ ?_
    rw [lookup_merge hs.1, lookup_merge hs.1]
    cases hlookup : s.lookup key with
    | none => rfl
    | some e =>
      rcases (hs.2.of_lookup hlookup).cases with ⟨phrase, rfl⟩ | ⟨entries, rfl, hentries⟩
      · simp
      · rcases mergeEntry_branch_cases (t.lookup key) entries with
          ⟨older, hold, hentry⟩ | ⟨-, hentry⟩
        · simp [hentry, ih key entries hlookup (ht.lookup hold)]
        · simp [hentry, merge_self hentries]

/-! ### Merging three dictionaries -/

/-- What a row of keys leads to from an entry. -/
def reach (e : Entry) : List Key → Option Entry
  | [] => some e
  | key :: path =>
    match e with
    | .branch entries => (entries.lookup key).bind fun e ↦ reach e path
    | _ => none

/-- A phrase of `b` is where `a` and `c` have branches. -/
def CutsOff (a b c : Dictionary) : Prop :=
  ∃ path older phrase entries, reach (.branch a) path = some (.branch older) ∧
    reach (.branch b) path = some (.text phrase) ∧ reach (.branch c) path = some (.branch entries)

/-- A row of keys leads to a phrase in `d` and to a branch in `new`. -/
def Clash (d new : Dictionary) : Prop :=
  ∃ path phrase entries, reach (.branch d) path = some (.text phrase) ∧
    reach (.branch new) path = some (.branch entries)

theorem reach_cons_of_lookup {key : Key} {e : Entry} (h : d.lookup key = some e)
    (path : List Key) : reach (.branch d) (key :: path) = reach e path := by
  rw [reach, h]
  rfl

/-- Below a key that all three have, nothing is cut off unless it is cut off above. -/
theorem CutsOff.of_lookup {key : Key} {older middle entries : Dictionary}
    (ha : a.lookup key = some (.branch older)) (hb : b.lookup key = some (.branch middle))
    (hc : c.lookup key = some (.branch entries)) (h : CutsOff older middle entries) :
    CutsOff a b c := by
  obtain ⟨path, x, phrase, z, hx, hy, hz⟩ := h
  refine ⟨key :: path, x, phrase, z, ?_, ?_, ?_⟩
  · rw [reach_cons_of_lookup ha, hx]
  · rw [reach_cons_of_lookup hb, hy]
  · rw [reach_cons_of_lookup hc, hz]

/-- One key of three dictionaries: where the branches under it may be merged in either order, the
entries may be. -/
theorem mergeEntry_assoc {x : Option Entry} {y z : Entry} (hy : y.OnlyPhrases)
    (hz : z.OnlyPhrases)
    (hcut : ∀ older phrase entries, x = some (.branch older) → y = .text phrase →
      z ≠ .branch entries)
    (hbranch : ∀ older middle entries, x = some (.branch older) → y = .branch middle →
      z = .branch entries →
      merge (merge older middle) entries = merge older (merge middle entries)) :
    mergeEntry (some (mergeEntry x y)) z = mergeEntry x (mergeEntry (some y) z) := by
  rcases hz.cases with ⟨last, rfl⟩ | ⟨entries, rfl, -⟩
  · simp only [mergeEntry_text]
  · rcases hy.cases with ⟨phrase, rfl⟩ | ⟨middle, rfl, -⟩
    · -- the first entry is no branch, since it would be cut off
      have hx : ∀ older, x ≠ some (.branch older) :=
        fun older hx ↦ hcut older phrase entries hx rfl rfl
      have htext : ∀ older, some (Entry.text phrase) ≠ some (.branch older) := by simp
      rw [mergeEntry_text, mergeEntry_branch_of_ne htext, mergeEntry_branch_of_ne hx]
    · rw [mergeEntry_branch_branch]
      rcases mergeEntry_branch_cases x middle with ⟨older, rfl, -⟩ | ⟨hx, hentry⟩
      · simp only [mergeEntry_branch_branch, hbranch older middle entries rfl rfl rfl]
      · rw [hentry, mergeEntry_branch_branch, mergeEntry_branch_of_ne hx]

theorem merge_assoc (ha : a.OnlyPhrases) (hb : b.OnlyPhrases) (hc : c.OnlyPhrases)
    (h : ¬ CutsOff a b c) : merge (merge a b) c = merge a (merge b c) := by
  induction c, hc using OnlyPhrases.induction generalizing a b with
  | step c hc ih =>
    have hbc := hb.distinct.merge hc.distinct
    have hab := ha.distinct.merge hb.distinct
    refine ext_of_lookup (hab.merge hc.distinct) ?_ fun key ↦ ?_
    · rw [keys_merge hc.distinct, keys_merge hb.distinct, keys_merge hbc, keys_merge hc.distinct,
        List.filter_append, List.filter_filter, List.append_assoc]
      simp only [has_merge hb.distinct, Bool.not_or]
    · rw [lookup_merge hc.1, lookup_merge hb.1, lookup_merge (List.pairwise_map.1 hbc),
        lookup_merge hc.1]
      cases hz : c.lookup key with
      | none => rfl
      | some z =>
        cases hy : b.lookup key with
        | none => simp
        | some y =>
          simp only [Option.map_some, Option.some_or, Option.some.injEq]
          refine mergeEntry_assoc (hb.2.of_lookup hy) (hc.2.of_lookup hz) ?_ ?_
          · rintro older phrase entries hx rfl rfl
            refine h ⟨[key], older, phrase, entries, ?_, ?_, ?_⟩
            · rw [reach_cons_of_lookup hx, reach]
            · rw [reach_cons_of_lookup hy, reach]
            · rw [reach_cons_of_lookup hz, reach]
          · rintro older middle entries hx rfl rfl
            exact ih key entries hz (ha.lookup hx) (hb.lookup hy)
              fun hcut ↦ h (hcut.of_lookup hx hy hz)

theorem exists_of_reach_cons {key : Key} {path : List Key} {e : Entry}
    (h : reach (.branch d) (key :: path) = some e) :
    ∃ f, d.lookup key = some f ∧ reach f path = some e := by
  rw [reach] at h
  exact Option.bind_eq_some_iff.1 h

theorem exists_branch_of_reach {e f : Entry} {key : Key} {path : List Key}
    (h : reach e (key :: path) = some f) : ∃ entries, e = .branch entries := by
  cases e with
  | branch entries => exact ⟨entries, rfl⟩
  | _ => cases h

/-- Where a branch is cut off, the order of merging decides whether what was in it is still
there. -/
theorem reach_merge_of_cut {path : List Key} {older entries : Dictionary} {phrase : String}
    (hb : b.OnlyPhrases) (hc : c.OnlyPhrases) (hx : reach (.branch a) path = some (.branch older))
    (hy : reach (.branch b) path = some (.text phrase))
    (hz : reach (.branch c) path = some (.branch entries)) :
    reach (.branch (merge (merge a b) c)) path = some (.branch entries) ∧
      reach (.branch (merge a (merge b c))) path = some (.branch (merge older entries)) := by
  induction path generalizing a b c with
  | nil => cases hy
  | cons key path ih =>
    obtain ⟨x, hxl, hx⟩ := exists_of_reach_cons hx
    obtain ⟨y, hyl, hy⟩ := exists_of_reach_cons hy
    obtain ⟨z, hzl, hz⟩ := exists_of_reach_cons hz
    have hbc := hb.distinct.merge hc.distinct
    have hleft : (merge (merge a b) c).lookup key =
        some (mergeEntry (some (mergeEntry (some x) y)) z) := by
      rw [lookup_merge hc.1, lookup_merge hb.1, hxl, hyl, hzl]
      rfl
    have hright : (merge a (merge b c)).lookup key =
        some (mergeEntry (some x) (mergeEntry (some y) z)) := by
      rw [lookup_merge (List.pairwise_map.1 hbc), lookup_merge hc.1, hxl, hyl, hzl]
      rfl
    rw [reach_cons_of_lookup hleft, reach_cons_of_lookup hright]
    cases path with
    | nil =>
      obtain rfl := Option.some.inj hx
      obtain rfl := Option.some.inj hy
      obtain rfl := Option.some.inj hz
      simp [reach, mergeEntry]
    | cons next path =>
      obtain ⟨x, rfl⟩ := exists_branch_of_reach hx
      obtain ⟨y, rfl⟩ := exists_branch_of_reach hy
      obtain ⟨z, rfl⟩ := exists_branch_of_reach hz
      simp only [mergeEntry_branch_branch]
      exact ih (hb.lookup hyl) (hc.lookup hzl) hx hy hz

/-- A menu that a phrase takes the place of and that comes back with another entry. -/
example :
    let menu : Dictionary := [(.text "menu", .branch [(.text "open", .text "Open")])]
    let phrase : Dictionary := [(.text "menu", .text "Menu")]
    let last : Dictionary := [(.text "menu", .branch [(.text "close", .text "Close")])]
    phrase? (merge (merge menu phrase) last) "menu.open" = none ∧
      phrase? (merge menu (merge phrase last)) "menu.open" = some "Open" := by
  decide

/-- A dictionary of phrases that comes a second time changes nothing, one that is merged into itself
is the same, and so is one that nothing is merged into, with the keys in their order. Dictionaries
of which no two have a phrase and a branch in one place may be merged in either order: the results
are the same, so the same is under every row of keys. -/
theorem merge_laws :
    (∀ t s : Dictionary, t.OnlyPhrases → s.OnlyPhrases →
      merge (merge t s) s = merge t s ∧ merge s s = s ∧ merge t [] = t) ∧
    ∀ a b c : Dictionary, a.OnlyPhrases → b.OnlyPhrases → c.OnlyPhrases →
      (∀ d ∈ [a, b, c], ∀ new ∈ [a, b, c], ¬ Clash d new) →
      merge (merge a b) c = merge a (merge b c) := by
  refine ⟨fun t s ht hs ↦ ⟨merge_merge_self ht hs, merge_self hs, by rw [merge]⟩, ?_⟩
  intro a b c ha hb hc hclash
  refine merge_assoc ha hb hc ?_
  rintro ⟨path, older, phrase, entries, hx, hy, -⟩
  exact hclash b (by simp) a (by simp) ⟨path, phrase, older, hy, hx⟩

/-- A menu, one with another entry and a page of help, and one that says an entry anew. -/
def menus : Dictionary × Dictionary × Dictionary :=
  ([(.text "menu", .branch [(.text "open", .text "Open")])],
    [(.text "menu", .branch [(.text "close", .text "Close")]),
      (.text "help", .branch [(.text "about", .text "About")])],
    [(.text "help", .branch [(.text "index", .text "Index")]),
      (.text "menu", .branch [(.text "open", .text "Open a file")])])

theorem merge_laws_menus :
    (∀ d ∈ [menus.1, menus.2.1, menus.2.2], d.OnlyPhrases) ∧
      (∀ d ∈ [menus.1, menus.2.1, menus.2.2], ∀ new ∈ [menus.1, menus.2.1, menus.2.2],
        ¬ Clash d new) ∧
      merge (merge menus.1 menus.2.2) menus.2.2 = merge menus.1 menus.2.2 ∧
      merge menus.2.2 menus.2.2 = menus.2.2 ∧ merge menus.1 [] = menus.1 ∧
      merge (merge menus.1 menus.2.1) menus.2.2 = merge menus.1 (merge menus.2.1 menus.2.2) ∧
      merge (merge menus.1 menus.2.1) menus.2.2 =
        [(.text "menu", .branch [(.text "open", .text "Open a file"),
            (.text "close", .text "Close")]),
          (.text "help", .branch [(.text "about", .text "About"),
            (.text "index", .text "Index")])] := by
  have hkeys : (Key.text "menu" == Key.text "help") = false ∧
    (Key.text "help" == Key.text "menu") = false := by decide
  have hphrases : ∀ d ∈ [menus.1, menus.2.1, menus.2.2], d.OnlyPhrases := by
    simp only [menus, List.forall_mem_cons, OnlyPhrases, Entry.OnlyPhrases, Entry.AllOnlyPhrases,
      List.pairwise_cons, List.not_mem_nil]
    simp [hkeys]
  -- all phrases are two keys deep, so no branch is where a phrase is
  have hdeep : ∀ d ∈ [menus.1, menus.2.1, menus.2.2], ∀ x ∈ d, ∃ entries, x.2 = .branch entries ∧
      ∀ y ∈ entries, ∃ phrase, y.2 = .text phrase := by
    simp only [menus, List.forall_mem_cons]
    simp
  have hlevel : ∀ d ∈ [menus.1, menus.2.1, menus.2.2], ∀ path e, reach (.branch d) path = some e →
      path.length < 2 ∧ (∃ entries, e = .branch entries) ∨
        path.length = 2 ∧ ∃ phrase, e = .text phrase := by
    intro d hd path e h
    rcases path with _ | ⟨key, _ | ⟨next, path⟩⟩
    · exact .inl ⟨by simp, d, (Option.some.inj h).symm⟩
    · obtain ⟨f, hf, h⟩ := exists_of_reach_cons h
      obtain ⟨l, hl⟩ := Table.exists_mem_of_lookup hf
      obtain ⟨entries, hentries, -⟩ := hdeep d hd _ hl
      exact .inl ⟨by simp, entries, (Option.some.inj h).symm.trans hentries⟩
    · obtain ⟨f, hf, h⟩ := exists_of_reach_cons h
      obtain ⟨l, hl⟩ := Table.exists_mem_of_lookup hf
      obtain ⟨entries, rfl, htexts⟩ := hdeep d hd _ hl
      obtain ⟨g, hg, h⟩ := exists_of_reach_cons h
      obtain ⟨m, hm⟩ := Table.exists_mem_of_lookup hg
      obtain ⟨phrase, rfl⟩ := htexts _ hm
      cases path with
      | nil => exact .inr ⟨rfl, phrase, (Option.some.inj h).symm⟩
      | cons last path => cases h
  have hclash : ∀ d ∈ [menus.1, menus.2.1, menus.2.2], ∀ new ∈ [menus.1, menus.2.1, menus.2.2],
      ¬ Clash d new := by
    rintro d hd new hnew ⟨path, phrase, entries, hx, hy⟩
    rcases hlevel d hd path _ hx with ⟨-, _, he⟩ | ⟨hdepth, -⟩
    · cases he
    · rcases hlevel new hnew path _ hy with ⟨hlt, -⟩ | ⟨-, _, he⟩
      · omega
      · cases he
  obtain ⟨hfirst, hsecond, hthird, -⟩ := by simpa only [List.forall_mem_cons] using hphrases
  obtain ⟨hagain, hassoc⟩ := merge_laws
  obtain ⟨hagain, hself, hnothing⟩ := hagain menus.1 menus.2.2 hfirst hthird
  exact ⟨hphrases, hclash, hagain, hself, hnothing,
    hassoc menus.1 menus.2.1 menus.2.2 hfirst hsecond hthird hclash, rfl⟩

end Dictionary

namespace Catalog

/-- A dictionary that was loaded for a locale changes nothing when it is loaded again. -/
theorem load_load {c : Catalog} {locale : String} {d : Dictionary}
    (hold : ∀ old, c.dictionary? locale = some old → old.OnlyPhrases) (hd : d.OnlyPhrases) :
    (c.load locale d).load locale d = c.load locale d := by
  have hbefore : Dictionary.OnlyPhrases ((c.dictionary? locale).getD []) := by
    cases h : c.dictionary? locale with
    | none => exact ⟨List.Pairwise.nil, trivial⟩
    | some old => exact hold old h
  rw [load, dictionary?_load_self, Option.getD_some, Dictionary.merge_merge_self hbefore hd, load,
    Table.put_put]

end Catalog

end Phrasebook
