import Mathlib.Data.List.Nodup
import Phrasebook.Formatter.Roster
import Phrasebook.Template.Placeholder

/-!
The order in which formatters are registered.

Longer names are tried before shorter ones, and of two names of one length at most one begins a
text, so an argument means the same in whatever order the names were registered
(`customArgument_perm`). Registering the formatters of a roster in any order gives a roster that
finds the same formatters (`Roster.exists_ofList_perm`).
-/

set_option autoImplicit false

namespace Phrasebook

open Text

/-! ### Tables with distinct keys -/

namespace Table

variable {κ υ : Type} [BEq κ] [LawfulBEq κ] {k : κ} {v : υ} {t u : Table κ υ}

theorem put_of_notMem (h : k ∉ t.keys) : t.put k v = t ++ [(k, v)] := by
  induction t with
  | nil => rfl
  | cons e t ih =>
    obtain ⟨k', v'⟩ := e
    obtain ⟨hne, ht⟩ := List.ne_and_not_mem_of_not_mem_cons h
    have hb : (k == k') = false := by simpa using hne
    simp [put, hb, ih ht]

theorem nodup_keys_put (h : t.keys.Nodup) : (t.put k v).keys.Nodup := by
  rw [keys_put]
  split
  · exact h
  · rename_i hk
    exact h.append (List.nodup_singleton k) (by simpa using hk)

omit [LawfulBEq κ] in
theorem nodup_keys_erase (h : t.keys.Nodup) : (t.erase k).keys.Nodup :=
  h.sublist (List.filter_sublist.map Prod.fst)

theorem lookup_eq_some_iff_mem (h : t.keys.Nodup) : t.lookup k = some v ↔ (k, v) ∈ t := by
  constructor
  · exact mem_of_lookup
  · intro hmem
    obtain ⟨l, l', rfl⟩ := List.append_of_mem hmem
    refine List.lookup_eq_some_iff.2 ⟨l, l', rfl, fun e he ↦ ?_⟩
    rw [keys, List.map_append, List.nodup_append] at h
    rw [bne_iff_ne]
    exact (h.2.2 e.1 (List.mem_map_of_mem he) k List.mem_cons_self).symm

/-- Where the keys are distinct, their order does not matter to looking them up. -/
theorem lookup_perm (h : t.keys.Nodup) (hp : u.Perm t) (k : κ) : u.lookup k = t.lookup k := by
  have hu : u.keys.Nodup := (hp.map Prod.fst).nodup_iff.2 h
  apply Option.ext
  intro v
  rw [lookup_eq_some_iff_mem h, lookup_eq_some_iff_mem hu, hp.mem_iff]

end Table

/-! ### Names of formatters in arguments -/

namespace Template

open Reader

/-- In two orders from the longest name to the shortest, the same name is found first, if no two
names of one length are found. -/
theorem findSome?_of_longestFirst {β : Type} {f : String → Option β} {names names' : List String}
    (hp : names.Perm names')
    (hsorted : names.Pairwise fun a b ↦ b.length ≤ a.length)
    (hsorted' : names'.Pairwise fun a b ↦ b.length ≤ a.length)
    (hunique : ∀ m n, (f m).isSome → (f n).isSome → m.length = n.length → m = n) :
    names.findSome? f = names'.findSome? f := by
  cases h : names.findSome? f with
  | none =>
    rw [List.findSome?_eq_none_iff] at h
    exact (List.findSome?_eq_none_iff.2 fun n hn ↦ h n (hp.mem_iff.2 hn)).symm
  | some a =>
    -- the first name found is at least as long as every name that is found
    have longest {l : List String} (hl : l.Pairwise fun a b ↦ b.length ≤ a.length) {a : β}
        (ha : l.findSome? f = some a) :
        ∃ n ∈ l, f n = some a ∧ ∀ m ∈ l, (f m).isSome → m.length ≤ n.length := by
      obtain ⟨l₁, n, l₂, rfl, hn, hnone⟩ := List.findSome?_eq_some_iff.1 ha
      refine ⟨n, by simp, hn, fun m hm hfound ↦ ?_⟩
      rcases List.mem_append.1 hm with hm | hm
      · rw [hnone m hm] at hfound
        cases hfound
      · rcases List.mem_cons.1 hm with rfl | hm
        · exact Nat.le_refl _
        · exact List.rel_of_pairwise_cons (List.pairwise_append.1 hl).2.1 hm
    obtain ⟨n, hmem, hn, hlongest⟩ := longest hsorted h
    cases h' : names'.findSome? f with
    | none =>
      rw [List.findSome?_eq_none_iff.1 h' n (hp.mem_iff.1 hmem)] at hn
      cases hn
    | some b =>
      obtain ⟨m, hmem', hm, hlongest'⟩ := longest hsorted' h'
      have hle := hlongest m (hp.mem_iff.2 hmem') (by simp [hm])
      have hge := hlongest' n (hp.mem_iff.1 hmem) (by simp [hn])
      have heq := hunique m n (by simp [hm]) (by simp [hn]) (Nat.le_antisymm hle hge)
      rw [← hn, ← hm, heq]

theorem pairwise_longestFirst (names : List String) :
    (longestFirst names).Pairwise fun a b ↦ b.length ≤ a.length := by
  have htrans (a b c : String) (hab : decide (b.length ≤ a.length) = true)
      (hbc : decide (c.length ≤ b.length) = true) : decide (c.length ≤ a.length) = true := by
    rw [decide_eq_true_eq] at hab hbc ⊢
    exact Nat.le_trans hbc hab
  have htotal (a b : String) :
      (decide (b.length ≤ a.length) || decide (a.length ≤ b.length)) = true := by
    rw [Bool.or_eq_true, decide_eq_true_eq, decide_eq_true_eq]
    exact Nat.le_total _ _
  have h := List.pairwise_mergeSort htrans htotal names
  exact h.imp fun hab ↦ of_decide_eq_true hab

/-- What is read as the rest of an argument begins with the name of the formatter. -/
theorem exists_of_customRest {name : String} {s : List Char} (h : (customRest name s).isSome) :
    ∃ t, s = name.toList ++ t := by
  obtain ⟨x, hx⟩ := Option.isSome_iff_exists.1 h
  obtain ⟨y, hy, -⟩ := Option.bind_eq_some_iff.1 hx
  obtain ⟨t, ht, -⟩ := Option.map_eq_some_iff.1 hy
  exact ⟨t, append_of_after? ht⟩

/-- Arguments of formatters are the same for names in another order. -/
theorem customArgument_perm {names names' : List String} (hp : names.Perm names') :
    customArgument names = customArgument names' := by
  have hsorted : (longestFirst names).Perm (longestFirst names') :=
    (List.mergeSort_perm _ _).trans (hp.trans (List.mergeSort_perm _ _).symm)
  have hfirst : firstOf ((longestFirst names).map customRest) =
      firstOf ((longestFirst names').map customRest) := by
    funext s
    rw [firstOf, firstOf, List.findSome?_map, List.findSome?_map]
    refine findSome?_of_longestFirst hsorted (pairwise_longestFirst _) (pairwise_longestFirst _)
      fun m n hm hn hlength ↦ ?_
    obtain ⟨t, ht⟩ := exists_of_customRest hm
    obtain ⟨t', ht'⟩ := exists_of_customRest hn
    exact String.toList_injective (List.append_inj_left (ht.symm.trans ht') hlength)
  simp only [customArgument, hfirst]

theorem callsFormatter_perm {names names' : List String} (hp : names.Perm names') (s : List Char) :
    callsFormatter names s = callsFormatter names' s := by
  rw [callsFormatter, callsFormatter, hp.isEmpty_eq, customArgument_perm hp]

/-- What is put aside does not depend on the order of the names. -/
theorem prepare_perm {names names' : List String} (hp : names.Perm names') (s : List Char) :
    prepare names s = prepare names' s := by
  rw [prepare, prepare, hp.isEmpty_eq, customArgument_perm hp]

end Template

/-! ### Rosters -/

namespace Roster

/-- Rosters that are made by registering and taking out have each name once. -/
theorem nodup_names_register {r r' : Roster} {name : String} {formatter? : Option Formatter}
    (h : r.names.Nodup) (hr : r.register name formatter? = .ok r') : r'.names.Nodup := by
  unfold register at hr
  split at hr
  · cases hr
  · split at hr
    · cases hr
    · cases formatter? with
      | none => cases hr
      | some f =>
        cases hr
        exact Table.nodup_keys_put h

theorem nodup_names_unregister {r : Roster} (h : r.names.Nodup) (name : String) :
    (r.unregister name).1.names.Nodup :=
  Table.nodup_keys_erase h

/-- A new name that a formatter can have comes last. -/
theorem exists_register_of_notMem {r : Roster} {name : String} (f : Formatter)
    (hname : name ∉ reservedNames ∧ isName name = true) (hnew : name ∉ r.names) :
    ∃ r', r.register name (some f) = .ok r' ∧ r'.entries = r.entries ++ [(name, f)] := by
  have hreserved : reservedNames.contains name = false := by simpa using hname.1
  have hvalid : (!isName name) = false := by simp [hname.2]
  simp only [register, hreserved, hvalid, Bool.false_eq_true, dite_false]
  exact ⟨_, rfl, Table.put_of_notMem hnew⟩

/-- Registering formatters with distinct names one after the other keeps them in this order. -/
theorem exists_foldlM_register (formatters : List (String × Formatter)) (r : Roster)
    (hvalid : ∀ e ∈ formatters, e.1 ∉ reservedNames ∧ isName e.1 = true)
    (hdistinct : (r.names ++ formatters.map Prod.fst).Nodup) :
    ∃ r', (formatters.map fun e ↦ (e.1, some e.2)).foldlM (fun r f ↦ r.register f.1 f.2) r =
      Except.ok r' ∧ r'.entries = r.entries ++ formatters := by
  induction formatters generalizing r with
  | nil => exact ⟨r, rfl, by simp⟩
  | cons e formatters ih =>
    obtain ⟨hname, hvalid⟩ := List.forall_mem_cons.1 hvalid
    have hnew : e.1 ∉ r.names := by
      intro hmem
      exact (List.nodup_append.1 hdistinct).2.2 _ hmem e.1 (by simp) rfl
    obtain ⟨r', hr', hentries⟩ := exists_register_of_notMem e.2 hname hnew
    have hnames : r'.names = r.names ++ [e.1] := by
      rw [names, Table.keys, hentries, List.map_append]
      rfl
    obtain ⟨r'', hr'', hentries'⟩ := ih r' hvalid (by rw [hnames]; simpa using hdistinct)
    refine ⟨r'', ?_, by rw [hentries', hentries]; simp⟩
    rw [List.map_cons, List.foldlM_cons, hr']
    exact hr''

/-- The formatters of a roster can be registered in any order, and are found as before. -/
theorem exists_ofList_perm {r : Roster} (h : r.names.Nodup) {formatters : List (String × Formatter)}
    (hp : formatters.Perm r.entries) :
    ∃ r', ofList (formatters.map fun e ↦ (e.1, some e.2)) = .ok r' ∧ r'.names.Perm r.names ∧
      r'.get? = r.get? := by
  have hkeys : (formatters.map Prod.fst).Perm r.names := hp.map Prod.fst
  obtain ⟨r', hr', hentries⟩ := exists_foldlM_register formatters {}
    (fun e he ↦ r.named e.1 (hkeys.mem_iff.1 (List.mem_map_of_mem he)))
    (by simpa [names] using hkeys.nodup_iff.2 h)
  have hsame : r'.entries = formatters := by simpa using hentries
  refine ⟨r', hr', ?_, ?_⟩
  · rw [names, hsame]
    exact hkeys
  · funext name
    rw [get?, get?, hsame]
    exact Table.lookup_perm h hp name

end Roster

end Phrasebook
