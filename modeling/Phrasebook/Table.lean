/-!
# Tables in order of first entry

A table is a list of keys with values. A new key is put at the end, and a key that is there keeps
its place and gets the new value, so the order of the keys is the order in which they first came.
-/

set_option autoImplicit false

namespace Phrasebook

/-- Keys with values. -/
abbrev Table (κ υ : Type) := List (κ × υ)

namespace Table

variable {κ υ : Type} [BEq κ]

/-- Gives a key a value. -/
def put (k : κ) (v : υ) : Table κ υ → Table κ υ
  | [] => [(k, v)]
  | (k', v') :: rest => if k == k' then (k', v) :: rest else (k', v') :: put k v rest

/-- Takes a key out. -/
def erase (k : κ) (t : Table κ υ) : Table κ υ :=
  t.filter fun e ↦ !(k == e.1)

/-- Whether a key is there. -/
def has (k : κ) (t : Table κ υ) : Bool :=
  (t.lookup k).isSome

/-- The keys in order. -/
def keys (t : Table κ υ) : List κ :=
  t.map Prod.fst

/-- The table that putting pairs one after the other makes. -/
def ofPairs (pairs : List (κ × υ)) : Table κ υ :=
  pairs.foldl (fun t e ↦ t.put e.1 e.2) []

omit [BEq κ] in
@[simp]
theorem keys_nil : keys ([] : Table κ υ) = [] := rfl

theorem mem_keys_of_mem_keys_erase {k k' : κ} {t : Table κ υ} (h : k' ∈ (t.erase k).keys) :
    k' ∈ t.keys := by
  obtain ⟨e, he, rfl⟩ := List.mem_map.1 h
  exact List.mem_map.2 ⟨e, (List.mem_filter.1 he).1, rfl⟩

/-- A key that is there keeps its place, and a new one comes last. -/
theorem keys_put_eq_ite_has (k : κ) (v : υ) (t : Table κ υ) :
    (t.put k v).keys = if t.has k then t.keys else t.keys ++ [k] := by
  unfold keys has
  induction t with
  | nil => rfl
  | cons e t ih =>
    obtain ⟨k', v'⟩ := e
    rw [put, List.lookup_cons]
    cases h : k == k' with
    | true => simp
    | false =>
      simp only [Bool.false_eq_true, if_false, List.map_cons, ih]
      split <;> rfl

section EquivBEq

variable [EquivBEq κ]

theorem lookup_put (k k' : κ) (v : υ) (t : Table κ υ) :
    (t.put k v).lookup k' = if k' == k then some v else t.lookup k' := by
  induction t with
  | nil =>
    rw [put, List.lookup_cons]
    cases k' == k <;> rfl
  | cons e t ih =>
    obtain ⟨l, w⟩ := e
    rw [put]
    cases h : k == l with
    | true =>
      rw [if_pos rfl, List.lookup_cons, List.lookup_cons, BEq.congr_right h]
      cases k' == l <;> rfl
    | false =>
      rw [if_neg Bool.false_ne_true, List.lookup_cons, List.lookup_cons, ih]
      cases hl : k' == l with
      | false => rfl
      | true =>
        have hk : (k' == k) = false := by rw [BEq.congr_left hl, BEq.comm, h]
        rw [hk]
        rfl

/-- Of two values for one key the later one stays. -/
theorem put_put (k : κ) (v w : υ) (t : Table κ υ) : (t.put k v).put k w = t.put k w := by
  induction t with
  | nil => rw [put, put, put, if_pos BEq.rfl]
  | cons e t ih =>
    obtain ⟨l, u⟩ := e
    rw [put, put]
    cases h : k == l with
    | true => rw [if_pos rfl, if_pos rfl, put, if_pos h]
    | false => rw [if_neg Bool.false_ne_true, if_neg Bool.false_ne_true, put,
        if_neg (Bool.eq_false_iff.1 h), ih]

end EquivBEq

variable [LawfulBEq κ]

@[simp]
theorem lookup_put_self (k : κ) (v : υ) (t : Table κ υ) : (t.put k v).lookup k = some v := by
  rw [lookup_put, if_pos BEq.rfl]

theorem lookup_put_of_ne {k k' : κ} (h : k' ≠ k) (v : υ) (t : Table κ υ) :
    (t.put k v).lookup k' = t.lookup k' := by
  rw [lookup_put, if_neg (mt eq_of_beq h)]

theorem mem_of_lookup {k : κ} {v : υ} {t : Table κ υ} (h : t.lookup k = some v) :
    (k, v) ∈ t := by
  obtain ⟨before, after, rfl, -⟩ := List.lookup_eq_some_iff.1 h
  exact List.mem_append_right before List.mem_cons_self

theorem has_iff_mem_keys {k : κ} {t : Table κ υ} : t.has k = true ↔ k ∈ t.keys := by
  unfold has keys
  induction t with
  | nil => simp
  | cons e t ih =>
    obtain ⟨k', v'⟩ := e
    rw [List.lookup_cons, List.map_cons, List.mem_cons, ← ih]
    cases h : k == k' with
    | true => simp [eq_of_beq h]
    | false => simp [ne_of_beq_false h]

theorem keys_put (k : κ) (v : υ) (t : Table κ υ) :
    (t.put k v).keys = if k ∈ t.keys then t.keys else t.keys ++ [k] := by
  simp only [keys_put_eq_ite_has, has_iff_mem_keys]

theorem mem_keys_put {k k' : κ} {v : υ} {t : Table κ υ} (h : k' ∈ (t.put k v).keys) :
    k' = k ∨ k' ∈ t.keys := by
  rw [keys_put] at h
  split at h
  · exact .inr h
  · rcases List.mem_append.1 h with h | h
    · exact .inr h
    · exact .inl (List.mem_singleton.1 h)

end Table

end Phrasebook
