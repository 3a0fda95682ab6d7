import Mathlib.Data.List.DropRight
import Mathlib.Data.List.Nodup
import Phrasebook.Proofs.Results

/-!
What a cache of messages holds after a run of requests.

A request puts in at most one template, behind the others, and keeps the newest ones as far as there
is room (`keys_perform`). So after any run the templates in the cache are distinct and the last ones
that were put in since the cache was cleared (`Records.serve`), and reading gives what it gives
without a cache. Requests that find the template, or that fail, change nothing.
-/

set_option autoImplicit false

namespace Phrasebook

namespace MessageCache

/-! ### Requests -/

/-- What a program can ask of a cache. -/
inductive Request
  | read (template : String)
  | resize (size : Int)
  | clear

/-- What comes back. -/
inductive Reply
  | reading (reading : Message.Reading)
  | done
  | refused (fault : SizeFault)

/-- The cache after a request, and the reply. -/
def perform (c : MessageCache) : Request → MessageCache × Reply
  | .read template => ((c.read template).1, .reading (c.read template).2)
  | .resize size =>
    match c.resizeTo size with
    | .ok c => (c, .done)
    | .error f => (c, .refused f)
  | .clear => (c.clear, .done)

/-- The cache after several requests. -/
def serve (c : MessageCache) (requests : List Request) : MessageCache :=
  requests.foldl (fun c request ↦ (c.perform request).1) c

/-- The templates in the cache, the oldest first. -/
def keys (c : MessageCache) : List String :=
  c.entries.keys

/-- The template that a request puts in: a message that is not there yet, if there is any room at
all. -/
def insertion? (c : MessageCache) : Request → Option String
  | .read template =>
    match Message.parse template with
    | .ok _ => if c.maxSize ≠ 0 ∧ template ∉ c.keys then some template else none
    | .error _ => none
  | .resize _ => none
  | .clear => none

/-- The templates that requests put in after those of `log`, from the last time on that the cache
is cleared. -/
def insertions (c : MessageCache) (log : List String) : List Request → List String
  | [] => log
  | request :: requests =>
    let log := match request with
      | .clear => []
      | _ => log ++ (c.insertion? request).toList
    insertions (c.perform request).1 log requests

/-! ### One request -/

section Perform

variable {c : MessageCache} {template : String}

theorem lookup_eq_none_iff : c.entries.lookup template = none ↔ template ∉ c.keys := by
  rw [List.lookup_eq_none_iff, keys, Table.keys, List.mem_map]
  constructor
  · rintro h ⟨e, he, rfl⟩
    simpa using h e he
  · intro h e he
    rw [bne_iff_ne]
    rintro rfl
    exact h ⟨e, he, rfl⟩

/-- A template that is there is not read again. -/
theorem read_of_mem (h : template ∈ c.keys) : (c.read template).1 = c := by
  cases hlookup : c.entries.lookup template with
  | none => exact absurd h (lookup_eq_none_iff.1 hlookup)
  | some message => simp [read, hlookup]

/-- What cannot be read is not kept. -/
theorem read_of_error {f : TemplateFault} (h : Message.parse template = .error f) :
    (c.read template).1 = c := by
  unfold read
  split
  · rfl
  · dsimp only
    split
    · rename_i hm
      exact absurd (h.symm.trans hm) (by simp)
    · rfl

/-- A message that is not there is put in behind the newest ones. -/
theorem read_of_ok {message : Message} (h : template ∉ c.keys)
    (hread : Message.parse template = .ok message) :
    (c.read template).1 = c.insert template message hread := by
  have hlookup := lookup_eq_none_iff.2 h
  unfold read
  split
  · rename_i hsome
    exact absurd (hlookup.symm.trans hsome) (by simp)
  · dsimp only
    split
    · rename_i hm
      obtain rfl := Except.ok.inj (hm.symm.trans hread)
      rfl
    · rename_i hf
      exact absurd (hf.symm.trans hread) (by simp)

theorem keys_insert {message : Message} (hread : Message.parse template = .ok message)
    (hsize : c.maxSize ≠ 0) :
    (c.insert template message hread).keys = (c.keys ++ [template]).rtake c.maxSize := by
  have hinsert : (c.insert template message hread).keys =
      c.keys.drop (c.keys.length - (c.maxSize - 1)) ++ [template] := by
    simp [insert, hsize, keys, Table.keys]
  obtain ⟨n, hn⟩ := Nat.exists_eq_succ_of_ne_zero hsize
  rw [hinsert, hn, Nat.succ_eq_add_one, List.rtake_concat_succ, List.rtake, Nat.add_sub_cancel]

/-- There is room for what is there. -/
theorem rtake_keys (c : MessageCache) : c.keys.rtake c.maxSize = c.keys := by
  have h : c.keys.length - c.maxSize = 0 := by
    rw [keys, Table.keys, List.length_map]
    exact Nat.sub_eq_zero_of_le c.bounded
  rw [List.rtake, h, List.drop_zero]

theorem keys_resize (c : MessageCache) (size : Nat) : (c.resize size).keys = c.keys.rtake size := by
  simp [keys, Table.keys, resize, List.rtake]

/-- A size that is not negative is taken on. -/
theorem resizeTo_cases (c : MessageCache) (size : Int) :
    0 ≤ size ∧ c.resizeTo size = .ok (c.resize size.toNat) ∨
      size < 0 ∧ c.resizeTo size = .error ⟨"max_size"⟩ := by
  rw [resizeTo, bound]
  split
  · rename_i h
    exact .inl ⟨h, rfl⟩
  · rename_i h
    exact .inr ⟨Int.not_le.1 h, rfl⟩

/-- Reading puts the template in, or it changes nothing. -/
theorem insertion?_read_cases (c : MessageCache) (template : String) :
    (∃ message hread, c.maxSize ≠ 0 ∧ template ∉ c.keys ∧
        c.insertion? (.read template) = some template ∧
        (c.read template).1 = c.insert template message hread) ∨
      c.insertion? (.read template) = none ∧ (c.read template).1 = c := by
  have hparse : (∃ message, Message.parse template = .ok message) ∨
      ∃ f, Message.parse template = .error f := by
    cases Message.parse template <;> simp
  rcases hparse with ⟨message, hread⟩ | ⟨f, hread⟩
  · by_cases hmem : template ∈ c.keys
    · exact .inr ⟨by simp [insertion?, hread, hmem], read_of_mem hmem⟩
    by_cases hsize : c.maxSize = 0
    · refine .inr ⟨by simp [insertion?, hread, hsize], ?_⟩
      rw [read_of_ok hmem hread, insert, dif_pos hsize]
    · exact .inl ⟨message, hread, hsize, hmem, by simp [insertion?, hread, hsize, hmem],
        read_of_ok hmem hread⟩
  · exact .inr ⟨by simp [insertion?, hread], read_of_error hread⟩

/-- Unless the cache is cleared, a request keeps the newest templates, with the one that it puts in
behind them, as far as there is room. -/
theorem keys_perform (c : MessageCache) {request : Request} (h : request ≠ .clear) :
    (c.perform request).1.keys =
      (c.keys ++ (c.insertion? request).toList).rtake (c.perform request).1.maxSize := by
  cases request with
  | clear => exact absurd rfl h
  | resize size =>
    rw [perform, insertion?, Option.toList_none, List.append_nil]
    rcases c.resizeTo_cases size with ⟨-, hsize⟩ | ⟨-, hsize⟩
    · rw [hsize]
      exact c.keys_resize size.toNat
    · rw [hsize]
      exact c.rtake_keys.symm
  | read template =>
    rw [perform, maxSize_read]
    rcases c.insertion?_read_cases template with ⟨message, hread, hsize, -, hin, hc⟩ | ⟨hin, hc⟩
    · rw [hin, hc]
      exact keys_insert hread hsize
    · rw [hin, hc, Option.toList_none, List.append_nil, rtake_keys]

/-- What a request puts in is not there yet. -/
theorem notMem_of_insertion? {c : MessageCache} {request : Request} {template : String}
    (h : template ∈ c.insertion? request) : template ∉ c.keys := by
  cases request with
  | read other =>
    rcases c.insertion?_read_cases other with ⟨_, _, -, hnew, hin, -⟩ | ⟨hin, -⟩
    · rw [hin] at h
      rwa [← Option.mem_some.1 h]
    · rw [hin] at h
      cases h
  | resize _ | clear => cases h

end Perform

/-! ### Requests one after the other -/

/-- The templates in the cache are distinct, and they are the last ones of those that were put
in. -/
structure Records (c : MessageCache) (log : List String) : Prop where
  distinct : c.keys.Nodup
  newest : c.keys <:+ log

variable {c : MessageCache} {log : List String}

theorem records_empty (maxSize : Nat) : (empty maxSize).Records [] :=
  ⟨List.nodup_nil, List.suffix_refl []⟩

/-- One request keeps the record, in which it puts the template that it puts into the cache. -/
theorem Records.perform (h : c.Records log) {request : Request} (hclear : request ≠ .clear) :
    (c.perform request).1.Records (log ++ (c.insertion? request).toList) := by
  have hnew : c.keys.Disjoint (c.insertion? request).toList := fun template hmem hin ↦
    notMem_of_insertion? (Option.mem_toList.1 hin) hmem
  have hone : (c.insertion? request).toList.Nodup := by
    cases c.insertion? request <;> simp
  have hdistinct : (c.keys ++ (c.insertion? request).toList).Nodup := h.distinct.append hone hnew
  have hsuffix := List.drop_suffix
    ((c.keys ++ (c.insertion? request).toList).length - (c.perform request).1.maxSize)
    (c.keys ++ (c.insertion? request).toList)
  rw [← List.rtake, ← c.keys_perform hclear] at hsuffix
  obtain ⟨older, hlog⟩ := h.newest
  refine ⟨hdistinct.sublist hsuffix.sublist, hsuffix.trans ⟨older, ?_⟩⟩
  rw [← List.append_assoc, hlog]

/-- After any requests the cache has the last of the templates that were put in since it was
cleared. -/
theorem Records.serve (h : c.Records log) (requests : List Request) :
    (c.serve requests).Records (c.insertions log requests) := by
  induction requests generalizing c log with
  | nil => exact h
  | cons request requests ih =>
    cases request with
    | clear => exact ih (records_empty c.maxSize)
    | read template => exact ih (h.perform (by simp))
    | resize size => exact ih (h.perform (by simp))

/-- After any requests a cache gives for each template what reading it gives, and it holds at most
as many messages as it may, each under its template. The templates are distinct, and they are the
last ones that were put in since it was cleared; a request other than clearing keeps the newest of
them, with the one that it puts in, as far as there is room. Nothing changes where a template is
there already or cannot be read, or where a size is negative; any other size is taken on. -/
theorem serve_empty (size : Nat) (requests : List Request) :
    ofSize size = .ok (empty size) ∧
    let c := (empty size).serve requests
    (∀ template, (c.read template).2.result = Message.parse template) ∧
    c.size ≤ c.maxSize ∧ (∀ e ∈ c.entries, Message.parse e.1 = .ok e.2) ∧
    c.keys.Nodup ∧ c.keys <:+ (empty size).insertions [] requests ∧
    (∀ request, request ≠ .clear → (c.perform request).1.keys =
      (c.keys ++ (c.insertion? request).toList).rtake (c.perform request).1.maxSize) ∧
    (∀ template ∈ c.keys, (c.read template).1 = c) ∧
    (∀ template f, Message.parse template = .error f → (c.read template).1 = c) ∧
    (∀ n < 0, c.perform (.resize n) = (c, .refused ⟨"max_size"⟩)) ∧
    ∀ n : Nat, (c.perform (.resize n)).1.maxSize = n := by
  have hsize : ofSize size = .ok (empty size) := by
    simp [ofSize, bound, Except.map]
  refine ⟨hsize, ?_⟩
  intro c
  obtain ⟨hdistinct, hnewest⟩ := (records_empty size).serve requests
  refine ⟨c.result_read, c.bounded, c.faithful, hdistinct, hnewest,
    fun request ↦ c.keys_perform, fun template ↦ read_of_mem, fun template f ↦ read_of_error,
    fun n hn ↦ ?_, fun n ↦ ?_⟩
  · rcases c.resizeTo_cases n with ⟨hle, -⟩ | ⟨-, hrefused⟩
    · exact absurd hn (Int.not_lt.2 hle)
    · rw [perform, hrefused]
  · rcases c.resizeTo_cases n with ⟨-, htaken⟩ | ⟨hn, -⟩
    · rw [perform, htaken]
      rfl
    · exact absurd (Int.natCast_nonneg n) (Int.not_le.2 hn)

/-- A cache for two messages that is asked for three, for one of them twice, and for what is no
message. -/
def threeMessages : List Request :=
  [.read "a", .read "b", .read "a", .read "\x7b", .read "c"]

theorem keys_threeMessages : ((empty 2).serve threeMessages).keys = ["b", "c"] := by
  decide +kernel

/-- The oldest message was given up, though it was asked for again. -/
theorem serve_empty_threeMessages :
    let c := (empty 2).serve threeMessages
    ["b", "c"] <:+ (empty 2).insertions [] threeMessages ∧
      (empty 2).insertions [] threeMessages = ["a", "b", "c"] ∧ (c.read "b").1 = c ∧
      (c.read "\x7b").1 = c ∧ (c.perform (.read "a")).1.keys = ["c", "a"] ∧
      c.perform (.resize (-1)) = (c, .refused ⟨"max_size"⟩) := by
  intro c
  obtain ⟨-, -, -, -, -, hnewest, hkeep, hhit, hfailed, hrefused, -⟩ := serve_empty 2 threeMessages
  rw [keys_threeMessages] at hnewest
  have hbrace : ∃ f, Message.parse "\x7b" = .error f := by
    have h : (Message.parse "\x7b").toOption = none := by decide +kernel
    cases hp : Message.parse "\x7b" with
    | error f => exact ⟨f, rfl⟩
    | ok m =>
      rw [hp] at h
      cases h
  obtain ⟨f, hf⟩ := hbrace
  refine ⟨hnewest, by decide +kernel, hhit "b" ?_, hfailed _ f hf, ?_, hrefused _ (by decide)⟩
  · rw [keys_threeMessages]
    decide
  · rw [hkeep _ (by simp), keys_threeMessages]
    decide +kernel

end MessageCache

end Phrasebook
