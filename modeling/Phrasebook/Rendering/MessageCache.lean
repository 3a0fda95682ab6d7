import Phrasebook.Message.Parser
import Phrasebook.Table

/-!
# A cache of messages

Reading a template again gives the same message, so messages are kept under their templates. A cache
holds a bounded number of them and gives up the oldest first. What it holds for a template is what
reading the template gives.
-/

set_option autoImplicit false

namespace Phrasebook

/-- A size that is negative, by the name of the setting. -/
structure SizeFault where
  setting : String
  deriving DecidableEq, Repr

/-- The fault in words. -/
def SizeFault.message (f : SizeFault) : String :=
  f.setting ++ " must be zero or a positive integer"

/-- Messages under their templates, the oldest first. -/
structure MessageCache where
  maxSize : Nat
  entries : Table String Message
  bounded : entries.length ≤ maxSize
  faithful : ∀ e ∈ entries, Message.parse e.1 = .ok e.2

namespace MessageCache

/-- The most messages that a cache holds unless it is told otherwise. -/
def defaultSize : Nat := 500

/-- A size as a bound, which must not be negative. -/
def bound (setting : String) (size : Int) : Except SizeFault Nat :=
  if 0 ≤ size then .ok size.toNat else .error ⟨setting⟩

/-- A cache without messages. -/
def empty (maxSize : Nat) : MessageCache :=
  ⟨maxSize, [], Nat.zero_le _, by simp⟩

/-- A cache without messages for a size that may turn out to be negative. -/
def ofSize (size : Int) : Except SizeFault MessageCache :=
  (bound "max_size" size).map empty

def size (c : MessageCache) : Nat :=
  c.entries.length

def has (c : MessageCache) (template : String) : Bool :=
  Table.has template c.entries

/-- The cache with another bound, without the oldest messages that are too many for it. -/
def resize (c : MessageCache) (maxSize : Nat) : MessageCache :=
  ⟨maxSize, c.entries.drop (c.entries.length - maxSize), by simp only [List.length_drop]; omega,
    fun e he ↦ c.faithful e (List.mem_of_mem_drop he)⟩

/-- The cache with another size, which may turn out to be negative. -/
def resizeTo (c : MessageCache) (size : Int) : Except SizeFault MessageCache :=
  (bound "max_size" size).map c.resize

/-- The cache without its messages. -/
def clear (c : MessageCache) : MessageCache :=
  empty c.maxSize

/-- Keeps the message of a template, giving up the oldest ones for it. A cache of no size keeps
nothing. -/
def insert (c : MessageCache) (template : String) (message : Message)
    (hread : Message.parse template = .ok message) : MessageCache :=
  if h : c.maxSize = 0 then c
  else
    ⟨c.maxSize, c.entries.drop (c.entries.length - (c.maxSize - 1)) ++ [(template, message)], by
      simp only [List.length_append, List.length_drop, List.length_cons, List.length_nil]
      omega, by
      intro e he
      rcases List.mem_append.1 he with he | he
      · exact c.faithful e (List.mem_of_mem_drop he)
      · rw [List.mem_singleton.1 he]
        exact hread⟩

/-- The message of a template, from the cache or else read now and kept. -/
def read (c : MessageCache) (template : String) : MessageCache × Message.Reading :=
  match c.entries.lookup template with
  | some message => (c, ⟨.ok message, []⟩)
  | none =>
    let reading := Message.read template
    match h : reading.result with
    | .ok message => (c.insert template message h, reading)
    | .error _ => (c, reading)

end MessageCache

end Phrasebook
