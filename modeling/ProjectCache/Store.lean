/-
# ProjectCache.Store — documents that live for a while.

An entry is live until the clock reaches its deadline. An entry past its deadline answers every
question like one that is not there, but may stay in the map until an operation drops it. The clock
is a number of nanoseconds that every operation is given. It ends with the seconds that 63 bits can
count: a document whose deadline lies beyond is refused.
-/
import ProjectCache.Error
import ProjectCache.Glob.Pattern

namespace ProjectCache

/-- A document with the time at which it ends. -/
structure Entry where
  /-- The document. -/
  value : Json
  /-- The reading of the clock from which on the entry is dead. -/
  deadline : Nat
  deriving DecidableEq

/-- Is the entry live at this time? -/
def Entry.isLive (entry : Entry) (now : Nat) : Bool := now < entry.deadline

/-- A store. -/
structure Store where
  /-- The entries, dead ones included. -/
  entries : Keyed Entry
  deriving DecidableEq

namespace Store

/-- The store without entries. -/
def empty : Store := ⟨∅⟩

instance : EmptyCollection Store := ⟨empty⟩

instance : Inhabited Store := ⟨empty⟩

/-- The first reading that the clock cannot take. -/
def clockEnd : Nat := Word.count 63 * Span.second

/-- The live entry of a key. -/
def live? (store : Store) (now : Nat) (key : String) : Option Entry :=
  (store.entries.find? key).filter (·.isLive now)

/-- Reads a document. A dead entry is dropped on this occasion. -/
def get (store : Store) (now : Nat) (key : String) : Option Json × Store :=
  match store.entries.find? key with
  | none => (none, store)
  | some entry =>
    if entry.isLive now then (some entry.value, store)
    else (none, ⟨store.entries.erase key⟩)

/-- Stores a document for a while. -/
def set (store : Store) (now : Nat) (key : String) (value : Json) (ttl : Span) :
    Except Misconfiguration Store :=
  if now + ttl.nanos < clockEnd then
    .ok ⟨store.entries.insert key ⟨value, now + ttl.nanos⟩⟩
  else .error (.ttlOutOfRange ttl key)

/-- Removes a key, and tells whether it was live. -/
def delete (store : Store) (now : Nat) (key : String) : Bool × Store :=
  ((store.live? now key).isSome, ⟨store.entries.erase key⟩)

/-- Removes all keys that match a pattern, and counts the live ones. -/
def deletePattern (store : Store) (now : Nat) (pattern : String) :
    Except Misconfiguration (Nat × Store) :=
  match Glob.ofText pattern with
  | .error .unterminatedClass => .error (.unterminatedClass pattern)
  | .error .invalid => .error (.invalidPattern pattern)
  | .ok tokens =>
    let matched := store.entries.filter fun key entry =>
      Glob.acceptsText tokens key && entry.isLive now
    .ok (matched.size, ⟨store.entries.filter fun key _ => ! Glob.acceptsText tokens key⟩)

/-- How long a live key still lives. -/
def ttl (store : Store) (now : Nat) (key : String) : Option Span :=
  (store.live? now key).map fun entry => ⟨entry.deadline - now⟩

/-- The live entries. -/
def liveEntries (store : Store) (now : Nat) : Keyed Entry :=
  store.entries.filter fun _ entry => entry.isLive now

/-- The live keys, in order. -/
def keys (store : Store) (now : Nat) : List String := (store.liveEntries now).keys

/-- How many live keys there are. -/
def size (store : Store) (now : Nat) : Nat := (store.keys now).length

/-- Are there no live keys? -/
def isEmpty (store : Store) (now : Nat) : Bool := store.size now == 0

end Store

end ProjectCache
