/-
# ProjectCache.World — the state that operations act on, and what they do to it.

A `World` is a clock reading, a store, the outages that are in force, the usage counters and a trace
of what has happened. An operation is a function on worlds that may fail (`CacheM`); a failure keeps
the state it has reached, since stores know no transactions.

An operation happens at one clock reading: whatever it reads and writes, it sees the same time. The
clock moves on between operations only.

Every call of the store goes through the operations of this module, which consult the outages and
write the call into the trace.
-/
import ProjectCache.Store

namespace ProjectCache

/-- How serious a log line is. -/
inductive Level where
  | info
  | warn
  | error
  deriving DecidableEq, Repr

/-- The name of a level. -/
def Level.name : Level → String
  | .info => "INFO"
  | .warn => "WARN"
  | .error => "ERROR"

/-- What a fetch function is asked for: a project, and a backend when the kind needs one. -/
structure Request where
  /-- The project. -/
  project : String
  /-- The backend. -/
  backend : Option String := none
  deriving DecidableEq, Repr

/-- Something that happened in the course of an operation. -/
inductive Happening where
  | got (key : String) (outcome : Except Error Bool)
  | stored (key : String) (value : Json) (ttl : Span) (outcome : Except Error Unit)
  | deleted (key : String) (outcome : Except Error Bool)
  | deletedPattern (pattern : String) (outcome : Except Error Nat)
  | asked (request : Request)
  | fetched (kind : Kind)
  | performed (text : String)
  | logged (level : Level) (text : String)

/-- Usage counters. -/
structure Counters where
  /-- Reads that were answered from the store. -/
  hits : Nat := 0
  /-- Reads that were not. -/
  misses : Nat := 0
  /-- Refreshes. -/
  refreshes : Nat := 0
  /-- Invalidations. -/
  invalidations : Nat := 0
  /-- Bundles that were built from stored documents. -/
  rebuilds : Nat := 0
  /-- Bundles that were dropped. -/
  drops : Nat := 0
  deriving DecidableEq, Repr

/-- The share of reads that were answered from the store. -/
def Counters.hitRate (c : Counters) : Binary64 :=
  if c.hits + c.misses = 0 then .zero false
  else Binary64.ofRatio false c.hits 1 / Binary64.ofRatio false (c.hits + c.misses) 1

/-- A kind of store call that fails for a key, or for all keys. -/
structure Outage where
  /-- The call that fails. -/
  call : StoreCall
  /-- The key or pattern for which it fails, `*` for all. -/
  key : String
  deriving DecidableEq, Repr

/-- The state that operations act on. -/
structure World where
  /-- The reading of the clock, in nanoseconds. -/
  now : Nat
  /-- The store. -/
  store : Store := ∅
  /-- The outages in force. -/
  outages : List Outage := []
  /-- The usage counters. -/
  counters : Counters := {}
  /-- What has happened, the latest first. -/
  trace : List Happening := []

/-- An operation. A failure keeps the state that was reached. -/
abbrev CacheM (α : Type) := EStateM Error World α

namespace World

/-- Does a call fail for this key? -/
def fails (world : World) (call : StoreCall) (key : String) : Bool :=
  world.outages.any fun outage => outage.call = call ∧ (outage.key = key ∨ outage.key = "*")

/-- Adds to the trace. -/
def record (world : World) (happening : Happening) : World :=
  { world with trace := happening :: world.trace }

end World

namespace CacheM

variable {α : Type}

/-- Notes that something happened. -/
def note (happening : Happening) : CacheM Unit :=
  modify (·.record happening)

/-- Writes a log line. -/
def log (level : Level) (text : String) : CacheM Unit :=
  note (.logged level text)

/-- Changes the counters. -/
def count (change : Counters → Counters) : CacheM Unit :=
  modify fun world => { world with counters := change world.counters }

/-- A result that is there already. -/
def ofExcept : Except Error α → CacheM α
  | .ok a => pure a
  | .error e => throw e

/-- The failure of a call in an outage. -/
def outageOf (call : StoreCall) : Error := .store (.outage call)

/-- Reads a document from the store. -/
def get (key : String) : CacheM (Option Json) := fun world =>
  if world.fails .get key then
    .error (outageOf .get) (world.record (.got key (.error (outageOf .get))))
  else
    let (found, store) := world.store.get world.now key
    .ok found ({ world with store }.record (.got key (.ok found.isSome)))

/-- Stores a document. -/
def set (key : String) (value : Json) (ttl : Span) : CacheM Unit := fun world =>
  if world.fails .set key then
    .error (outageOf .set) (world.record (.stored key value ttl (.error (outageOf .set))))
  else
    match world.store.set world.now key value ttl with
    | .ok store => .ok () ({ world with store }.record (.stored key value ttl (.ok ())))
    | .error cause =>
      .error (.configuration cause)
        (world.record (.stored key value ttl (.error (.configuration cause))))

/-- Removes a key, and tells whether it was live. -/
def delete (key : String) : CacheM Bool := fun world =>
  if world.fails .delete key then
    .error (outageOf .delete) (world.record (.deleted key (.error (outageOf .delete))))
  else
    let (removed, store) := world.store.delete world.now key
    .ok removed ({ world with store }.record (.deleted key (.ok removed)))

/-- Removes all keys that match a pattern, and counts the live ones. -/
def deletePattern (pattern : String) : CacheM Nat := fun world =>
  if world.fails .deletePattern pattern then
    .error (outageOf .deletePattern)
      (world.record (.deletedPattern pattern (.error (outageOf .deletePattern))))
  else
    match world.store.deletePattern world.now pattern with
    | .ok (removed, store) =>
      .ok removed ({ world with store }.record (.deletedPattern pattern (.ok removed)))
    | .error cause =>
      .error (.configuration cause)
        (world.record (.deletedPattern pattern (.error (.configuration cause))))

end CacheM

end ProjectCache
