/-
# ProjectCache.Workflow — the passing state of workflows.

Values of any type are kept per workflow under a name of their type, for a short time.
-/
import ProjectCache.Key
import ProjectCache.World

namespace ProjectCache.Workflow

/-- How long values are kept by default. -/
def defaultTtl : Span := .ofSeconds 600

/-- Stores a value. -/
def set (ttl : Span) (id dataType : String) (value : Json) : CacheM Unit :=
  CacheM.set (Key.workflow id dataType) value ttl

/-- Reads a value. One that does not decode is left where it is, and reported. -/
def get {α : Type} (decode : Decoder α) (id dataType : String) : CacheM (Option α) := do
  match ← CacheM.get (Key.workflow id dataType) with
  | none => return none
  | some raw =>
    match decode raw with
    | .ok value => return some value
    | .error e => throw (.decoding e)

/-- Removes all that is kept for a workflow, and counts it. -/
def clear (id : String) : CacheM Nat :=
  CacheM.deletePattern (Key.workflowPattern id)

end ProjectCache.Workflow
