/-
# ProjectCache.Cache.Operation — the operations on a cache, as data.

What callers can do with the documents of projects and with the state of workflows, and what they
get back. A history of a cache is a list of these.
-/
import ProjectCache.Turn
import ProjectCache.Workflow

namespace ProjectCache

/-- An operation on a cache. -/
inductive Operation where
  | get (kind : Kind) (project : String) (backend : Option String) (fetch : Fetch kind)
  | getBundle (source : Source) (project : String) (backend : Option String)
  | turn (source : Source) (project : String)
  | invalidate (kind : Kind) (project : String) (backend : Option String)
  | invalidateProject (project : String)
  | refresh (project : String) (document : Document) (backend : Option String)
  | refreshWith (kind : Kind) (project : String) (backend : Option String) (fetch : Fetch kind)
  | rebuildBundle (project backend : String)
  | setWorkflow (id dataType : String) (value : Json)
  | getWorkflow (form : Decoder Json) (id dataType : String)
  | clearWorkflow (id : String)

/-- What an operation returns. -/
inductive Answer where
  | document (document : Document)
  | bundle (bundle : Bundle)
  | turn (turn : Turn)
  | done
  | count (n : Nat)
  | flag (b : Bool)
  | stored (value : Option Json)

/-- How a cache is set up. -/
structure CacheConfig where
  /-- The times to live of documents and bundles. -/
  ttls : Ttls := .default
  /-- The time to live of the state of workflows. -/
  workflowTtl : Span := Workflow.defaultTtl
  /-- The time from which on reading for a turn is slow. -/
  slow : Span := Turn.slowThreshold

namespace Operation

/-- Carries an operation out. -/
def run (config : CacheConfig) : Operation → CacheM Answer
  | .get kind project backend fetch =>
    (fun v => .document ⟨kind, v⟩) <$> Cache.get config.ttls kind project backend fetch
  | .getBundle source project backend =>
    .bundle <$> Cache.getBundle config.ttls source project backend
  | .turn source project => .turn <$> Turn.prepare config.ttls config.slow source project
  | .invalidate kind project backend =>
    (fun _ => .done) <$> Cache.invalidate config.ttls kind project backend
  | .invalidateProject project => .count <$> Cache.invalidateProject project
  | .refresh project document backend =>
    (fun _ => .done) <$> Cache.refresh config.ttls project document backend
  | .refreshWith kind project backend fetch =>
    (fun v => .document ⟨kind, v⟩) <$> Cache.refreshWith config.ttls kind project backend fetch
  | .rebuildBundle project backend => .flag <$> Cache.rebuildBundle config.ttls project backend
  | .setWorkflow id dataType value =>
    (fun _ => .done) <$> Workflow.set config.workflowTtl id dataType value
  | .getWorkflow form id dataType => .stored <$> Workflow.get form id dataType
  | .clearWorkflow id => .count <$> Workflow.clear id

end Operation

end ProjectCache
