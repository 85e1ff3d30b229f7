/-
# ProjectCache.Activity — keeping the cache fresh when projects change.

Four observers listen for activity on projects, content bases, their agents and their instructions.
Each looks into the payload for the object that was updated, finds the project it belongs to,
fetches the documents that depend on it and pushes them into the cache. Anything but an update is
ignored. A failure on the way is logged, and is no failure of the observer.
-/
import ProjectCache.Cache.Basic
import ProjectCache.Bus

namespace ProjectCache

/-- What an observer of the cache listens for. -/
inductive Activity where
  | project
  | contentBase
  | agent
  | instructions
  deriving DecidableEq, Repr

namespace Activity

/-- The activities, in the order of their subscription. -/
def all : List Activity := [.project, .contentBase, .agent, .instructions]

/-- The name of the events. -/
def eventName : Activity → String
  | .project => "project_activity"
  | .contentBase => "contentbase_activity"
  | .agent => "contentbase_agent_activity"
  | .instructions => "contentbase_instruction_activity"

/-- The member of the payload that holds the object. -/
def payloadKey : Activity → String
  | .project => "project"
  | .contentBase => "contentbase"
  | .agent => "content_base_agent"
  | .instructions => "content_base_instruction"

/-- The project that an object of the activity belongs to. -/
def owner : Activity → Keyed Json → Option String
  | .project => Event.projectItself
  | _ => Event.projectOf

/-- The project whose documents an event outdates. -/
def target (activity : Activity) (event : Event) : Option String :=
  if event.action = some .update then (event.object activity.payloadKey).bind activity.owner
  else none

/-- Fetches a document of a project and pushes it into the cache. -/
def push (ttls : Ttls) (source : Source) (kind : Kind) (project : String)
    (backend : Option String) : CacheM kind.Value := do
  let value ← source.fetch kind ⟨project, none⟩
  Cache.refresh ttls project ⟨kind, value⟩ backend
  return value

/-- Fetches the settings of a project and pushes them into the cache, for the backend that they
name. -/
def pushProject (ttls : Ttls) (source : Source) (project : String) : CacheM Unit := do
  let data ← source.fetch .data ⟨project, none⟩
  let backend := Project.agentsBackend data
  Cache.refresh ttls project ⟨.data, data⟩ backend
  let _ ← push ttls source .inlineAgent project backend

/-- Brings the documents of a project up to date. -/
def refresh (ttls : Ttls) (source : Source) (project : String) : Activity → CacheM Unit
  | .project => pushProject ttls source project
  | .contentBase => do let _ ← push ttls source .contentBase project none
  | .agent => do let _ ← push ttls source .agent project none
  | .instructions => do let _ ← push ttls source .instructions project none

/-- What is logged when that fails. -/
def failureText : Activity → String
  | .project => "Failed to refresh project cache"
  | .contentBase => "Failed to refresh content base cache"
  | .agent => "Failed to refresh agent cache"
  | .instructions => "Failed to refresh instructions cache"

/-- Reacts to an event. -/
def perform (activity : Activity) (ttls : Ttls) (source : Source) (event : Event) (world : World) :
    World :=
  match activity.target event with
  | none => world
  | some uuid =>
    match refresh ttls source uuid activity world with
    | .ok _ world => world
    | .error _ world => world.record (.logged .error activity.failureText)

end Activity

end ProjectCache
