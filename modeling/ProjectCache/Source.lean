/-
# ProjectCache.Source — where documents come from when they are not cached.

A source holds a record of each project, and a set of kinds whose fetches fail. `Source.answer` says
what a fetch returns; `Source.fetch` is the fetch as an operation, which leaves a trace.

This is the source that holds its records in memory, and not every one that could stand in its place:
it gives the same answer each time, and fails only for want of a record or for a kind that is set to
fail. Fetch functions that are handed to an operation may do as they like.
-/
import ProjectCache.World

namespace ProjectCache

/-- What is known of one project. -/
structure Record where
  /-- The settings. -/
  project : Option Project := none
  /-- The content base. -/
  contentBase : Option ContentBase := none
  /-- The rosters, by backend. -/
  teams : Keyed (List TeamMember) := ∅
  /-- The guardrails. -/
  guardrails : Option Guardrails := none
  /-- The configuration of inline agents. -/
  inlineAgent : Option InlineAgent := none
  /-- The instructions. -/
  instructions : List String := []
  /-- The personality of the agent. -/
  agent : Option Personality := none

/-- A source of documents. -/
structure Source where
  /-- The records, by project. -/
  records : Keyed Record := ∅
  /-- The kinds whose fetches fail. -/
  failing : List Kind := []

namespace Source

/-- A part of a record that must be there. -/
def required {α : Type} (what project : String) : Option α → Except Error α
  | some a => .ok a
  | none => .error (.notFound (.part what project))

/-- The part of a record that a request asks for. A backend without roster has an empty one. -/
def part (record : Record) (request : Request) : (kind : Kind) → Except Error kind.Value
  | .data => required "Project data" request.project record.project
  | .contentBase => required "Content base" request.project record.contentBase
  | .team => .ok ((record.teams.find? (request.backend.getD "")).getD [])
  | .guardrails => required "Guardrails" request.project record.guardrails
  | .inlineAgent => .ok record.inlineAgent
  | .instructions => .ok record.instructions
  | .agent => .ok record.agent

/-- The answer to a request for a document of some kind. -/
def answer (source : Source) (kind : Kind) (request : Request) : Except Error kind.Value :=
  if source.failing.contains kind then
    .error (.fetch kind.name ("fetch failed for project " ++ request.project))
  else
    match source.records.find? request.project with
    | none => .error (.notFound (.project request.project))
    | some record => part record request kind

/-- Fetches a document. -/
def fetch (source : Source) (kind : Kind) (request : Request) : CacheM kind.Value := do
  CacheM.note (.fetched kind)
  CacheM.ofExcept (source.answer kind request)

/-- The parts of a project that are looked up together. -/
structure Resolved where
  /-- The settings. -/
  project : Project
  /-- The content base. -/
  contentBase : ContentBase
  /-- The configuration of inline agents. -/
  inlineAgent : Option InlineAgent

/-- Looks up settings, content base and inline agents, up to the first failure. -/
def resolve (source : Source) (project : String) : CacheM Resolved := do
  let data ← source.fetch .data ⟨project, none⟩
  let contentBase ← source.fetch .contentBase ⟨project, none⟩
  let inlineAgent ← source.fetch .inlineAgent ⟨project, none⟩
  return ⟨data, contentBase, inlineAgent⟩

/-! ## Changes -/

/-- Changes the record of a project, which is created if there is none. -/
def update (source : Source) (project : String) (change : Record → Record) : Source :=
  let record := (source.records.find? project).getD {}
  { source with records := source.records.insert project (change record) }

/-- Sets the record of a project. -/
def insertRecord (source : Source) (project : String) (record : Record) : Source :=
  { source with records := source.records.insert project record }

/-- Sets the settings of a project. -/
def insertProject (source : Source) (project : Project) : Source :=
  source.update project.uuid fun record => { record with project := some project }

/-- Lets the fetches of a kind fail from now on, or no longer. -/
def setFailing (source : Source) (kind : Kind) (on : Bool) : Source :=
  let others := source.failing.filter (· ≠ kind)
  { source with failing := if on then kind :: others else others }

end Source

end ProjectCache
