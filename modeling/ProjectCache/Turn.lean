/-
# ProjectCache.Turn — what one turn of a conversation needs before it is generated.

The documents are read one after the other through the cache, and fetched when they are missing. The
settings, the content base and the configuration of inline agents are looked up at the source first;
inline agents are left out when the source has none, whatever the cache holds. The first failure
ends the reading and is returned as it is.
-/
import ProjectCache.Cache.Basic

namespace ProjectCache

/-- The documents of one turn. -/
structure Turn where
  /-- The settings. -/
  project : Project
  /-- The content base. -/
  contentBase : ContentBase
  /-- The roster of the backend. -/
  team : List TeamMember
  /-- The guardrails. -/
  guardrails : Guardrails
  /-- The configuration of inline agents. -/
  inlineAgent : Option InlineAgent
  /-- The backend. -/
  agentsBackend : String
  /-- The instructions. -/
  instructions : List String
  /-- The personality of the agent. -/
  agent : Option Personality

namespace Turn

/-- The time from which on a call is slow, by default. -/
def slowThreshold : Span := .ofSeconds 5

/-- Reads the documents of a turn. -/
def load (ttls : Ttls) (source : Source) (project : String) : CacheM Turn := do
  let resolved ← source.resolve project
  let data ← Cache.get ttls .data project none fun _ => pure resolved.project
  match Project.agentsBackend data <|> resolved.project.agentsBackend with
  | none => throw (.configuration (.noBackendForTurn project))
  | some backend =>
    let contentBase ← Cache.get ttls .contentBase project none fun _ => pure resolved.contentBase
    let instructions ← Cache.get ttls .instructions project none (source.fetch .instructions)
    let agent ← Cache.get ttls .agent project none (source.fetch .agent)
    let team ← Cache.get ttls .team project (some backend) (source.fetch .team)
    let guardrails ← Cache.get ttls .guardrails project none (source.fetch .guardrails)
    let inlineAgent ← match resolved.inlineAgent with
      | some inlineAgent =>
        Cache.get ttls .inlineAgent project none fun _ => pure (some inlineAgent)
      | none => pure none
    return {
      project := data, contentBase, team, guardrails, inlineAgent, agentsBackend := backend,
      instructions, agent }

/-- How long a call takes at least. The clock of a world stands still while an operation runs, so
this is all that is known of its duration. -/
def leastDuration : Span := ⟨1⟩

/-- Logs a call that took longer than a threshold. -/
def noteDuration (slow : Span) (world : World) : World :=
  if slow < leastDuration then world.record (.logged .warn "Slow pre-generation call") else world

/-- Reads the documents of a turn, and logs a failure and a slow call. -/
def prepare (ttls : Ttls) (slow : Span) (source : Source) (project : String) : CacheM Turn :=
  fun world =>
    match load ttls source project world with
    | .ok turn world => .ok turn (noteDuration slow world)
    | .error e world =>
      .error e (noteDuration slow (world.record (.logged .error "Pre-generation data failed")))

end Turn

end ProjectCache
