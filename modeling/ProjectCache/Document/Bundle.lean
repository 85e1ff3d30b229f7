/-
# ProjectCache.Document.Bundle — all that a turn of a conversation needs of a project, in one
document.

A bundle records the backend whose team it holds. A request that names a backend is served only by
a bundle of that backend; a request that names none is served by any bundle.
-/
import ProjectCache.Document.Kind

namespace ProjectCache

/-- The documents of a project, put together. -/
structure Bundle where
  /-- The settings of the project. -/
  data : Project
  /-- The settings of the project once more. -/
  project : Project
  /-- The content base. -/
  contentBase : ContentBase
  /-- The roster. -/
  team : List TeamMember
  /-- The guardrails. -/
  guardrails : Guardrails
  /-- The configuration of inline agents, if there is one. -/
  inlineAgent : Option InlineAgent := none
  /-- The backend of the roster, if it was recorded. -/
  agentsBackend : Option String := none
  deriving DecidableEq

namespace Bundle

/-- Puts the documents of a project together. -/
def ofParts (data : Project) (contentBase : ContentBase) (team : List TeamMember)
    (guardrails : Guardrails) (inlineAgent : Option InlineAgent) : Bundle :=
  { data, project := data, contentBase, team, guardrails, inlineAgent }

/-- Records the backend. -/
def withBackend (bundle : Bundle) (backend : String) : Bundle :=
  { bundle with agentsBackend := some backend }

/-- Does the bundle answer a request for a backend, or for any? -/
def serves (bundle : Bundle) : Option String → Bool
  | some requested => bundle.agentsBackend == some requested
  | none => true

/-- The members. -/
def fields : Fields Bundle :=
  Bundle.mk
    <$> Fields.required "data" Project.decode
    <*> Fields.required "project" Project.decode
    <*> Fields.required "content_base" ContentBase.decode
    <*> Fields.required "team" (Decoder.list TeamMember.decode)
    <*> Fields.required "guardrails" Guardrails.decode
    <*> Fields.optional "inline_agent_config" InlineAgent.decode
    <*> Fields.optional "agents_backend" Decoder.text

/-- Reads a bundle. -/
def decode : Decoder Bundle := Fields.record "CompositeBundle" fields

/-- Writes a bundle; the two optional members only when they have a value. -/
def encode (b : Bundle) : Json :=
  .ofFields
    ([("data", b.data.encode), ("project", b.project.encode),
      ("content_base", b.contentBase.encode), ("team", .array (b.team.map TeamMember.encode)),
      ("guardrails", b.guardrails.encode)]
      ++ (b.inlineAgent.map fun a => ("inline_agent_config", a.encode)).toList
      ++ (b.agentsBackend.map fun s => ("agents_backend", Json.string s)).toList)

end Bundle

end ProjectCache
