/-
# ProjectCache.Document.InlineAgent — the configuration of agents that are defined inline.
-/
import ProjectCache.Decode.Basic

namespace ProjectCache

/-- The configuration of inline agents. -/
structure InlineAgent where
  /-- The backend it is meant for. -/
  agentsBackend : Option String := none
  /-- What collaborators are told. -/
  collaboratorInstructions : Option String := none
  /-- What the supervisor is told. -/
  supervisorInstruction : Option String := none
  /-- The other members. -/
  extra : Keyed Json := ∅
  deriving DecidableEq

namespace InlineAgent

/-- The declared members. -/
def fields : Fields (Keyed Json → InlineAgent) :=
  InlineAgent.mk
    <$> Fields.optional "agents_backend" Decoder.text
    <*> Fields.optional "default_instructions_for_collaborators" Decoder.text
    <*> Fields.optional "default_supervisor_instruction" Decoder.text

/-- Reads a configuration. -/
def decode : Decoder InlineAgent := Fields.keepingExtra "InlineAgentConfig" fields

/-- The declared members, written. -/
def declared (a : InlineAgent) : List (String × Json) :=
  [("agents_backend", .ofOption .string a.agentsBackend),
   ("default_instructions_for_collaborators", .ofOption .string a.collaboratorInstructions),
   ("default_supervisor_instruction", .ofOption .string a.supervisorInstruction)]

/-- Writes a configuration: every declared member, then the others. -/
def encode (a : InlineAgent) : Json := .ofMap ((Keyed.ofList a.declared).union a.extra)

end InlineAgent

end ProjectCache
