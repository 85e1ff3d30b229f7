/-
# ProjectCache.Document.TeamMember — one agent of a team.
-/
import ProjectCache.Decode.Basic

namespace ProjectCache

/-- One agent of the roster that a backend runs for a project. -/
structure TeamMember where
  /-- The agent's name. -/
  agentName : String
  /-- The name that is shown. -/
  agentDisplayName : Option String := none
  /-- What the agent is told. -/
  instruction : Option String := none
  /-- What the agent does. -/
  description : Option String := none
  /-- The agent's model. -/
  foundationModel : Option String := none
  /-- What the agent is told about the others. -/
  collaborationInstructions : Option String := none
  /-- The other members. -/
  extra : Keyed Json := ∅
  deriving DecidableEq

namespace TeamMember

/-- The declared members. -/
def fields : Fields (Keyed Json → TeamMember) :=
  TeamMember.mk
    <$> Fields.required "agentName" Decoder.text
    <*> Fields.optional "agentDisplayName" Decoder.text
    <*> Fields.optional "instruction" Decoder.text
    <*> Fields.optional "description" Decoder.text
    <*> Fields.optional "foundationModel" Decoder.text
    <*> Fields.optional "collaborationInstructions" Decoder.text

/-- Reads one agent. -/
def decode : Decoder TeamMember := Fields.keepingExtra "TeamMember" fields

/-- A member that is left out when it has no value. -/
def whenPresent (key : String) : Option String → List (String × Json)
  | none => []
  | some text => [(key, .string text)]

/-- The declared members, written; the optional ones only when they have a value. -/
def declared (m : TeamMember) : List (String × Json) :=
  ("agentName", .string m.agentName)
    :: (whenPresent "agentDisplayName" m.agentDisplayName
      ++ whenPresent "instruction" m.instruction
      ++ whenPresent "description" m.description
      ++ whenPresent "foundationModel" m.foundationModel
      ++ whenPresent "collaborationInstructions" m.collaborationInstructions)

/-- Writes one agent. -/
def encode (m : TeamMember) : Json := .ofMap ((Keyed.ofList m.declared).union m.extra)

end TeamMember

end ProjectCache
