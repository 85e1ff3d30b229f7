/-
# ProjectCache.Document.Project — the settings of a project.

Members that are none of the declared ones are kept in `extra` and written back.
-/
import ProjectCache.Decode.Basic

namespace ProjectCache

/-- The settings of one project. -/
structure Project where
  /-- The identifier. -/
  uuid : String
  /-- The name. -/
  name : String := ""
  /-- The backend that runs the project's agents. -/
  agentsBackend : Option String := none
  /-- May a conversation be handed to a human? -/
  humanSupport : Bool := false
  /-- What is said when it is. -/
  humanSupportPrompt : Option String := none
  /-- Is the rationale shown? -/
  rationaleSwitch : Bool := false
  /-- Are message components used? -/
  useComponents : Bool := false
  /-- The model of the supervisor. -/
  defaultSupervisorFoundationModel : Option String := none
  /-- How many turns of the conversation are given to the agents. -/
  conversationTurnsToInclude : Option UInt32 := none
  /-- Are earlier thoughts left out? -/
  excludePreviousThinkingSteps : Bool := false
  /-- The other members. -/
  extra : Keyed Json := ∅
  deriving DecidableEq

namespace Project

/-- A count of turns. -/
def turns : Decoder UInt32 := fun json => (Decoder.natural 32 "u32" json).map UInt32.ofNat

/-- The declared members. -/
def fields : Fields (Keyed Json → Project) :=
  Project.mk
    <$> Fields.required "uuid" Decoder.text
    <*> Fields.defaulted "name" "" Decoder.text
    <*> Fields.optional "agents_backend" Decoder.text
    <*> Fields.defaulted "human_support" false Decoder.flag
    <*> Fields.optional "human_support_prompt" Decoder.text
    <*> Fields.defaulted "rationale_switch" false Decoder.flag
    <*> Fields.defaulted "use_components" false Decoder.flag
    <*> Fields.optional "default_supervisor_foundation_model" Decoder.text
    <*> Fields.optional "conversation_turns_to_include" turns
    <*> Fields.defaulted "exclude_previous_thinking_steps" false Decoder.flag

/-- Reads the settings. -/
def decode : Decoder Project := Fields.keepingExtra "ProjectData" fields

/-- The declared members, written. -/
def declared (p : Project) : List (String × Json) :=
  [("uuid", .string p.uuid),
   ("name", .string p.name),
   ("agents_backend", .ofOption .string p.agentsBackend),
   ("human_support", .bool p.humanSupport),
   ("human_support_prompt", .ofOption .string p.humanSupportPrompt),
   ("rationale_switch", .bool p.rationaleSwitch),
   ("use_components", .bool p.useComponents),
   ("default_supervisor_foundation_model", .ofOption .string p.defaultSupervisorFoundationModel),
   ("conversation_turns_to_include",
     .ofOption (fun n => .nat n.toNat) p.conversationTurnsToInclude),
   ("exclude_previous_thinking_steps", .bool p.excludePreviousThinkingSteps)]

/-- Writes the settings: every declared member, then the others. -/
def encode (p : Project) : Json := .ofMap ((Keyed.ofList p.declared).union p.extra)

/-- The same project on another backend. -/
def withBackend (p : Project) (backend : String) : Project :=
  { p with agentsBackend := some backend }

end Project

end ProjectCache
