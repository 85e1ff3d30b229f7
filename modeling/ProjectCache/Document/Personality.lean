/-
# ProjectCache.Document.Personality — the personality of a project's agent.
-/
import ProjectCache.Decode.Basic

namespace ProjectCache

/-- Who the agent of a content base is. Members that are not declared are dropped. -/
structure Personality where
  /-- The name. -/
  name : String := ""
  /-- The role. -/
  role : String := ""
  /-- The manner. -/
  personality : String := ""
  /-- The goal. -/
  goal : String := ""
  deriving DecidableEq, Repr

namespace Personality

/-- The members. -/
def fields : Fields Personality :=
  Personality.mk
    <$> Fields.defaulted "name" "" Decoder.text
    <*> Fields.defaulted "role" "" Decoder.text
    <*> Fields.defaulted "personality" "" Decoder.text
    <*> Fields.defaulted "goal" "" Decoder.text

/-- Reads a personality. -/
def decode : Decoder Personality := Fields.record "AgentPersonality" fields

/-- Writes a personality. -/
def encode (p : Personality) : Json :=
  .ofFields
    [("name", .string p.name), ("role", .string p.role), ("personality", .string p.personality),
     ("goal", .string p.goal)]

end Personality

end ProjectCache
