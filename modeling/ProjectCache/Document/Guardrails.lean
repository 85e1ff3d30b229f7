/-
# ProjectCache.Document.Guardrails — the guardrails of a project.
-/
import ProjectCache.Decode.Basic

namespace ProjectCache

/-- Which guardrails are applied to a conversation. -/
structure Guardrails where
  /-- The guardrails' identifier. -/
  identifier : Option String := none
  /-- Their version. -/
  version : Option String := none
  /-- The other members. -/
  extra : Keyed Json := ∅
  deriving DecidableEq

namespace Guardrails

/-- The declared members. -/
def fields : Fields (Keyed Json → Guardrails) :=
  Guardrails.mk
    <$> Fields.optional "guardrail_identifier" Decoder.text
    <*> Fields.optional "guardrail_version" Decoder.text

/-- Reads guardrails. -/
def decode : Decoder Guardrails := Fields.keepingExtra "GuardrailsData" fields

/-- The declared members, written. -/
def declared (g : Guardrails) : List (String × Json) :=
  [("guardrail_identifier", .ofOption .string g.identifier),
   ("guardrail_version", .ofOption .string g.version)]

/-- Writes guardrails: every declared member, then the others. -/
def encode (g : Guardrails) : Json := .ofMap ((Keyed.ofList g.declared).union g.extra)

end Guardrails

end ProjectCache
