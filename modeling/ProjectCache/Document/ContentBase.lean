/-
# ProjectCache.Document.ContentBase — the content base of a project.
-/
import ProjectCache.Decode.Basic

namespace ProjectCache

/-- A content base. -/
structure ContentBase where
  /-- The identifier. -/
  uuid : String
  /-- The title. -/
  title : String := ""
  /-- The intelligence that the content base belongs to. -/
  intelligenceUuid : Option String := none
  /-- The other members. -/
  extra : Keyed Json := ∅
  deriving DecidableEq

namespace ContentBase

/-- The declared members. -/
def fields : Fields (Keyed Json → ContentBase) :=
  ContentBase.mk
    <$> Fields.required "uuid" Decoder.text
    <*> Fields.defaulted "title" "" Decoder.text
    <*> Fields.optional "intelligence_uuid" Decoder.text

/-- Reads a content base. -/
def decode : Decoder ContentBase := Fields.keepingExtra "ContentBaseData" fields

/-- The declared members, written. -/
def declared (c : ContentBase) : List (String × Json) :=
  [("uuid", .string c.uuid),
   ("title", .string c.title),
   ("intelligence_uuid", .ofOption .string c.intelligenceUuid)]

/-- Writes a content base: every declared member, then the others. -/
def encode (c : ContentBase) : Json := .ofMap ((Keyed.ofList c.declared).union c.extra)

end ContentBase

end ProjectCache
