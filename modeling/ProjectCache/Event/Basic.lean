/-
# ProjectCache.Event.Basic — events, what they say was done, and whom they concern.

An event carries a payload of JSON members. The member `action_type` says what was done, and other
members hold the objects it was done to. The project that an object belongs to is found in the
object itself or in the content base that it names (`Event.projectOf`).
-/
import ProjectCache.Decode.Basic

namespace ProjectCache

/-- What was done to an object. -/
inductive Action where
  | create
  | update
  | delete
  deriving DecidableEq, Repr

namespace Action

/-- The actions. -/
def all : List Action := [.create, .update, .delete]

/-- The letter of an action. -/
def code : Action → String
  | .create => "C"
  | .update => "U"
  | .delete => "D"

/-- The action of a letter. -/
def ofCode? (text : String) : Option Action := all.find? fun action => action.code == text

/-- Reads the letter of an action. -/
def decode : Decoder Action := Decoder.variant (all.map code) ofCode?

end Action

/-- Something that was done to an object, told to whom it may concern. -/
structure Event where
  /-- The identifier. -/
  id : Uuid
  /-- The name, by which observers are chosen. -/
  name : String
  /-- The members that describe it. -/
  payload : Keyed Json
  /-- When it was done. -/
  occurredAt : Instant
  deriving DecidableEq

namespace Event

/-- The payload's member that says what was done. -/
def actionKey : String := "action_type"

/-- Sets a member of the payload. -/
def withMember (event : Event) (key : String) (value : Json) : Event :=
  { event with payload := event.payload.insert key value }

/-- Says what was done. -/
def withAction (event : Event) (action : Action) : Event :=
  event.withMember actionKey (.string action.code)

/-- What was done, if the payload says so. -/
def action (event : Event) : Option Action :=
  ((event.payload.find? actionKey).bind Json.string?).bind Action.ofCode?

/-- An object of the payload. -/
def object (event : Event) (key : String) : Option (Keyed Json) :=
  (event.payload.find? key).bind Json.members?

/-! ## The project of an object -/

/-- The text of a member. -/
def textOf (object : Keyed Json) (key : String) : Option String :=
  (object.find? key).bind Json.string?

/-- The object in a member. -/
def objectOf (object : Keyed Json) (key : String) : Option (Keyed Json) :=
  (object.find? key).bind Json.members?

/-- The project that an object names itself: in `project_uuid`, or as the `uuid` of its
`project`. -/
def ownProject (object : Keyed Json) : Option String :=
  textOf object "project_uuid" <|> (objectOf object "project").bind (textOf · "uuid")

/-- The project that an object belongs to: the one it names itself, or else the one that its content
base names. -/
def projectOf (object : Keyed Json) : Option String :=
  ownProject object <|> (objectOf object "content_base").bind ownProject

/-- The project that an object is, or else the one that it belongs to. -/
def projectItself (object : Keyed Json) : Option String :=
  textOf object "uuid" <|> projectOf object

/-! ## JSON form -/

/-- Reads an identifier. -/
def decodeId : Decoder Uuid
  | .string text =>
    match Uuid.ofText text with
    | .ok id => .ok id
    | .error fault => .error (.uuid fault)
  | json => .error (.ofJson json "a UUID string")

/-- Reads a point in time. -/
def decodeInstant : Decoder Instant
  | .string text =>
    match Instant.ofText text with
    | .ok t => .ok t
    | .error fault => .error (.instant fault)
  | json => .error (.ofJson json "an RFC 3339 formatted date and time string")

/-- The members of an event. -/
def fields : Fields Event :=
  Event.mk
    <$> Fields.required "id" decodeId
    <*> Fields.required "name" Decoder.text
    <*> Fields.defaulted "payload" ∅ Decoder.members
    <*> Fields.required "occurred_at" decodeInstant

/-- Reads an event. -/
def decode : Decoder Event := Fields.record "Event" fields

/-- The members of an event, written in the order of declaration. -/
def members (event : Event) : List (String × Json) :=
  [("id", .string event.id.text), ("name", .string event.name), ("payload", .ofMap event.payload),
   ("occurred_at", .string event.occurredAt.text)]

/-- Writes an event. -/
def encode (event : Event) : Json := .ofFields event.members

end Event

end ProjectCache
