/-
# ProjectCache.Event.Draft — events that are written by hand.
-/
import ProjectCache.Event.Basic
import ProjectCache.Json.Reader

namespace ProjectCache.Event

/-- Why there is no event. -/
inductive DraftFault where
  | unknownAction (code : String)
  | notJson
  | notObject
  deriving DecidableEq, Repr

/-- The wording of a fault. -/
def DraftFault.message : DraftFault → String
  | .unknownAction code => "Unknown action code: " ++ code
  | .notJson => "Payload must be valid JSON"
  | .notObject => "Payload must be a JSON object"

/-- The event of a name, the text of a payload and the letter of an action, which counts more than
what the payload says was done. -/
def draft (id : Uuid) (occurredAt : Instant) (name payload action : String) :
    Except DraftFault Event :=
  match Action.ofCode? action with
  | none => .error (.unknownAction action)
  | some action =>
    match Json.ofText? payload with
    | none => .error .notJson
    | some json =>
      match json.members? with
      | none => .error .notObject
      | some members =>
        let event : Event := { id, name, payload := members, occurredAt }
        .ok (event.withAction action)

end ProjectCache.Event
