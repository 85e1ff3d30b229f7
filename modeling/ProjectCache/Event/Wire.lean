/-
# ProjectCache.Event.Wire — events as messages.

A message is the JSON text of an event. Members that an event does not have are skipped; the members
that it has may occur once. A byte that belongs to no character may stand where nobody looks, in the
value of a skipped member: a message with such bytes is read twice, with different characters in
their place, and counts when both readings agree.
-/
import ProjectCache.Event.Basic
import ProjectCache.Json.Skim
import ProjectCache.Text.Utf8

namespace ProjectCache.Event

/-- The subject on which events of a name are sent. -/
def subject (root name : String) : String := root ++ "." ++ name

/-- The first part of the subjects, by default. -/
def subjectRoot : String := "router.events"

/-- The message of an event. -/
def message (event : Event) : String := (Json.object event.members).compact

/-- What a message says before it is understood: the members of an object, or another value. -/
inductive Reading where
  | members (found : List (String × Option Json))
  | value (json : Json)
  deriving DecidableEq

/-- Reads a message as JSON. -/
def readMessage? (cs : List Char) : Option Reading :=
  match Json.skipBlanks cs with
  | '{' :: _ => (Json.knownMembers? fields.names cs).map .members
  | _ => (Json.ofChars? cs).map .value

/-- Does no name of a member that an event has occur twice? -/
def namedOnce (found : List (String × Option Json)) : Bool :=
  fields.names.all fun name => found.countP (fun member => member.1 == name) ≤ 1

/-- Understands a message. -/
def Reading.event? : Reading → Option Event
  | .members found =>
    if namedOnce found then
      (fields.readMembers
        (Keyed.ofList (found.filterMap fun (name, json) => json.map (name, ·)))).toOption
    else none
  | .value json => (decode json).toOption

/-- The event of a message that is text. -/
def ofChars? (cs : List Char) : Option Event := (readMessage? cs).bind Reading.event?

/-- The event of a message. -/
def ofBytes? (bytes : List Nat) : Option Event :=
  let first := readMessage? (Utf8.decode '\ufffd' bytes)
  let second := readMessage? (Utf8.decode '\ufffc' bytes)
  if first = second then first.bind Reading.event? else none

end ProjectCache.Event
