/-
# ProjectCache.Proofs.Event.Wire — events survive the wire.

A message is read as the members that were written, one level below the text
(`Event.readMessage?_message`): all four names are known and none occurs twice. Its bytes are text,
so both readings of them agree (`Event.ofBytes?_encode`). The values of the payload stand two levels
below the text, which leaves them 125 of the 127 levels that the reader allows.
-/
import ProjectCache.Event.Wire
import ProjectCache.Proofs.Decode.Fields
import ProjectCache.Proofs.Instant
import ProjectCache.Proofs.Json.RoundTrip
import ProjectCache.Proofs.Text.Utf8
import ProjectCache.Proofs.Uuid

namespace ProjectCache.Event

/-- The event is told by its message: the values of its payload are read back from their text, and
so is its point in time. -/
structure Portable (event : Event) : Prop where
  /-- The values of the payload nest no deeper than the event leaves room for. -/
  payload : ∀ member ∈ event.payload.entries, Json.Portable 125 member.2
  /-- The point in time is written without a sign and outside a leap second. -/
  occurredAt : event.occurredAt.Plain

/-! ## Members -/

theorem portable_of_mem_members {event : Event} (h : event.Portable) :
    ∀ member ∈ event.members, Json.Portable (Json.maxDepth - 1) member.2 := by
  intro member hmember
  simp only [members, List.mem_cons, List.not_mem_nil, or_false] at hmember
  rcases hmember with rfl | rfl | rfl | rfl
  · exact .string _
  · exact .string _
  · exact .object event.payload.sorted h.payload
  · exact .string _

/-- The members are written under the names by which they are read. -/
theorem map_fst_members (event : Event) : event.members.map Prod.fst = fields.names := rfl

/-- An event is read back from its members. -/
theorem readMembers_members {event : Event} (h : event.Portable) :
    fields.readMembers (Keyed.ofList event.members) = .ok event := by
  have hid : decodeId (.string event.id.text) = .ok event.id := by
    rw [decodeId, Uuid.ofText_text]
  have hpayload : Decoder.members (.ofMap event.payload) = .ok event.payload := by
    rw [Json.ofMap, Decoder.members, Keyed.ofList_entries]
  have hoccurred : decodeInstant (.string event.occurredAt.text) = .ok event.occurredAt := by
    rw [decodeInstant, Instant.ofText_text h.occurredAt]
  simp only [Fields.readMembers, fields, Fields.ofMembers_seq, Fields.ofMembers_map,
    Fields.required, Fields.defaulted, Fields.field, members]
  simp [hid, hpayload, hoccurred, Except.map]

/-! ## Messages -/

/-- What a message of the event says before it is understood. -/
def found (event : Event) : List (String × Option Json) :=
  event.members.map fun (name, json) => (name, some json)

theorem namedOnce_found (event : Event) : namedOnce event.found = true := by
  have hcount : ∀ name, event.found.countP (fun member => member.1 == name)
      = fields.names.countP (· == name) := by
    intro name
    rw [← map_fst_members event, List.countP_map, found, List.countP_map]
    rfl
  simp only [namedOnce, hcount]
  decide

theorem filterMap_found (event : Event) :
    event.found.filterMap (fun (name, json) => json.map (name, ·)) = event.members := by
  rw [found, List.filterMap_map]
  exact List.filterMap_some

/-- A message is read as the members that were written. -/
theorem readMessage?_message {event : Event} (h : event.Portable) :
    readMessage? event.message.toList = some (.members event.found) := by
  have hknown : ∀ member ∈ event.members, member.1 ∈ fields.names := fun member hmember =>
    map_fst_members event ▸ List.mem_map_of_mem hmember
  have hread := Json.knownMembers?_compactChars (portable_of_mem_members h) hknown
  obtain ⟨more, htext⟩ : ∃ more, Json.compactChars (.object event.members) = '{' :: more := ⟨_, rfl⟩
  rw [message, Json.compact, String.toList_ofList]
  rw [htext] at hread ⊢
  simp (disch := decide) only [readMessage?, Json.skipBlanks_cons, hread, Option.map_some]
  rfl

/-- The message of an event is understood as the event. -/
theorem ofChars?_message {event : Event} (h : event.Portable) :
    ofChars? event.message.toList = some event := by
  rw [ofChars?, readMessage?_message h, Option.bind_some, Reading.event?,
    if_pos (namedOnce_found event), filterMap_found, readMembers_members h]
  rfl

/-- Text is understood alike whatever stands in for bytes that belong to no character. -/
theorem ofBytes?_encode (text : String) : ofBytes? (Utf8.encode text) = ofChars? text.toList := by
  simp only [ofBytes?, Utf8.decode_encode, if_true]
  rfl

/-! ## Both sides -/

/-- Whoever receives the message of an event has the event, and so finds what was done, to which
objects, and for which projects. -/
theorem survives_wire {event : Event} (h : event.Portable) :
    ∃ received, ofBytes? (Utf8.encode event.message) = some received ∧ received = event ∧
      received.action = event.action ∧
      ∀ key, received.object key = event.object key ∧
        (received.object key).bind projectOf = (event.object key).bind projectOf := by
  refine ⟨event, ?_, rfl, rfl, fun _ => ⟨rfl, rfl⟩⟩
  rw [ofBytes?_encode, ofChars?_message h]

/-- An update of a project on a leap day. -/
def sample : Event where
  id := Uuid.zero
  name := "project:update"
  payload := (∅ : Keyed Json).insert "project" (.object [("tags", .array [.null, .int (-1)]),
    ("uuid", .string "p\n1")])
  occurredAt := ⟨2024, 2, 29, 23, 59, 59, 120000⟩

theorem survives_wire_sample :
    sample.Portable ∧
      ∃ received, ofBytes? (Utf8.encode sample.message) = some received ∧ received = sample ∧
        received.action = sample.action ∧
        ∀ key, received.object key = sample.object key ∧
          (received.object key).bind projectOf = (sample.object key).bind projectOf := by
  have h : sample.Portable := by
    constructor
    · intro member hmember
      obtain rfl : member = ("project", .object [("tags", .array [.null, .int (-1)]),
        ("uuid", .string "p\n1")]) := List.mem_singleton.1 hmember
      refine .object (by decide) fun field hfield => ?_
      simp only [List.mem_cons, List.not_mem_nil, or_false] at hfield
      rcases hfield with rfl | rfl
      · refine .array fun item hitem => ?_
        simp only [List.mem_cons, List.not_mem_nil, or_false] at hitem
        rcases hitem with rfl | rfl
        · exact .null
        · exact .int (by decide)
      · exact .string _
    · constructor <;> decide
  exact ⟨h, survives_wire h⟩

end ProjectCache.Event
