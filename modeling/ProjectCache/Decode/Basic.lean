/-
# ProjectCache.Decode.Basic — reading typed values out of JSON.

A `Decoder α` reads a whole JSON value. A `Fields α` reads the members of a record, by name from an
object or by position from an array; fields are put together with `<$>` and `<*>` in the order of
their declaration. When several members of an object are at fault, the one that does not decode and
whose key comes first is reported, and a missing one only when all that are there decode
(`FieldFault.first`).
-/
import ProjectCache.Decode.Error

namespace ProjectCache

/-- Reads a value out of JSON. -/
abbrev Decoder (α : Type) := Json → Except DecodeError α

namespace Decoder

variable {α : Type}

/-! ## Plain values -/

/-- Text. -/
def text : Decoder String
  | .string s => .ok s
  | json => .error (.ofJson json "a string")

/-- A truth value. -/
def flag : Decoder Bool
  | .bool b => .ok b
  | json => .error (.ofJson json "a boolean")

/-- An integer from `low` up to, but not including, `high`, called `name` in messages. -/
def integer (low high : Int) (name : String) : Decoder Int
  | .number (.int n) =>
    if low ≤ n ∧ n < high then .ok n else .error (.wrongValue (.number (.int n)) name)
  | json => .error (.ofJson json name)

/-- A natural number below `2 ^ bits`, called `name` in messages. -/
def natural (bits : Nat) (name : String) : Decoder Nat :=
  fun json => (integer 0 (Word.count bits) name json).map Int.toNat

/-- Nothing but `null`. -/
def unit : Decoder Unit
  | .null => .ok ()
  | json => .error (.ofJson json "unit")

/-- `null` or a value. -/
def optional (value : Decoder α) : Decoder (Option α)
  | .null => .ok none
  | json => (value json).map some

/-- Reads each item, up to the first that fails. -/
def items (item : Decoder α) : List Json → Except DecodeError (List α)
  | [] => .ok []
  | json :: rest =>
    match item json with
    | .error e => .error e
    | .ok a => (items item rest).map (a :: ·)

/-- A list. -/
def list (item : Decoder α) : Decoder (List α)
  | .array js => items item js
  | json => .error (.ofJson json "a sequence")

/-- An object, as it is. -/
def members : Decoder (Keyed Json)
  | .object fields => .ok (Keyed.ofList fields)
  | json => .error (.ofJson json "a map")

/-- One of some names, alone or as the key of an object whose value is `null`. -/
def variant (known : List String) (find : String → Option α) : Decoder α
  | .string name =>
    match find name with
    | some a => .ok a
    | none => .error (.unknownVariant name known)
  | .object fields =>
    match (Keyed.ofList fields).entries with
    | [(name, json)] =>
      match find name with
      | none => .error (.unknownVariant name known)
      | some a => (unit json).map fun _ => a
    | _ => .error (.wrongValue .map "map with a single key")
  | json => .error (.ofJson json "string or map")

end Decoder

/-! ## Records -/

/-- What is wrong with one member of an object. -/
inductive FieldFault where
  | wrong (key : String) (cause : DecodeError)
  | missing (key : String)

namespace FieldFault

/-- The error a fault is reported as. -/
def error : FieldFault → DecodeError
  | .wrong _ cause => cause
  | .missing key => .missingField key

/-- Of the faults of an earlier and a later field, the one to report: the least key among those that
do not decode, otherwise the earlier of those that are missing. -/
def first : FieldFault → FieldFault → FieldFault
  | .wrong k c, .wrong l d => if l < k then .wrong l d else .wrong k c
  | .wrong k c, .missing _ => .wrong k c
  | .missing _, .wrong l d => .wrong l d
  | .missing k, .missing _ => .missing k

end FieldFault

/-- How the fields of a record are read. -/
structure Fields (α : Type) where
  /-- The names, in the order of declaration. -/
  names : List String
  /-- Reads the members of an object. -/
  ofMembers : Keyed Json → Except FieldFault α
  /-- Reads as many items of an array as there are fields, given the position of the first and what
  to say of an array that is too short. -/
  ofItems : String → Nat → List Json → Except DecodeError (α × List Json)

namespace Fields

variable {α β : Type}

/-- No fields. -/
protected def pure (a : α) : Fields α where
  names := []
  ofMembers _ := .ok a
  ofItems _ _ js := .ok (a, js)

/-- Changes the value that is read. -/
protected def map (f : α → β) (fields : Fields α) : Fields β where
  names := fields.names
  ofMembers ms := (fields.ofMembers ms).map f
  ofItems expected i js := (fields.ofItems expected i js).map fun (a, rest) => (f a, rest)

/-- First some fields, then others. -/
protected def seq (fs : Fields (α → β)) (as : Fields α) : Fields β where
  names := fs.names ++ as.names
  ofMembers ms :=
    match fs.ofMembers ms, as.ofMembers ms with
    | .ok f, .ok a => .ok (f a)
    | .ok _, .error e => .error e
    | .error e, .ok _ => .error e
    | .error e, .error e' => .error (e.first e')
  ofItems expected i js :=
    match fs.ofItems expected i js with
    | .error e => .error e
    | .ok (f, rest) =>
      (as.ofItems expected (i + fs.names.length) rest).map fun (a, rest) => (f a, rest)

instance : Functor Fields := ⟨Fields.map, fun a fields => Fields.map (fun _ => a) fields⟩

instance : Applicative Fields where
  pure := Fields.pure
  seq fs as := Fields.seq fs (as ())

/-- A field that is there or has a default; without a default it may not be left out. -/
def field (name : String) (value : Decoder α) (default : Option α) : Fields α where
  names := [name]
  ofMembers ms :=
    match ms.find? name with
    | some json =>
      match value json with
      | .ok a => .ok a
      | .error e => .error (.wrong name e)
    | none =>
      match default with
      | some a => .ok a
      | none => .error (.missing name)
  ofItems expected i js :=
    match js with
    | json :: rest => (value json).map (·, rest)
    | [] =>
      match default with
      | some a => .ok (a, [])
      | none => .error (.wrongLength i expected)

/-- A field that must be there. -/
def required (name : String) (value : Decoder α) : Fields α := field name value none

/-- A field with a default. -/
def defaulted (name : String) (default : α) (value : Decoder α) : Fields α :=
  field name value (some default)

/-- An optional field that is none when it is left out. -/
def optional (name : String) (value : Decoder α) : Fields (Option α) :=
  field name (Decoder.optional value) (some none)

/-- An optional field that an object may leave out, but not an array. -/
def nullable (name : String) (value : Decoder α) : Fields (Option α) where
  names := [name]
  ofMembers := (optional name value).ofMembers
  ofItems := (required name (Decoder.optional value)).ofItems

/-- Reads an array of exactly these fields. -/
def readArray (fields : Fields α) (expected : String) (js : List Json) : Except DecodeError α :=
  match fields.ofItems expected 0 js with
  | .error e => .error e
  | .ok (a, []) => .ok a
  | .ok (_, _ :: _) => .error (.wrongLength js.length "fewer elements in array")

/-- Reads the members of an object. -/
def readMembers (fields : Fields α) (ms : Keyed Json) : Except DecodeError α :=
  match fields.ofMembers ms with
  | .ok a => .ok a
  | .error fault => .error fault.error

/-- A record as an object, whose other members do not matter, or as an array. -/
def record (title : String) (fields : Fields α) : Decoder α
  | .object ms => fields.readMembers (Keyed.ofList ms)
  | .array js =>
    fields.readArray
      ("struct " ++ title ++ " with " ++ toString fields.names.length ++ " elements") js
  | json => .error (.ofJson json ("struct " ++ title))

/-- The members that are none of the fields. -/
def extraOf (fields : Fields α) (ms : Keyed Json) : Keyed Json :=
  ms.filter fun key _ => ! fields.names.contains key

/-- A record as an object, whose other members are kept. -/
def keepingExtra (title : String) (fields : Fields (Keyed Json → α)) : Decoder α
  | .object ms =>
    let map := Keyed.ofList ms
    (fields.readMembers map).map (· (fields.extraOf map))
  | json => .error (.ofJson json ("struct " ++ title))

/-- The fault of the first member that is none of the fields. -/
def unknownFault (fields : Fields α) (ms : Keyed Json) : Option FieldFault :=
  match (fields.extraOf ms).entries with
  | (key, _) :: _ => some (.wrong key (.unknownField key fields.names))
  | [] => none

/-- A record as an object without other members, or as an array. -/
def closed (title : String) (fields : Fields α) : Decoder α
  | .object ms =>
    let map := Keyed.ofList ms
    match fields.ofMembers map, fields.unknownFault map with
    | .ok a, none => .ok a
    | .ok _, some fault => .error fault.error
    | .error fault, none => .error fault.error
    | .error fault, some fault' => .error (fault.first fault').error
  | .array js => fields.readArray ("struct " ++ title) js
  | json => .error (.ofJson json ("struct " ++ title))

end Fields

end ProjectCache
