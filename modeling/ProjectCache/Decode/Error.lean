/-
# ProjectCache.Decode.Error — why a JSON value is not what was expected.

The causes and their wording. A value of the wrong kind is described by what was found, in the
words of `Found.describe`; text that was found is quoted. Decoders that are not defined here can have
texts of their own.
-/
import ProjectCache.Json.Writer
import ProjectCache.Uuid
import ProjectCache.Instant

namespace ProjectCache

/-- What was found in place of the expected value. -/
inductive Found where
  | null
  | bool (value : Bool)
  | number (value : Numeral)
  | text (value : String)
  | sequence
  | map
  deriving DecidableEq, Repr

namespace Found

/-- The description of a JSON value. -/
def ofJson : Json → Found
  | .null => .null
  | .bool b => .bool b
  | .number n => .number n
  | .string s => .text s
  | .array _ => .sequence
  | .object _ => .map

/-- The words for what was found. -/
def describe : Found → String
  | .null => "null"
  | .bool b => "boolean `" ++ (if b then "true" else "false") ++ "`"
  | .number (.int n) => "integer `" ++ toString n ++ "`"
  | .number (.float x) => "floating point `" ++ x.text ++ "`"
  | .text s => "string " ++ Text.quoted s
  | .sequence => "sequence"
  | .map => "map"

end Found

/-- Why a value does not decode. -/
inductive DecodeError where
  | wrongType (found : Found) (expected : String)
  | wrongValue (found : Found) (expected : String)
  | missingField (name : String)
  | unknownField (name : String) (known : List String)
  | unknownVariant (name : String) (known : List String)
  | wrongLength (found : Nat) (expected : String)
  | spanOverflow
  | uuid (fault : Uuid.Fault)
  | instant (fault : Instant.Fault)
  | other (text : String)
  deriving DecidableEq, Repr

namespace DecodeError

/-- A name between backticks. -/
def ticked (name : String) : String := "`" ++ name ++ "`"

/-- The names that would have been right: one, either of two, or one of a list. -/
def oneOf : List String → String
  | [a] => ticked a
  | [a, b] => ticked a ++ " or " ++ ticked b
  | names => "one of " ++ ", ".intercalate (names.map ticked)

/-- The wording of an error. -/
def message : DecodeError → String
  | .wrongType found expected =>
    "invalid type: " ++ found.describe ++ ", expected " ++ expected
  | .wrongValue found expected =>
    "invalid value: " ++ found.describe ++ ", expected " ++ expected
  | .missingField name => "missing field " ++ ticked name
  | .unknownField name known =>
    "unknown field " ++ ticked name ++ ", expected " ++ oneOf known
  | .unknownVariant name known =>
    "unknown variant " ++ ticked name ++ ", expected " ++ oneOf known
  | .wrongLength found expected =>
    "invalid length " ++ toString found ++ ", expected " ++ expected
  | .spanOverflow => "overflow deserializing Duration"
  | .uuid fault => "UUID parsing failed: " ++ fault.message
  | .instant fault => fault.message
  | .other text => text

/-- A value of the wrong type. -/
def ofJson (json : Json) (expected : String) : DecodeError :=
  .wrongType (Found.ofJson json) expected

end DecodeError

end ProjectCache
