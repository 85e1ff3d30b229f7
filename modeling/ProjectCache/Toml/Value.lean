/-
# ProjectCache.Toml.Value — TOML values and what they mean.

A value is one of six kinds, where a table has its members in the order of writing. It means a JSON
value, in which a date has become text. A table whose first key is `dateKey` is a date too: that key
holds its text, and the other members do not count. When the text is no date, the table, and what
holds it, mean nothing.
-/
import ProjectCache.Json.Basic
import ProjectCache.Toml.Date

namespace ProjectCache.Toml

/-- A TOML value. -/
inductive Value where
  | text (value : String)
  /-- A date in its one form. -/
  | date (written : String)
  | number (value : Numeral)
  | bool (value : Bool)
  | array (items : List Value)
  | table (members : List (String × Value))

/-- The first key of a table that is a date. -/
def dateKey : String := "$__toml_private_datetime"

/-- Is a table with these members a date? -/
def isDate : List (String × Value) → Bool
  | [] => false
  | (key, _) :: _ => key == dateKey

/-- The date that the first member is. -/
def dateOf? : List (String × Value) → Option String
  | (_, .text text) :: _ => wholeDate? text
  | _ => none

mutual

/-- What a value means. -/
def Value.json? : Value → Option Json
  | .text value => some (.string value)
  | .date written => some (.string written)
  | .number value => some (.number value)
  | .bool value => some (.bool value)
  | .array items => (itemsJson? items).map .array
  | .table members =>
    if isDate members then (dateOf? members).map .string
    else (membersJson? members).map .ofFields

/-- What the items of an array mean. -/
def itemsJson? : List Value → Option (List Json)
  | [] => some []
  | item :: rest => do
    let json ← item.json?
    return json :: (← itemsJson? rest)

/-- What the members of a table mean. -/
def membersJson? : List (String × Value) → Option (List (String × Json))
  | [] => some []
  | (key, value) :: rest => do
    let json ← value.json?
    return (key, json) :: (← membersJson? rest)

end

end ProjectCache.Toml
