/-
# ProjectCache.Json.Writer — JSON values to text.

`Json.compact` writes a value without blanks, `Json.pretty` with two blanks for each level and a
line for each item. In strings the quote, the backslash and the control characters are escaped, and
all else stands for itself.
-/
import ProjectCache.Json.Basic
import ProjectCache.Text.Hex

namespace ProjectCache.Json

/-! ## Strings and numbers -/

/-- One character of a string. -/
def escapeChar (c : Char) : List Char :=
  if c = '"' then ['\\', '"']
  else if c = '\\' then ['\\', '\\']
  else if c = '\n' then ['\\', 'n']
  else if c = '\r' then ['\\', 'r']
  else if c = '\t' then ['\\', 't']
  else if c = '\x08' then ['\\', 'b']
  else if c = '\x0c' then ['\\', 'f']
  else if c.toNat < 0x20 then
    ['\\', 'u', '0', '0',
      Hex.digit (Hex.lastDigit (c.toNat / 16)), Hex.digit (Hex.lastDigit c.toNat)]
  else [c]

/-- A string with its quotes. -/
def quote (s : String) : List Char :=
  '"' :: (s.toList.flatMap escapeChar ++ ['"'])

/-- The decimal form of an integer. -/
def intChars (n : Int) : List Char :=
  if n < 0 then '-' :: Nat.toDigits 10 n.natAbs else Nat.toDigits 10 n.natAbs

/-- The text of a number. -/
def numeralChars : Numeral → List Char
  | .int n => intChars n
  | .float x => x.text.toList

/-! ## Compact form -/

mutual

/-- The characters of a value, without blanks. -/
def compactChars : Json → List Char
  | .null => ['n', 'u', 'l', 'l']
  | .bool true => ['t', 'r', 'u', 'e']
  | .bool false => ['f', 'a', 'l', 's', 'e']
  | .number n => numeralChars n
  | .string s => quote s
  | .array [] => ['[', ']']
  | .array (item :: items) => '[' :: (compactChars item ++ compactItems items)
  | .object [] => ['{', '}']
  | .object ((key, value) :: fields) =>
    '{' :: (quote key ++ ':' :: (compactChars value ++ compactFields fields))

/-- The items after the first, and the closing bracket. -/
def compactItems : List Json → List Char
  | [] => [']']
  | item :: items => ',' :: (compactChars item ++ compactItems items)

/-- The members after the first, and the closing brace. -/
def compactFields : List (String × Json) → List Char
  | [] => ['}']
  | (key, value) :: fields =>
    ',' :: (quote key ++ ':' :: (compactChars value ++ compactFields fields))

end

/-- The text of a value, without blanks. -/
def compact (json : Json) : String := String.ofList json.compactChars

/-! ## Indented form -/

/-- A new line with the indentation of a level. -/
def newLine (level : Nat) : List Char := '\n' :: List.replicate (2 * level) ' '

mutual

/-- The characters of a value that stands at a level. -/
def prettyChars (level : Nat) : Json → List Char
  | .array [] => ['[', ']']
  | .array (item :: items) =>
    '[' :: (newLine (level + 1) ++ prettyChars (level + 1) item ++ prettyItems level items)
  | .object [] => ['{', '}']
  | .object ((key, value) :: fields) =>
    '{' :: (newLine (level + 1) ++ quote key ++ ':' :: ' ' ::
      (prettyChars (level + 1) value ++ prettyFields level fields))
  | .null => ['n', 'u', 'l', 'l']
  | .bool true => ['t', 'r', 'u', 'e']
  | .bool false => ['f', 'a', 'l', 's', 'e']
  | .number n => numeralChars n
  | .string s => quote s

/-- The items after the first, and the closing bracket. -/
def prettyItems (level : Nat) : List Json → List Char
  | [] => newLine level ++ [']']
  | item :: items =>
    ',' :: (newLine (level + 1) ++ prettyChars (level + 1) item ++ prettyItems level items)

/-- The members after the first, and the closing brace. -/
def prettyFields (level : Nat) : List (String × Json) → List Char
  | [] => newLine level ++ ['}']
  | (key, value) :: fields =>
    ',' :: (newLine (level + 1) ++ quote key ++ ':' :: ' ' ::
      (prettyChars (level + 1) value ++ prettyFields level fields))

end

/-- The text of a value, indented. -/
def pretty (json : Json) : String := String.ofList (prettyChars 0 json)

end ProjectCache.Json
