/-
# ProjectCache.Toml.Reader — how TOML values are written.

Arrays may go over several lines with comments and may end with a comma; an inline table may not.
The readers recurse on fuel, of which `Toml.readValue` is given more than it can use, and count how
deep arrays and inline tables may still nest.
-/
import ProjectCache.Toml.Number
import ProjectCache.Toml.Table

namespace ProjectCache.Toml

/-- Reads a number or a date. -/
def readNumberOrDate (cs : List Char) : Option (Value × List Char) :=
  if startsDateOrTime cs then
    (readDateOrTime cs).map fun (written, rest) => (.date (String.ofList written), rest)
  else (readNumber cs).map fun (number, rest) => (.number number, rest)

mutual

/-- Reads a value, with the nesting that is still allowed. -/
def readNested : Nat → Nat → List Char → Option (Value × List Char)
  | 0, _, _ => none
  | fuel + 1, depth, cs =>
    match cs with
    | '"' :: _ | '\'' :: _ => (readString cs).map fun (text, r) => (.text text, r)
    | 't' :: 'r' :: 'u' :: 'e' :: rest => some (.bool true, rest)
    | 'f' :: 'a' :: 'l' :: 's' :: 'e' :: rest => some (.bool false, rest)
    | '[' :: rest =>
      match depth with
      | 0 => none
      | depth + 1 => (readItems fuel depth rest).map fun (items, r) => (.array items, r)
    | '{' :: rest =>
      match depth with
      | 0 => none
      | depth + 1 =>
        match skipBlanks rest with
        | '}' :: rest => some (.table [], rest)
        | rest =>
          match readPairs fuel depth rest with
          | some (pairs, rest) => (inlineTable? pairs).map (·, rest)
          | none => none
    | rest => readNumberOrDate rest

/-- Reads the items of an array up to its closing bracket. -/
def readItems : Nat → Nat → List Char → Option (List Value × List Char)
  | 0, _, _ => none
  | fuel + 1, depth, cs =>
    match skipFiller (cs.length + 1) cs with
    | none => none
    | some (']' :: rest) => some ([], rest)
    | some rest =>
      match readNested fuel depth rest with
      | none => none
      | some (item, rest) =>
        match skipFiller (rest.length + 1) rest with
        | some (',' :: rest) => (readItems fuel depth rest).map fun (items, r) => (item :: items, r)
        | some (']' :: rest) => some ([item], rest)
        | _ => none

/-- Reads the keys and values of an inline table up to its closing brace. -/
def readPairs : Nat → Nat → List Char → Option (List (Key × Value) × List Char)
  | 0, _, _ => none
  | fuel + 1, depth, cs =>
    match readKey cs with
    | some (key, '=' :: rest) =>
      match readNested fuel depth (skipBlanks rest) with
      | none => none
      | some (value, rest) =>
        match skipBlanks rest with
        | ',' :: rest =>
          (readPairs fuel depth rest).map fun (pairs, r) => ((key, value) :: pairs, r)
        | '}' :: rest => some ([(key, value)], rest)
        | _ => none
    | _ => none

end

/-- Reads a value. -/
def readValue (cs : List Char) : Option (Value × List Char) :=
  readNested (2 * cs.length + 2) maxDepth cs

end ProjectCache.Toml
