/-
# ProjectCache.Json.Skim — reading some members of an object and skipping the rest.

A member that nobody asks for must be JSON, but its value is not built: numbers of any size, lone
surrogates and any depth of nesting pass (`Json.skipValue`). `Json.readKnown` reads the members with
known names and skips the others; every name is read, and a name that occurs twice is found twice.
-/
import ProjectCache.Json.Reader

namespace ProjectCache.Json

/-! ## Skipping -/

/-- Skips digits, of which there must be one. -/
def skipDigits (cs : List Char) : Option (List Char) :=
  match cs with
  | c :: rest => if c.isDigit then some (rest.dropWhile Char.isDigit) else none
  | [] => none

/-- Skips an exponent, if there is one. -/
def skipExponent : List Char → Option (List Char)
  | 'e' :: '+' :: cs | 'e' :: '-' :: cs | 'E' :: '+' :: cs | 'E' :: '-' :: cs => skipDigits cs
  | 'e' :: cs | 'E' :: cs => skipDigits cs
  | cs => some cs

/-- Skips a fraction and an exponent, if there are any. -/
def skipFraction : List Char → Option (List Char)
  | '.' :: cs =>
    match skipDigits cs with
    | some rest => skipExponent rest
    | none => none
  | cs => skipExponent cs

/-- Skips a number whose sign has been skipped. -/
def skipUnsigned : List Char → Option (List Char)
  | '0' :: cs =>
    match cs with
    | c :: _ => if c.isDigit then none else skipFraction cs
    | [] => some []
  | cs =>
    match skipDigits cs with
    | some rest => skipFraction rest
    | none => none

/-- Skips a number. -/
def skipNumber : List Char → Option (List Char)
  | '-' :: cs => skipUnsigned cs
  | cs => skipUnsigned cs

/-- Skips a string whose opening quote has been skipped. -/
def skipString : Nat → List Char → Option (List Char)
  | 0, _ => none
  | _ + 1, [] => none
  | fuel + 1, c :: cs =>
    if c = '"' then some cs
    else if c = '\\' then
      match cs with
      | 'u' :: cs =>
        match readHex4 cs with
        | some (_, cs) => skipString fuel cs
        | none => none
      | e :: cs => if (simpleEscape? e).isSome then skipString fuel cs else none
      | [] => none
    else if c.toNat < 0x20 then none
    else skipString fuel cs

mutual

/-- Skips a value. -/
def skipValue : Nat → List Char → Option (List Char)
  | 0, _ => none
  | fuel + 1, cs =>
    match skipBlanks cs with
    | 'n' :: 'u' :: 'l' :: 'l' :: rest => some rest
    | 't' :: 'r' :: 'u' :: 'e' :: rest => some rest
    | 'f' :: 'a' :: 'l' :: 's' :: 'e' :: rest => some rest
    | '"' :: rest => skipString (rest.length + 1) rest
    | '[' :: rest =>
      match skipBlanks rest with
      | ']' :: rest => some rest
      | rest => skipItems fuel rest
    | '{' :: rest =>
      match skipBlanks rest with
      | '}' :: rest => some rest
      | rest => skipFields fuel rest
    | rest => skipNumber rest

/-- Skips the items of an array and its closing bracket. -/
def skipItems : Nat → List Char → Option (List Char)
  | 0, _ => none
  | fuel + 1, cs =>
    match skipValue fuel cs with
    | none => none
    | some rest =>
      match skipBlanks rest with
      | ',' :: rest => skipItems fuel rest
      | ']' :: rest => some rest
      | _ => none

/-- Skips the members of an object and its closing brace. -/
def skipFields : Nat → List Char → Option (List Char)
  | 0, _ => none
  | fuel + 1, cs =>
    match skipBlanks cs with
    | '"' :: rest =>
      match skipString (rest.length + 1) rest with
      | none => none
      | some rest =>
        match skipBlanks rest with
        | ':' :: rest =>
          match skipValue fuel rest with
          | none => none
          | some rest =>
            match skipBlanks rest with
            | ',' :: rest => skipFields fuel rest
            | '}' :: rest => some rest
            | _ => none
        | _ => none
    | _ => none

end

/-! ## Members with known names -/

/-- Reads the value of a member with a known name, and skips any other. -/
def readOrSkip (fuel depth : Nat) (known : Bool) (cs : List Char) :
    Option (Option Json × List Char) :=
  if known then (readValue fuel depth cs).map fun (json, rest) => (some json, rest)
  else (skipValue fuel cs).map fun rest => (none, rest)

/-- Reads the members of an object whose opening brace has been read: the values of those with known
names, and the names of the others. -/
def readKnown (names : List String) (depth : Nat) :
    Nat → List Char → Option (List (String × Option Json) × List Char)
  | 0, _ => none
  | fuel + 1, cs =>
    match skipBlanks cs with
    | '"' :: rest =>
      match readString rest with
      | none => none
      | some (key, rest) =>
        match skipBlanks rest with
        | ':' :: rest =>
          match readOrSkip fuel depth (names.contains key) rest with
          | none => none
          | some (value, rest) =>
            match skipBlanks rest with
            | ',' :: rest =>
              (readKnown names depth fuel rest).map fun (members, r) => ((key, value) :: members, r)
            | '}' :: rest => some ([(key, value)], rest)
            | _ => none
        | _ => none
    | _ => none

/-- Reads the members of an object that fills the text, blanks apart. -/
def knownMembers? (names : List String) (cs : List Char) :
    Option (List (String × Option Json)) :=
  let result := match skipBlanks cs with
    | '{' :: rest =>
      match skipBlanks rest with
      | '}' :: rest => some ([], rest)
      | rest => readKnown names (maxDepth - 1) (fuelFor cs) rest
    | _ => none
  match result with
  | some (members, rest) => if (skipBlanks rest).isEmpty then some members else none
  | none => none

end ProjectCache.Json
