/-
# ProjectCache.Glob.Pattern — glob patterns over keys.

`*` takes any run of characters and `?` one character, newlines excepted; `[...]` takes one
character of a class; a backslash takes the next character literally; every other character takes
itself. A pattern matches a key only as a whole.

Matching works on all suffixes of the key at once (`Token.row`), so that its cost is the product of
the two lengths.
-/
import ProjectCache.Glob.CharClass

namespace ProjectCache.Glob

/-- A part of a pattern. -/
inductive Token where
  | anyRun
  | anyOne
  | oneOf (cls : CharClass)
  | literal (c : Char)
  deriving DecidableEq, Repr

/-- Why text is no pattern. -/
inductive Fault where
  | unterminatedClass
  | invalid
  deriving DecidableEq, Repr

/-! ## Reading -/

/-- A part of a pattern whose classes have not been read yet. -/
inductive Piece where
  | token (t : Token)
  | classContent (content : List Char)
  deriving DecidableEq, Repr

/-- Where a reader of a pattern stands: between parts, after a backslash, or in a class of which it
has seen these characters, the latest first. -/
inductive Place where
  | between
  | escaped
  | inClass (seen : List Char)

/-- The part that a character outside of classes is. -/
def plainToken (c : Char) : Token :=
  if c = '*' then .anyRun else if c = '?' then .anyOne else .literal c

/-- Cuts a pattern into parts. None when a class has no closing bracket. -/
def pieces? : Place → List Char → Option (List Piece)
  | .between, [] => some []
  | .between, c :: cs =>
    if c = '[' then pieces? (.inClass []) cs
    else if c = '\\' then pieces? .escaped cs
    else (pieces? .between cs).map (.token (plainToken c) :: ·)
  | .escaped, [] => some []
  | .escaped, c :: cs => (pieces? .between cs).map (.token (.literal c) :: ·)
  | .inClass _, [] => none
  | .inClass seen, c :: cs =>
    if c = ']' then (pieces? .between cs).map (.classContent seen.reverse :: ·)
    else pieces? (.inClass (c :: seen)) cs

/-- Reads the classes. None when one of them is invalid. -/
def readClasses : List Piece → Option (List Token)
  | [] => some []
  | .token t :: rest => (readClasses rest).map (t :: ·)
  | .classContent content :: rest =>
    match CharClass.ofContent? content with
    | none => none
    | some cls => (readClasses rest).map (.oneOf cls :: ·)

/-- Reads a pattern. A class without closing bracket is reported before an invalid one. -/
def ofChars (cs : List Char) : Except Fault (List Token) :=
  match pieces? .between cs with
  | none => .error .unterminatedClass
  | some pieces =>
    match readClasses pieces with
    | none => .error .invalid
    | some tokens => .ok tokens

/-- Reads a pattern. -/
def ofText (pattern : String) : Except Fault (List Token) := ofChars pattern.toList

/-! ## Matching -/

/-- Does a part that takes one character take this one? -/
def Token.takes : Token → Char → Bool
  | .anyRun, c => c ≠ '\n'
  | .anyOne, c => c ≠ '\n'
  | .oneOf cls, c => cls.contains c
  | .literal d, c => c = d

/-- Given, for each suffix of the key from the longest to the empty one, whether the later parts
match it, tells the same of these parts with one more in front. -/
def Token.row (t : Token) : List Char → List Bool → List Bool
  | c :: cs, here :: later =>
    let row := t.row cs later
    let next := if t = .anyRun then row else later
    let taken := t.takes c && next.headD false
    (if t = .anyRun then here || taken else taken) :: row
  | [], [here] => [t = .anyRun && here]
  | _, _ => []

/-- For each suffix of the key from the longest to the empty one, whether the parts match it. -/
def rows (tokens : List Token) (key : List Char) : List Bool :=
  tokens.foldr (fun t later => t.row key later) (List.replicate key.length false ++ [true])

/-- Does the pattern match the whole key? -/
def accepts (tokens : List Token) (key : List Char) : Bool :=
  (rows tokens key).headD false

/-- Does the pattern match the whole key? -/
def acceptsText (tokens : List Token) (key : String) : Bool := accepts tokens key.toList

end ProjectCache.Glob
