/-
# ProjectCache.Settings.Layer — settings from several sources, laid over each other.

A source is a list of names with values. A name such as `store.bucket` is a path into the tree of
settings: points lead into tables and brackets into arrays, where a negative index counts from the
end. A name that is no path is taken as it is. All names are in lower case.

Laying a value over a tree keeps what the value does not mention: a table goes into the table that
is there, name by name, and any other value takes the place of what is there (`graft`). An item of
an array is replaced as a whole. Sources that come later win. An index that no array has, in front
of the first item or beyond what fits into memory, breaks the layering off.
-/
import ProjectCache.Json.Basic
import ProjectCache.Word

namespace ProjectCache.Layer

/-! ## Names -/

/-- The lower-case form of a character of a name. Of the letters outside ASCII only the Kelvin sign
has one inside. -/
def lowerChar (c : Char) : Char := if c = '\u212a' then 'k' else c.toLower

/-- The lower-case form of a name. -/
def lower (name : String) : String := String.ofList (name.toList.map lowerChar)

/-- A step from a value into one of its parts. -/
inductive Part where
  | member (name : String)
  | item (index : Int)
  deriving DecidableEq, Repr

/-- A path into the tree: a setting or section, and the way from there. -/
structure Path where
  /-- The name at the top. -/
  top : String
  /-- The parts below it. -/
  parts : List Part := []
  deriving DecidableEq, Repr

/-- May the character stand in a name on a path? -/
def isNameChar (c : Char) : Bool := c.isAlphanum || c = ' ' || c = '_' || c = '-'

/-- Reads one name of a path. -/
def readName (cs : List Char) : Option (String × List Char) :=
  let name := cs.takeWhile isNameChar
  if name.isEmpty then none else some (String.ofList name, cs.dropWhile isNameChar)

/-- Is the character a blank, as it may stand in brackets? -/
def isBlank (c : Char) : Bool := c = ' ' || c = '\t'

/-- Reads the sign of an index, and tells whether it is negative. -/
def readSign : List Char → Bool × List Char
  | '-' :: cs => (true, cs)
  | cs => (false, cs)

/-- The index of a sign and a size, if it has 64 bits. -/
def indexOf? (negative : Bool) (size : Nat) : Option Int :=
  if negative then (if size ≤ Word.count 63 then some (-(size : Int)) else none)
  else if size < Word.count 63 then some size
  else none

/-- Reads the index between two brackets, of which the first has been read. -/
def readIndex (cs : List Char) : Option (Int × List Char) :=
  let (negative, cs) := readSign (cs.dropWhile isBlank)
  let digits := cs.takeWhile Char.isDigit
  let size := digits.foldl (fun n c => n * 10 + (c.toNat - '0'.toNat)) 0
  match digits.isEmpty, (cs.dropWhile Char.isDigit).dropWhile isBlank with
  | false, ']' :: rest => (indexOf? negative size).map (·, rest)
  | _, _ => none

/-- Reads the parts of a path. Each has a character, so their number is fuel enough. -/
def readParts : Nat → List Char → Option (List Part)
  | _, [] => some []
  | 0, _ => none
  | fuel + 1, '.' :: cs =>
    match readName cs with
    | some (name, rest) => (readParts fuel rest).map (.member name :: ·)
    | none => none
  | fuel + 1, '[' :: cs =>
    match readIndex cs with
    | some (index, rest) => (readParts fuel rest).map (.item index :: ·)
    | none => none
  | _ + 1, _ => none

/-- The path that a name is. A name that is none stands for itself. -/
def Path.ofName (name : String) : Path :=
  let cs := name.toList
  match readName cs with
  | none => ⟨name, []⟩
  | some (top, rest) =>
    match readParts rest.length rest with
    | some parts => ⟨top, parts⟩
    | none => ⟨name, []⟩

/-! ## Trees -/

/-- The members of a table. Anything else has none. -/
def tableOf (tree : Json) : Keyed Json := (tree.members?).getD ∅

/-- The items of an array. Anything else has none. -/
def itemsOf : Json → List Json
  | .array items => items
  | _ => []

mutual

/-- Lays a value over a tree. -/
def graft (tree : Json) : Json → Json
  | .object fields => graftFields tree fields
  | value => value

/-- Lays the members of a table over a tree, one after the other. -/
def graftFields (tree : Json) : List (String × Json) → Json
  | [] => tree
  | (name, value) :: rest =>
    let key := lower name
    let table := tableOf tree
    let inner := graft ((table.find? key).getD (.object [])) value
    graftFields (.ofMap (table.insert key inner)) rest

end

/-- The number of items that no array reaches. -/
def itemLimit : Nat := Word.count 24

/-- The place that an index means in an array of some items. None when no array has it. -/
def place? (count : Nat) (index : Int) : Option Nat :=
  if 0 ≤ index then (if index.toNat < itemLimit then some index.toNat else none)
  else if index.natAbs ≤ count then some (count - index.natAbs)
  else none

/-- What stands where nothing was, in front of some further steps. -/
def missing (parts : List Part) : Json := if parts.isEmpty then .object [] else .null

/-- Lays a value over the part of a tree that some steps lead to. Tables and arrays on the way are
made where there are none. -/
def putAt (value : Json) : List Part → Json → Option Json
  | [], tree => some (graft tree value)
  | .member name :: parts, tree => do
    let table := tableOf tree
    let inner ← putAt value parts ((table.find? name).getD (missing parts))
    return .ofMap (table.insert name inner)
  | .item index :: parts, tree => do
    let items := itemsOf tree
    let place ← place? items.length index
    let filled := items ++ List.replicate (place + 1 - items.length) .null
    let inner ← if parts.isEmpty then some value else putAt value parts (filled.getD place .null)
    return .array (filled.set place inner)

/-- Lays one value of a source over the settings. -/
def put (settings : Keyed Json) (name : String) (value : Json) : Option (Keyed Json) := do
  let path := Path.ofName (lower name)
  let tree := (settings.find? path.top).getD (missing path.parts)
  return settings.insert path.top (← putAt value path.parts tree)

/-- Lays a source over the settings. -/
def overlay (settings : Keyed Json) (source : List (String × Json)) : Option (Keyed Json) :=
  source.foldlM (fun settings (name, value) => put settings name value) settings

end ProjectCache.Layer
