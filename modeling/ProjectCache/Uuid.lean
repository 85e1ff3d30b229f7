/-
# ProjectCache.Uuid — the identifiers of events.

A UUID is 32 hexadecimal digits. It is written in lower case in groups of 8, 4, 4, 4 and 12 digits
with hyphens between them, and read in that form, alone, in braces or after `urn:uuid:`, or as the
bare 32 digits, in either case. Text that is none of these is refused with the first reason that
holds of it (`Uuid.faultOf`); positions are counted in bytes from the first digit that was expected.
-/
import ProjectCache.Text.Hex
import ProjectCache.Text.Quoted

namespace ProjectCache

/-- A universally unique identifier. -/
structure Uuid where
  /-- The digits, the most significant first. -/
  digits : List (Fin 16)
  /-- There are 32 of them. -/
  size : digits.length = 32
  deriving DecidableEq

namespace Uuid

/-- Why text is no UUID. -/
inductive Fault where
  | character (found : Char) (position : Nat)
  | length (found : Nat)
  | groupCount (found : Nat)
  | groupLength (group expected found : Nat)
  deriving DecidableEq, Repr

/-- The wording of a fault. -/
def Fault.message : Fault → String
  | .character found position =>
    "invalid character: found `" ++ found.toString ++ "` at " ++ toString position
  | .length found => "invalid length: found " ++ toString found
  | .groupCount found => "invalid group count: expected 5, found " ++ toString found
  | .groupLength group expected found =>
    "invalid group length in group " ++ toString group ++ ": expected " ++ toString expected
      ++ ", found " ++ toString found

/-- The sizes of the groups. -/
def groups : List Nat := [8, 4, 4, 4, 12]

/-- The identifier of nothing: all digits are zero. -/
def zero : Uuid := ⟨List.replicate 32 (Hex.lastDigit 0), List.length_replicate⟩

/-! ## Writing -/

/-- Digits in groups with hyphens between them. -/
def writeGroups : List Nat → List (Fin 16) → List Char
  | [], _ => []
  | [n], ds => (ds.take n).map Hex.digit
  | n :: ns, ds => (ds.take n).map Hex.digit ++ '-' :: writeGroups ns (ds.drop n)

/-- The hyphenated text in lower case. -/
def text (uuid : Uuid) : String := String.ofList (writeGroups groups uuid.digits)

/-! ## Reading -/

/-- Reads a number of digits. -/
def readDigits : Nat → List Char → Option (List (Fin 16) × List Char)
  | 0, cs => some ([], cs)
  | _ + 1, [] => none
  | n + 1, c :: cs =>
    match Hex.value? c with
    | none => none
    | some d => (readDigits n cs).map fun (ds, rest) => (d :: ds, rest)

/-- Reads groups of digits with hyphens between them. -/
def readGroups : List Nat → List Char → Option (List (Fin 16) × List Char)
  | [], cs => some ([], cs)
  | [n], cs => readDigits n cs
  | n :: ns, cs =>
    match readDigits n cs with
    | some (ds, '-' :: rest) => (readGroups ns rest).map fun (es, r) => (ds ++ es, r)
    | _ => none

/-- The start of a name that is an identifier. -/
def urnStart : List Char := "urn:uuid:".toList

/-- What follows `urn:uuid:`, in any case. -/
def afterUrn? (cs : List Char) : Option (List Char) :=
  if (cs.take urnStart.length).map Char.toLower = urnStart then some (cs.drop urnStart.length)
  else none

/-- What stands between braces. -/
def insideBraces? : List Char → Option (List Char)
  | '\x7b' :: rest =>
    match rest.getLast? with
    | some '\x7d' => some rest.dropLast
    | _ => none
  | _ => none

/-- The digits as an identifier, when they fill the text. -/
def ofDigits? : Option (List (Fin 16) × List Char) → Option Uuid
  | some (ds, []) => if h : ds.length = 32 then some ⟨ds, h⟩ else none
  | _ => none

/-- Reads one of the four forms. -/
def ofChars? (cs : List Char) : Option Uuid :=
  if cs.length = 32 then ofDigits? (readDigits 32 cs)
  else
    match insideBraces? cs with
    | some inner => ofDigits? (readGroups groups inner)
    | none =>
      match afterUrn? cs with
      | some inner => ofDigits? (readGroups groups inner)
      | none => ofDigits? (readGroups groups cs)

/-- The byte positions of the hyphens, or the first character that is neither digit nor hyphen. -/
def scan : Nat → List Char → Except (Char × Nat) (List Nat)
  | _, [] => .ok []
  | index, c :: cs =>
    if c = '-' then (scan (index + 1) cs).map (index :: ·)
    else if (Hex.value? c).isSome then scan (index + 1) cs
    else .error (c, index)

/-- The first group whose hyphen does not stand where it should. When all do, the last group of a
text of a size may have the wrong length. -/
def misplacedGroup? (size : Nat) : Nat → List (Nat × Nat × Nat) → Option Fault
  | group, [] => if size = 24 + 12 then none else some (.groupLength group 12 (size - 24))
  | group, (start, expected, hyphen) :: rest =>
    if hyphen = start + expected then misplacedGroup? size (group + 1) rest
    else some (.groupLength group expected (hyphen - start))

/-- What stands behind `urn:uuid:` and between braces, and whether neither is there. -/
def strip (cs : List Char) : List Char × Bool :=
  let name := afterUrn? cs
  let inner := name.getD cs
  match insideBraces? inner with
  | some inner => (inner, false)
  | none => (inner, name.isNone)

/-- Why text that is no UUID is none. -/
def faultOf (cs : List Char) : Fault :=
  let (inner, bare) := strip cs
  match scan 0 inner with
  | .error (c, index) => .character c index
  | .ok hyphens =>
    if hyphens.isEmpty && bare then .length (Text.byteLength cs)
    else if hyphens.length ≠ 4 then .groupCount (hyphens.length + 1)
    else
      let places := [(0, 8), (9, 4), (14, 4), (19, 4)].zipWith (fun (s, e) h => (s, e, h)) hyphens
      (misplacedGroup? (Text.byteLength inner) 0 places).getD (.length (Text.byteLength cs))

/-- Reads an identifier. -/
def ofText (text : String) : Except Fault Uuid :=
  match ofChars? text.toList with
  | some uuid => .ok uuid
  | none => .error (faultOf text.toList)

end Uuid

end ProjectCache
