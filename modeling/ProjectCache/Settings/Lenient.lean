/-
# ProjectCache.Settings.Lenient — settings whose values are converted to their types.

Sources do not agree on types: the environment knows only text. So numbers, truth values and texts
stand for each other where that makes sense: a truth value counts 1 or 0, words such as `yes` and
`off` are truth values, a float is rounded, half away from zero, and a number has its text. An
integer past 63 bits is a float.
-/
import ProjectCache.Settings.Basic

namespace ProjectCache.Lenient

/-- The largest natural number of a setting. -/
def maxNatural : Nat := Word.count 64 - 1

/-- The natural number nearest to a float, within the range of settings. NaN counts 0. -/
def naturalOfFloat (x : Binary64) : Nat :=
  match x.roundHalfAway with
  | some n => min n.toNat maxNatural
  | none => if x = .infinite false then maxNatural else 0

/-- A number with its integer in 63 bits, or else as a float. -/
def narrow : Numeral → Numeral
  | .int n => if n < (Word.count 63 : Int) then .int n else .float (.ofInt n)
  | .float x => .float x

/-- The words for true. -/
def yesWords : List String := ["true", "on", "yes"]

/-- The words for false. -/
def noWords : List String := ["false", "off", "no"]

/-- The natural number that digits spell, with or without a plus sign. -/
def naturalOfDigits? (cs : List Char) : Option Nat :=
  let digits := match cs with
    | '+' :: rest => rest
    | cs => cs
  if digits.isEmpty ∨ ¬ digits.all Char.isDigit then none
  else
    let n := digits.foldl (fun n c => n * 10 + (c.toNat - '0'.toNat)) 0
    if n ≤ maxNatural then some n else none

/-- The natural number of a text. -/
def naturalOfText? (text : String) : Option Nat :=
  let word := text.toLower
  if yesWords.contains word then some 1
  else if noWords.contains word then some 0
  else naturalOfDigits? text.toList

/-- Converts a value to a natural number. -/
def natural? : Json → Option Nat
  | .bool b => some (if b then 1 else 0)
  | .number n =>
    match narrow n with
    | .int n => if 0 ≤ n then some n.toNat else none
    | .float x => some (naturalOfFloat x)
  | .string text => naturalOfText? text
  | _ => none

/-- Converts a value to text. -/
def text? : Json → Option String
  | .bool b => some (if b then "true" else "false")
  | .number n =>
    match narrow n with
    | .int n => some (toString n)
    | .float x => some x.plainText
  | .string text => some text
  | _ => none

/-- The place of a name, in any case: a text, or the one name of a table. -/
def backend? : Json → Option StoreBackend
  | .string name => StoreBackend.ofName? name.toLower
  | .object [(name, _)] => StoreBackend.ofName? name.toLower
  | _ => none

/-- Reads what a conversion gives. -/
def converted {α : Type} (convert : Json → Option α) (expected : String) : Decoder α := fun json =>
  match convert json with
  | some a => .ok a
  | none => .error (.ofJson json expected)

/-- A section as a table or an array. What follows its settings in an array does not matter. -/
def record {α : Type} (title : String) (fields : Fields α) : Decoder α
  | .object ms => fields.readMembers (Keyed.ofList ms)
  | .array js => (fields.ofItems ("struct " ++ title) 0 js).map (·.1)
  | json => .error (.ofJson json ("struct " ++ title))

/-- Settings with values that are converted. -/
def form : SettingsForm where
  natural name := converted natural? name
  text := converted text? "a string"
  backend := converted backend? "a backend"
  record := record

end ProjectCache.Lenient
