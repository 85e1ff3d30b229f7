/-
# ProjectCache.Json.Basic — JSON values.

The documents of the cache are JSON values. An object is the list of its members; the functions of
this library build it in key order without repeated keys, and read it as the map `Json.members`
gives, in which the last member with a key counts.
-/
import ProjectCache.Keyed
import ProjectCache.Binary64

namespace ProjectCache

/-- A JSON number: an integer from `-2 ^ 63` to `2 ^ 64 - 1`, or a floating-point number. -/
inductive Numeral where
  | int (value : Int)
  | float (value : Binary64)
  deriving DecidableEq, Repr

/-- A JSON value. -/
inductive Json where
  | null
  | bool (value : Bool)
  | number (value : Numeral)
  | string (value : String)
  | array (items : List Json)
  | object (fields : List (String × Json))
  deriving Repr

namespace Json

instance : Inhabited Json := ⟨.null⟩

/-! ## Equality -/

mutual

/-- Decides whether two values are the same. -/
def decEq : (a b : Json) → Decidable (a = b)
  | .null, .null => isTrue rfl
  | .bool x, .bool y =>
    if h : x = y then isTrue (h ▸ rfl) else isFalse fun e => h (by injection e)
  | .number x, .number y =>
    if h : x = y then isTrue (h ▸ rfl) else isFalse fun e => h (by injection e)
  | .string x, .string y =>
    if h : x = y then isTrue (h ▸ rfl) else isFalse fun e => h (by injection e)
  | .array xs, .array ys =>
    match decEqItems xs ys with
    | isTrue h => isTrue (h ▸ rfl)
    | isFalse h => isFalse fun e => h (by injection e)
  | .object xs, .object ys =>
    match decEqFields xs ys with
    | isTrue h => isTrue (h ▸ rfl)
    | isFalse h => isFalse fun e => h (by injection e)
  | .null, .bool _ | .null, .number _ | .null, .string _ | .null, .array _ | .null, .object _
  | .bool _, .null | .bool _, .number _ | .bool _, .string _ | .bool _, .array _
  | .bool _, .object _
  | .number _, .null | .number _, .bool _ | .number _, .string _ | .number _, .array _
  | .number _, .object _
  | .string _, .null | .string _, .bool _ | .string _, .number _ | .string _, .array _
  | .string _, .object _
  | .array _, .null | .array _, .bool _ | .array _, .number _ | .array _, .string _
  | .array _, .object _
  | .object _, .null | .object _, .bool _ | .object _, .number _ | .object _, .string _
  | .object _, .array _ => isFalse nofun

/-- Decides whether two lists of values are the same. -/
def decEqItems : (xs ys : List Json) → Decidable (xs = ys)
  | [], [] => isTrue rfl
  | [], _ :: _ | _ :: _, [] => isFalse nofun
  | x :: xs, y :: ys =>
    match decEq x y with
    | isFalse h => isFalse fun e => h (by injection e)
    | isTrue h =>
      match decEqItems xs ys with
      | isFalse h' => isFalse fun e => h' (by injection e)
      | isTrue h' => isTrue (by rw [h, h'])

/-- Decides whether two lists of members are the same. -/
def decEqFields : (xs ys : List (String × Json)) → Decidable (xs = ys)
  | [], [] => isTrue rfl
  | [], _ :: _ | _ :: _, [] => isFalse nofun
  | (k, x) :: xs, (l, y) :: ys =>
    if hk : k = l then
      match decEq x y with
      | isFalse h => isFalse fun e => h (by injection e with e; injection e)
      | isTrue h =>
        match decEqFields xs ys with
        | isFalse h' => isFalse fun e => h' (by injection e)
        | isTrue h' => isTrue (by rw [hk, h, h'])
    else isFalse fun e => hk (by injection e with e; injection e)

end

instance : DecidableEq Json := decEq

/-! ## Building and looking -/

/-- An integer. -/
def int (n : Int) : Json := .number (.int n)

/-- A natural number. -/
def nat (n : Nat) : Json := .number (.int n)

/-- The object of a map. -/
def ofMap (map : Keyed Json) : Json := .object map.entries

/-- The object of some members, of which the last with a key counts. -/
def ofFields (fields : List (String × Json)) : Json := ofMap (Keyed.ofList fields)

/-- An optional value, with `null` for none. -/
def ofOption {α : Type} (encode : α → Json) : Option α → Json
  | none => .null
  | some a => encode a

/-- The members of an object as a map. -/
def members? : Json → Option (Keyed Json)
  | .object fields => some (Keyed.ofList fields)
  | _ => none

/-- The text of a string. -/
def string? : Json → Option String
  | .string s => some s
  | _ => none

/-- The value of a member, `null` when the value is no object or has no such member. -/
def field (key : String) (json : Json) : Json :=
  match json.members? with
  | some map => (map.find? key).getD .null
  | none => .null

end Json

end ProjectCache
