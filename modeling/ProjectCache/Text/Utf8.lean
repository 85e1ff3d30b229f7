/-
# ProjectCache.Text.Utf8 — text from bytes.

Bytes are read as UTF-8: shortest forms only, no surrogates, nothing past U+10FFFF. A byte that
belongs to no character is replaced by a filler of the caller's choice (`Utf8.decode`).
-/
namespace ProjectCache.Utf8

/-- The value of a continuation byte. -/
def continuation? (byte : Nat) : Option Nat :=
  if 0x80 ≤ byte ∧ byte < 0xc0 then some (byte - 0x80) else none

/-- The character that starts the bytes, with how many bytes it has. -/
def readChar : List Nat → Option (Char × Nat)
  | [] => none
  | a :: rest =>
    if a < 0x80 then some (Char.ofNat a, 1)
    else if 0xc2 ≤ a ∧ a < 0xe0 then
      match rest with
      | b :: _ => do
        let b ← continuation? b
        some (Char.ofNat ((a - 0xc0) * 64 + b), 2)
      | [] => none
    else if 0xe0 ≤ a ∧ a < 0xf0 then
      match rest with
      | b :: c :: _ => do
        let b ← continuation? b
        let c ← continuation? c
        let n := ((a - 0xe0) * 64 + b) * 64 + c
        if n < 0x800 ∨ (0xd800 ≤ n ∧ n < 0xe000) then none else some (Char.ofNat n, 3)
      | _ => none
    else if 0xf0 ≤ a ∧ a < 0xf5 then
      match rest with
      | b :: c :: d :: _ => do
        let b ← continuation? b
        let c ← continuation? c
        let d ← continuation? d
        let n := (((a - 0xf0) * 64 + b) * 64 + c) * 64 + d
        if n < 0x10000 ∨ 0x110000 ≤ n then none else some (Char.ofNat n, 4)
      | _ => none
    else none

/-- Reads bytes with fuel, a filler for each byte that belongs to no character. -/
def decodeFrom (filler : Char) : Nat → List Nat → List Char
  | 0, _ | _, [] => []
  | fuel + 1, a :: rest =>
    match readChar (a :: rest) with
    | some (c, n) => c :: decodeFrom filler fuel ((a :: rest).drop n)
    | none => filler :: decodeFrom filler fuel rest

/-- Reads bytes, a filler for each byte that belongs to no character. -/
def decode (filler : Char) (bytes : List Nat) : List Char :=
  decodeFrom filler bytes.length bytes

end ProjectCache.Utf8
