/-
# ProjectCache.Json.Reader — JSON text to values.

`Json.ofText?` reads one value with blanks around it. Objects and arrays nest at most 127 deep, the
last member with a key counts, and a string holds no bare control character and no lone surrogate.

A number without fraction and exponent keeps its integer value from `-2 ^ 63` to `2 ^ 64 - 1`. All
others are read from a significand of at most 64 bits and a power of ten: digits past 64 bits are
dropped, and the significand is rounded before it is multiplied or divided by the rounded power of
ten (`scaleByTen`). A number that comes out infinite is refused.

The reader is a recursion with fuel over the characters; `ofText?` gives it more than it can use.
-/
import ProjectCache.Word
import ProjectCache.Json.Basic
import ProjectCache.Text.Hex

namespace ProjectCache.Json

/-! ## Blanks and digits -/

/-- The characters that may stand between the parts of a value. -/
def isBlank (c : Char) : Bool :=
  c = ' ' || c = '\n' || c = '\t' || c = '\r'

/-- Drops blanks. -/
def skipBlanks (cs : List Char) : List Char :=
  cs.dropWhile isBlank

/-- The value of a decimal digit. -/
def digitValue (c : Char) : Nat := c.toNat - '0'.toNat

/-! ## Numbers -/

/-- The bound of the significands. -/
def significandBound : Nat := Word.count 64

/-- Reads the digits before the point, and counts those that no longer fit. -/
def wholeDigits (significand dropped : Nat) : List Char → Nat × Nat × List Char
  | [] => (significand, dropped, [])
  | c :: cs =>
    if c.isDigit then
      let longer := significand * 10 + digitValue c
      if dropped = 0 ∧ longer < significandBound then wholeDigits longer 0 cs
      else wholeDigits significand (dropped + 1) cs
    else (significand, dropped, c :: cs)

/-- Reads the digits after the point, as long as they fit, and counts those. -/
def fractionDigits (significand kept : Nat) : List Char → Nat × Nat × List Char
  | [] => (significand, kept, [])
  | c :: cs =>
    if c.isDigit then
      let longer := significand * 10 + digitValue c
      if longer < significandBound then fractionDigits longer (kept + 1) cs
      else (significand, kept, cs.dropWhile Char.isDigit)
    else (significand, kept, c :: cs)

/-- Divides by `10 ^ 308` until the exponent of ten is at least `-308`, then once more by what is
left. -/
def divideByTen : Nat → Binary64 → Nat → Binary64
  | 0, x, _ => x
  | fuel + 1, x, power =>
    if power ≤ 308 then x / Binary64.ofRatio false (Nat.pow 10 power) 1
    else if x.isZero then x
    else divideByTen fuel (x / Binary64.ofRatio false (Nat.pow 10 308) 1) (power - 308)

/-- The significand, rounded, times the rounded power of ten. None when that is infinite. -/
def scaleByTen (significand : Nat) (exponent : Int) : Option Binary64 :=
  let x := Binary64.ofRatio false significand 1
  if exponent < 0 then some (divideByTen 8 x exponent.natAbs)
  else if exponent ≤ 308 then
    let y := x * Binary64.ofRatio false (Nat.pow 10 exponent.toNat) 1
    if y.isInfinite then none else some y
  else if x.isZero then some x
  else none

/-- The bound of the exponents that are written out. -/
def exponentBound : Nat := Word.count 31

/-- Reads the optional exponent after the significand, and puts the number together. -/
def finishFloat (significand : Nat) (exponent : Int) (cs : List Char) :
    Option (Binary64 × List Char) :=
  match cs with
  | e :: cs =>
    if e = 'e' ∨ e = 'E' then
      let (down, cs) := match cs with
        | '+' :: cs => (false, cs)
        | '-' :: cs => (true, cs)
        | cs => (false, cs)
      let digits := cs.takeWhile Char.isDigit
      let rest := cs.dropWhile Char.isDigit
      if digits.isEmpty then none
      else
        let written := digits.foldl (fun n c => n * 10 + digitValue c) 0
        if written < exponentBound then
          let total := if down then exponent - written else exponent + written
          (scaleByTen significand total).map (·, rest)
        else if significand ≠ 0 ∧ ¬ down then none
        else some (Binary64.zero false, rest)
    else (scaleByTen significand exponent).map (·, e :: cs)
  | [] => (scaleByTen significand exponent).map (·, [])

/-- The integer as it is kept: as itself in 64 bits, as a floating-point number otherwise. -/
def integerNumeral (negative : Bool) (significand : Nat) : Numeral :=
  if negative then
    if 0 < significand ∧ significand ≤ Word.count 63 then .int (-(significand : Int))
    else .float (Binary64.ofRatio true significand 1)
  else .int significand

/-- Reads a number whose sign has been read. -/
def readUnsigned (negative : Bool) (cs : List Char) : Option (Numeral × List Char) :=
  let signed (x : Binary64) : Numeral := .float (if negative then x.negate else x)
  match cs with
  | [] => none
  | first :: more =>
    if ! first.isDigit then none
    else
      let (significand, dropped, rest) :=
        if first = '0' then (0, 0, more) else wholeDigits 0 0 (first :: more)
      match rest with
      | '.' :: fraction =>
        match fraction with
        | d :: _ =>
          if d.isDigit then
            let (significand, kept, rest) := fractionDigits significand 0 fraction
            (finishFloat significand ((dropped : Int) - kept) rest).map fun (x, r) => (signed x, r)
          else none
        | [] => none
      | c :: after =>
        if first = '0' ∧ c.isDigit then none
        else if c = 'e' ∨ c = 'E' ∨ dropped ≠ 0 then
          (finishFloat significand dropped (c :: after)).map fun (x, r) => (signed x, r)
        else some (integerNumeral negative significand, c :: after)
      | [] =>
        if dropped ≠ 0 then
          (finishFloat significand dropped []).map fun (x, r) => (signed x, r)
        else some (integerNumeral negative significand, [])

/-- Reads a number. -/
def readNumber : List Char → Option (Numeral × List Char)
  | '-' :: cs => readUnsigned true cs
  | cs => readUnsigned false cs

/-! ## Strings -/

/-- Reads four hexadecimal digits. -/
def readHex4 : List Char → Option (Nat × List Char)
  | a :: b :: c :: d :: rest => do
    let a ← Hex.value? a
    let b ← Hex.value? b
    let c ← Hex.value? c
    let d ← Hex.value? d
    some (((a.val * 16 + b.val) * 16 + c.val) * 16 + d.val, rest)
  | _ => none

/-- Reads the code after `\u`: one unit, or the two of a surrogate pair. -/
def readUnicode (cs : List Char) : Option (Char × List Char) := do
  let (unit, rest) ← readHex4 cs
  if 0xD800 ≤ unit ∧ unit < 0xDC00 then
    match rest with
    | '\\' :: 'u' :: rest =>
      let (low, rest) ← readHex4 rest
      if 0xDC00 ≤ low ∧ low < 0xE000 then
        some (Char.ofNat (0x10000 + (unit - 0xD800) * 0x400 + (low - 0xDC00)), rest)
      else none
    | _ => none
  else if 0xDC00 ≤ unit ∧ unit < 0xE000 then none
  else some (Char.ofNat unit, rest)

/-- The character that a letter after a backslash stands for. -/
def simpleEscape? : Char → Option Char
  | '"' => some '"'
  | '\\' => some '\\'
  | '/' => some '/'
  | 'b' => some '\x08'
  | 'f' => some '\x0c'
  | 'n' => some '\n'
  | 'r' => some '\r'
  | 't' => some '\t'
  | _ => none

/-- Reads the characters of a string up to its closing quote. -/
def readChars : Nat → List Char → Option (List Char × List Char)
  | 0, _ => none
  | _ + 1, [] => none
  | fuel + 1, c :: cs =>
    if c = '"' then some ([], cs)
    else if c = '\\' then
      match cs with
      | 'u' :: cs =>
        match readUnicode cs with
        | some (d, cs) => (readChars fuel cs).map fun (ds, r) => (d :: ds, r)
        | none => none
      | e :: cs =>
        match simpleEscape? e with
        | some d => (readChars fuel cs).map fun (ds, r) => (d :: ds, r)
        | none => none
      | [] => none
    else if c.toNat < 0x20 then none
    else (readChars fuel cs).map fun (ds, r) => (c :: ds, r)

/-- Reads a string whose opening quote has been read. -/
def readString (cs : List Char) : Option (String × List Char) :=
  (readChars (cs.length + 1) cs).map fun (ds, rest) => (String.ofList ds, rest)

/-! ## Values -/

mutual

/-- Reads a value, with the nesting that is still allowed. -/
def readValue : Nat → Nat → List Char → Option (Json × List Char)
  | 0, _, _ => none
  | fuel + 1, depth, cs =>
    match skipBlanks cs with
    | 'n' :: 'u' :: 'l' :: 'l' :: rest => some (.null, rest)
    | 't' :: 'r' :: 'u' :: 'e' :: rest => some (.bool true, rest)
    | 'f' :: 'a' :: 'l' :: 's' :: 'e' :: rest => some (.bool false, rest)
    | '"' :: rest => (readString rest).map fun (s, r) => (.string s, r)
    | '[' :: rest =>
      match depth with
      | 0 => none
      | depth + 1 =>
        match skipBlanks rest with
        | ']' :: rest => some (.array [], rest)
        | rest => (readItems fuel depth rest).map fun (items, r) => (.array items, r)
    | '{' :: rest =>
      match depth with
      | 0 => none
      | depth + 1 =>
        match skipBlanks rest with
        | '}' :: rest => some (.object [], rest)
        | rest => (readFields fuel depth rest).map fun (fields, r) => (ofFields fields, r)
    | rest => (readNumber rest).map fun (n, r) => (.number n, r)

/-- Reads the items of an array up to its closing bracket. -/
def readItems : Nat → Nat → List Char → Option (List Json × List Char)
  | 0, _, _ => none
  | fuel + 1, depth, cs =>
    match readValue fuel depth cs with
    | none => none
    | some (item, rest) =>
      match skipBlanks rest with
      | ',' :: rest => (readItems fuel depth rest).map fun (items, r) => (item :: items, r)
      | ']' :: rest => some ([item], rest)
      | _ => none

/-- Reads the members of an object up to its closing brace. -/
def readFields : Nat → Nat → List Char → Option (List (String × Json) × List Char)
  | 0, _, _ => none
  | fuel + 1, depth, cs =>
    match skipBlanks cs with
    | '"' :: rest =>
      match readString rest with
      | none => none
      | some (key, rest) =>
        match skipBlanks rest with
        | ':' :: rest =>
          match readValue fuel depth rest with
          | none => none
          | some (value, rest) =>
            match skipBlanks rest with
            | ',' :: rest =>
              (readFields fuel depth rest).map fun (fields, r) => ((key, value) :: fields, r)
            | '}' :: rest => some ([(key, value)], rest)
            | _ => none
        | _ => none
    | _ => none

end

/-- How deep arrays and objects may nest. -/
def maxDepth : Nat := 127

/-- Fuel that reading these characters cannot use up. -/
def fuelFor (cs : List Char) : Nat := 2 * cs.length + 2

/-- Reads a value that fills the text, blanks apart. -/
def ofChars? (cs : List Char) : Option Json :=
  match readValue (fuelFor cs) maxDepth cs with
  | some (json, rest) => if (skipBlanks rest).isEmpty then some json else none
  | none => none

/-- Reads a value that fills the text, blanks apart. -/
def ofText? (text : String) : Option Json := ofChars? text.toList

end ProjectCache.Json
