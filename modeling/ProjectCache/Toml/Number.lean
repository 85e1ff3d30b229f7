/-
# ProjectCache.Toml.Number — numbers of TOML.

Integers have 64 bits and a sign, and may be written in hexadecimal, octal or binary without one.
A float is the nearest 64-bit number; one that would be infinite is malformed unless it is negative.
In both a single underscore may stand between two digits.
-/
import ProjectCache.Json.Basic
import ProjectCache.Text.Hex
import ProjectCache.Word

namespace ProjectCache.Toml

/-! ## Digits -/

/-- Reads the digits that follow a first one, with single underscores between them. None when an
underscore is not followed by a digit. -/
def readMoreDigits (isDigit : Char → Bool) : List Char → Option (List Char × List Char)
  | '_' :: c :: cs =>
    if isDigit c then (readMoreDigits isDigit cs).map fun (ds, r) => (c :: ds, r) else none
  | ['_'] => none
  | c :: cs =>
    if isDigit c then (readMoreDigits isDigit cs).map fun (ds, r) => (c :: ds, r)
    else some ([], c :: cs)
  | [] => some ([], [])

/-- Reads digits, of which there must be one, with single underscores between them. -/
def readDigits (isDigit : Char → Bool) : List Char → Option (List Char × List Char)
  | c :: cs =>
    if isDigit c then (readMoreDigits isDigit cs).map fun (ds, r) => (c :: ds, r) else none
  | [] => none

/-- The value of digits in a base. -/
def valueOf (base : Nat) (digits : List Char) : Nat :=
  digits.foldl (fun n c => n * base + ((Hex.value? c).map Fin.val).getD 0) 0

/-- Is the character a digit in a base up to 16? -/
def isDigitIn (base : Nat) (c : Char) : Bool :=
  match Hex.value? c with
  | some d => d.val < base
  | none => false

/-! ## Numbers -/

/-- The integer of a sign and a size, if it has 64 bits. -/
def integer? (negative : Bool) (size : Nat) : Option Numeral :=
  if negative then (if size ≤ Word.count 63 then some (.int (-(size : Int))) else none)
  else if size < Word.count 63 then some (.int size)
  else none

/-- The float of a sign, digits and an exponent of ten, if it is not positive infinity. -/
def float? (negative : Bool) (digits : List Char) (exponent : Int) : Option Numeral :=
  let x := Binary64.ofDecimal negative (valueOf 10 digits) exponent
  if x = .infinite false then none else some (.float x)

/-- Reads an exponent whose mark has been read. -/
def readExponent (cs : List Char) : Option (Int × List Char) :=
  match cs with
  | '-' :: rest => (readDigits Char.isDigit rest).map fun (ds, r) => (-(valueOf 10 ds : Int), r)
  | '+' :: rest => (readDigits Char.isDigit rest).map fun (ds, r) => ((valueOf 10 ds : Int), r)
  | rest => (readDigits Char.isDigit rest).map fun (ds, r) => ((valueOf 10 ds : Int), r)

/-- Reads what may follow the digits of a number, and puts the number together. -/
def finishNumber (negative : Bool) (whole fraction : List Char) (isFloat : Bool)
    (cs : List Char) : Option (Numeral × List Char) :=
  let scale : Int := fraction.length
  match cs with
  | 'e' :: rest | 'E' :: rest =>
    match readExponent rest with
    | some (exponent, rest) =>
      (float? negative (whole ++ fraction) (exponent - scale)).map (·, rest)
    | none => none
  | rest =>
    if isFloat then (float? negative (whole ++ fraction) (-scale)).map (·, rest)
    else (integer? negative (valueOf 10 whole)).map (·, rest)

/-- Reads the digits of a decimal integer: a zero, or digits that do not start with one. -/
def readWhole : List Char → Option (List Char × List Char)
  | '0' :: cs => some (['0'], cs)
  | cs => readDigits Char.isDigit cs

/-- Reads a decimal number whose sign has been read. -/
def readDecimal (negative : Bool) (cs : List Char) : Option (Numeral × List Char) :=
  match cs with
  | 'i' :: 'n' :: 'f' :: rest => some (.float (.infinite negative), rest)
  | 'n' :: 'a' :: 'n' :: rest => some (.float .nan, rest)
  | cs =>
    match readWhole cs with
    | none => none
    | some (whole, '.' :: rest) =>
      match readDigits Char.isDigit rest with
      | some (fraction, rest) => finishNumber negative whole fraction true rest
      | none => none
    | some (whole, rest) => finishNumber negative whole [] false rest

/-- Reads an integer in a base whose mark has been read. -/
def readInBase (base : Nat) (cs : List Char) : Option (Numeral × List Char) :=
  match readDigits (isDigitIn base) cs with
  | some (digits, rest) => (integer? false (valueOf base digits)).map (·, rest)
  | none => none

/-- Reads a number. -/
def readNumber : List Char → Option (Numeral × List Char)
  | '0' :: 'x' :: cs => readInBase 16 cs
  | '0' :: 'o' :: cs => readInBase 8 cs
  | '0' :: 'b' :: cs => readInBase 2 cs
  | '+' :: cs => readDecimal false cs
  | '-' :: cs => readDecimal true cs
  | cs => readDecimal false cs

end ProjectCache.Toml
