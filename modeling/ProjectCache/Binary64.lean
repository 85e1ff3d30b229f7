/-
# ProjectCache.Binary64 — 64-bit floating-point numbers in exact arithmetic.

A finite number is `± significand · 2 ^ exponent`, so that every operation here is integer
arithmetic followed by one rounding to the nearest representable value, with ties to the even
significand (`Binary64.ofRatio`). The decimal form is the shortest one that reads back as the same
number, and of those the nearest (`Binary64.shortest`).

No law of floating-point arithmetic is claimed; the module fixes which number and which text is
meant.
-/
namespace ProjectCache

/-- A 64-bit floating-point number. A finite one has a significand below `2 ^ 53` and an exponent of
at least `-1074`, and the significand is at least `2 ^ 52` unless the exponent is `-1074`. -/
inductive Binary64 where
  | finite (negative : Bool) (significand : Nat) (exponent : Int)
  | infinite (negative : Bool)
  | nan
  deriving DecidableEq, Repr

namespace Binary64

/-! ## Rounding -/

/-- The least exponent of a finite number. -/
def minExponent : Int := -1074

/-- The largest exponent of a finite number. -/
def maxExponent : Int := 971

/-- Zero with a sign. -/
def zero (negative : Bool) : Binary64 := .finite negative 0 minExponent

/-- The quotient rounded to the nearest integer, a half to the even neighbour. -/
def roundQuotient (num den : Nat) : Nat :=
  let q := num / den
  let r := num % den
  if 2 * r < den then q
  else if den < 2 * r then q + 1
  else q + q % 2

/-- The fraction `num / den` in units of `2 ^ exponent`. -/
def inUnits (num den : Nat) (exponent : Int) : Nat × Nat :=
  (num * Nat.pow 2 (-exponent).toNat, den * Nat.pow 2 exponent.toNat)

/-- The exponent whose units give `num / den` a significand of 53 bits, or the least exponent. -/
def unitFor (num den : Nat) : Int :=
  let low : Int := (num.log2 : Int) - (den.log2 : Int) - 53
  let (n, d) := inUnits num den low
  max minExponent (if n / d < Nat.pow 2 53 then low else low + 1)

/-- The number nearest to `± num / den`. -/
def ofRatio (negative : Bool) (num den : Nat) : Binary64 :=
  if num = 0 then zero negative
  else
    let e := unitFor num den
    let (n, d) := inUnits num den e
    let q := roundQuotient n d
    let (q, e) := if q = Nat.pow 2 53 then (Nat.pow 2 52, e + 1) else (q, e)
    if maxExponent < e then .infinite negative else .finite negative q e

/-- The number nearest to an integer. -/
def ofInt (n : Int) : Binary64 := ofRatio (n < 0) n.natAbs 1

/-- The number nearest to `± significand · 10 ^ exponent`. Exponents past the range of the format
are answered without computing the power. -/
def ofDecimal (negative : Bool) (significand : Nat) (exponent : Int) : Binary64 :=
  if significand = 0 then zero negative
  else if 400 < exponent then .infinite negative
  else if exponent < -400 - (significand.log2 : Int) then zero negative
  else ofRatio negative (significand * Nat.pow 10 exponent.toNat) (Nat.pow 10 (-exponent).toNat)

/-- The sign bit. -/
def isNegative : Binary64 → Bool
  | .finite s _ _ => s
  | .infinite s => s
  | .nan => false

/-- Is the number infinite? -/
def isInfinite : Binary64 → Bool
  | .infinite _ => true
  | _ => false

/-- Is the number zero, of either sign? -/
def isZero : Binary64 → Bool
  | .finite _ m _ => m = 0
  | _ => false

/-- The rounded product. -/
def mul : Binary64 → Binary64 → Binary64
  | .finite s m e, .finite t n f =>
    let (num, den) := inUnits (m * n) 1 (-(e + f))
    ofRatio (s != t) num den
  | a, b =>
    if a = .nan || b = .nan || a.isZero || b.isZero then .nan
    else .infinite (a.isNegative != b.isNegative)

/-- The rounded quotient. -/
def div : Binary64 → Binary64 → Binary64
  | .finite s m e, .finite t n f =>
    if n = 0 then (if m = 0 then .nan else .infinite (s != t))
    else
      let (num, den) := inUnits m n (f - e)
      ofRatio (s != t) num den
  | .finite s _ _, .infinite t => zero (s != t)
  | .infinite s, .finite t _ _ => .infinite (s != t)
  | _, _ => .nan

instance : Mul Binary64 := ⟨mul⟩

instance : Div Binary64 := ⟨div⟩

/-- The number with the other sign. -/
def negate : Binary64 → Binary64
  | .finite s m e => .finite (!s) m e
  | .infinite s => .infinite (!s)
  | .nan => .nan

/-- The integer nearest to the number, a half away from zero. None for NaN and the infinities. -/
def roundHalfAway : Binary64 → Option Int
  | .finite s m e =>
    let (num, den) := inUnits m 1 (-e)
    let q : Nat := (2 * num + den) / (2 * den)
    some (if s then -(q : Int) else (q : Int))
  | _ => none

/-! ## The shortest decimal -/

/-- Is `10 ^ power` at most `num / den`? -/
def tenPowerLe (power : Int) (num den : Nat) : Bool :=
  Nat.pow 10 power.toNat * den ≤ num * Nat.pow 10 (-power).toNat

/-- The integer `x` with `10 ^ x ≤ num / den < 10 ^ (x + 1)`, for a positive fraction given with the
binary logarithm of its integer part. -/
def decimalExponent (num den : Nat) (log2 : Int) : Int :=
  let guess := log2 * 30103 / 100000
  if tenPowerLe (guess + 1) num den then guess + 1
  else if tenPowerLe guess num den then guess
  else guess - 1

/-- The interval of reals that round to one number, scaled by `den`: `low / den` to `high / den`
around `mid / den`, with its ends when `closed`. -/
structure Interval where
  /-- The lower end. -/
  low : Nat
  /-- The number itself. -/
  mid : Nat
  /-- The upper end. -/
  high : Nat
  /-- The common denominator. -/
  den : Nat
  /-- Do the ends belong to the interval? -/
  closed : Bool

/-- The reals that round to `significand · 2 ^ exponent`. Below a power of two the spacing
halves. -/
def interval (significand : Nat) (exponent : Int) : Interval :=
  let below := if significand = Nat.pow 2 52 ∧ exponent ≠ minExponent then 1 else 2
  let up := Nat.pow 2 (exponent - 2).toNat
  { low := (4 * significand - below) * up
    mid := 4 * significand * up
    high := (4 * significand + 2) * up
    den := Nat.pow 2 (2 - exponent).toNat
    closed := significand % 2 = 0 }

/-- Does `digits · 10 ^ grid` round to the number of the interval? -/
def Interval.holds (i : Interval) (digits : Nat) (grid : Int) : Bool :=
  let x := digits * Nat.pow 10 grid.toNat * i.den
  let scale := Nat.pow 10 (-grid).toNat
  if i.closed then i.low * scale ≤ x && x ≤ i.high * scale
  else i.low * scale < x && x < i.high * scale

/-- The decimal on the grid `10 ^ grid` nearest to the number, if one of its two neighbours there
reads back as it. A tie goes to the even neighbour. -/
def Interval.onGrid (i : Interval) (grid : Int) : Option Nat :=
  let num := i.mid * Nat.pow 10 (-grid).toNat
  let den := i.den * Nat.pow 10 grid.toNat
  let floor := num / den
  let nearest := roundQuotient num den
  let other := if nearest = floor then floor + 1 else floor
  if i.holds nearest grid then some nearest
  else if i.holds other grid then some other
  else none

/-- The digits of a positive number and the exponent of their last place: on the first of the
grids with 1, 2, … 17 digits that has a decimal which reads back. -/
def shortestFrom (i : Interval) (top : Int) : Nat → Nat → Nat × Int
  | 0, n => (i.mid / i.den, top - n)
  | more + 1, n =>
    match i.onGrid (top - n) with
    | some digits => (digits, top - n)
    | none => shortestFrom i top more (n + 1)

/-- Moves trailing zeros of the digits into the exponent. -/
def dropZeros : Nat → Nat → Int → Nat × Int
  | 0, digits, grid => (digits, grid)
  | fuel + 1, digits, grid =>
    if digits ≠ 0 ∧ digits % 10 = 0 then dropZeros fuel (digits / 10) (grid + 1) else (digits, grid)

/-- The shortest `digits · 10 ^ grid` that reads back as `significand · 2 ^ exponent`, and of the
shortest ones the nearest. -/
def shortest (significand : Nat) (exponent : Int) : Nat × Int :=
  let i := interval significand exponent
  let top := decimalExponent i.mid i.den ((significand.log2 : Int) + exponent)
  let (digits, grid) := shortestFrom i top 17 0
  dropZeros 20 digits grid

/-! ## Text -/

/-- The decimal digits of a natural number. -/
def digitChars (n : Nat) : List Char := Nat.toDigits 10 n

/-- Positional notation of `digits · 10 ^ grid`, without a point when the value is an integer. -/
def positional (digits : List Char) (grid : Int) : List Char :=
  if 0 ≤ grid then digits ++ List.replicate grid.toNat '0'
  else
    let places := (-grid).toNat
    if places < digits.length then
      digits.take (digits.length - places) ++ '.' :: digits.drop (digits.length - places)
    else '0' :: '.' :: (List.replicate (places - digits.length) '0' ++ digits)

/-- Scientific notation of `digits · 10 ^ grid`: one digit before the point, and an exponent with
its sign. -/
def scientific (digits : List Char) (grid : Int) : List Char :=
  let exponent : Int := grid + digits.length - 1
  let mantissa := match digits with
    | d :: e :: rest => d :: '.' :: e :: rest
    | short => short
  mantissa ++ 'e' :: (if exponent < 0 then '-' else '+') :: digitChars exponent.natAbs

/-- The text of a number in a document: shortest digits, positional with at least one decimal place
from `10 ^ -5` up to `10 ^ 16`, scientific elsewhere. -/
def text : Binary64 → String
  | .finite s m e =>
    let body :=
      if m = 0 then ['0', '.', '0']
      else
        let (digits, grid) := shortest m e
        let ds := digitChars digits
        let point : Int := grid + ds.length
        if -5 < point ∧ point ≤ 16 then
          positional ds grid ++ (if 0 ≤ grid then ['.', '0'] else [])
        else scientific ds grid
    String.ofList (if s then '-' :: body else body)
  | .infinite s => if s then "-inf" else "inf"
  | .nan => "NaN"

/-- The text of a number in a setting: shortest digits in positional notation, an integer without a
point. -/
def plainText : Binary64 → String
  | .finite s m e =>
    let body :=
      if m = 0 then ['0']
      else
        let (digits, grid) := shortest m e
        positional (digitChars digits) grid
    String.ofList (if s then '-' :: body else body)
  | .infinite s => if s then "-inf" else "inf"
  | .nan => "NaN"

end Binary64

end ProjectCache
