/-
# ProjectCache.Instant — points in time, to the nanosecond.

An instant is kept as its date and time of day in UTC. It is written as RFC 3339 with `Z` and no, 3,
6 or 9 fraction digits, years outside 0 to 9999 with a sign. It is read from the same notation with
some freedom: a blank may stand for the `T` and around the separators, fields may lack leading
zeros, the offset may lack its colon, a second may be 60, and digits past the nanosecond are
dropped.
-/
import ProjectCache.Word
import ProjectCache.Text.Blank

namespace ProjectCache

/-- A date and time of day in UTC. The second is 60 only in a leap second. -/
structure Instant where
  /-- The year, counted astronomically. -/
  year : Int
  /-- The month, from 1. -/
  month : Nat
  /-- The day of the month, from 1. -/
  day : Nat
  /-- The hour. -/
  hour : Nat
  /-- The minute. -/
  minute : Nat
  /-- The second. -/
  second : Nat
  /-- The nanosecond. -/
  nano : Nat
  deriving DecidableEq, Repr

namespace Instant

/-- The start of 1970. -/
def epoch : Instant := ⟨1970, 1, 1, 0, 0, 0, 0⟩

/-! ## The calendar -/

/-- Does the year have 366 days? -/
def isLeapYear (year : Int) : Bool :=
  year % 4 = 0 && (year % 100 ≠ 0 || year % 400 = 0)

/-- The number of days of a month. -/
def daysIn (year : Int) (month : Nat) : Nat :=
  if month = 2 then (if isLeapYear year then 29 else 28)
  else if month = 4 ∨ month = 6 ∨ month = 9 ∨ month = 11 then 30
  else 31

/-- The first year of the calendar. -/
def minYear : Int := -262143

/-- The last year of the calendar. -/
def maxYear : Int := 262142

/-- The day before. -/
def previousDay (t : Instant) : Instant :=
  if 1 < t.day then { t with day := t.day - 1 }
  else if 1 < t.month then { t with month := t.month - 1, day := daysIn t.year (t.month - 1) }
  else { t with year := t.year - 1, month := 12, day := 31 }

/-- The day after. -/
def nextDay (t : Instant) : Instant :=
  if t.day < daysIn t.year t.month then { t with day := t.day + 1 }
  else if t.month < 12 then { t with month := t.month + 1, day := 1 }
  else { t with year := t.year + 1, month := 1, day := 1 }

/-- The time of a clock that runs `minutes` ahead of UTC, less than a day, told in UTC. -/
def fromOffset (t : Instant) (minutes : Int) : Instant :=
  if minutes = 0 then t
  else
    let total : Int := t.hour * 60 + t.minute - minutes
    let day := if total < 0 then t.previousDay else if 1440 ≤ total then t.nextDay else t
    let inDay := (total % 1440).toNat
    { day with hour := inDay / 60, minute := inDay % 60 }

/-! ## Writing -/

/-- A number with at least the given digits. -/
def padded (width n : Nat) : List Char :=
  let ds := Nat.toDigits 10 n
  List.replicate (width - ds.length) '0' ++ ds

/-- The year, with a sign outside 0 to 9999. -/
def yearChars (year : Int) : List Char :=
  if 0 ≤ year ∧ year ≤ 9999 then padded 4 year.toNat
  else (if year < 0 then '-' else '+') :: padded 4 year.natAbs

/-- The fraction of the second, in 0, 3, 6 or 9 digits. -/
def fractionChars (nano : Nat) : List Char :=
  if nano = 0 then []
  else if nano % 1000000 = 0 then '.' :: padded 3 (nano / 1000000)
  else if nano % 1000 = 0 then '.' :: padded 6 (nano / 1000)
  else '.' :: padded 9 nano

/-- The text of an instant. -/
def chars (t : Instant) : List Char :=
  yearChars t.year ++ '-' :: (padded 2 t.month ++ '-' :: (padded 2 t.day ++ 'T' ::
    (padded 2 t.hour ++ ':' :: (padded 2 t.minute ++ ':' :: (padded 2 t.second ++
      (fractionChars t.nano ++ ['Z']))))))

/-- The text of an instant. -/
def text (t : Instant) : String := String.ofList t.chars

/-! ## Reading -/

/-- Why text is no instant. -/
inductive Fault where
  | outOfRange
  | impossible
  | invalid
  | tooShort
  | tooLong
  deriving DecidableEq, Repr

/-- The wording of a fault. -/
def Fault.message : Fault → String
  | .outOfRange => "input is out of range"
  | .impossible => "no possible date and time matching input"
  | .invalid => "input contains invalid characters"
  | .tooShort => "premature end of input"
  | .tooLong => "trailing input"

/-- The value of a decimal digit. -/
def digitValue (c : Char) : Nat := c.toNat - '0'.toNat

/-- Reads a number of at least one digit and at most `limit`, if there is one. -/
def readNumber (limit : Option Nat) (cs : List Char) : Except Fault (Nat × List Char) :=
  let digits := match limit with
    | some n => (cs.take n).takeWhile Char.isDigit
    | none => cs.takeWhile Char.isDigit
  if digits.isEmpty then .error (if cs.isEmpty then .tooShort else .invalid)
  else
    let value := digits.foldl (fun n c => n * 10 + digitValue c) 0
    if Word.count 63 ≤ value then .error .outOfRange else .ok (value, cs.drop digits.length)

/-- Reads a number of one or two digits between two bounds, after blanks. -/
def readField (low high : Nat) (cs : List Char) : Except Fault (Nat × List Char) := do
  let (n, rest) ← readNumber (some 2) (Text.trimStart cs)
  if n < low ∨ high < n then throw .outOfRange
  return (n, rest)

/-- Reads the year: four digits at most, or any number of them after a sign. -/
def readYear (cs : List Char) : Except Fault (Int × List Char) := do
  let inRange (year : Int) : Except Fault Int :=
    if year < -(Word.count 31 : Int) ∨ (Word.count 31 : Int) ≤ year then .error .outOfRange
    else .ok year
  match Text.trimStart cs with
  | '-' :: rest =>
    let (n, rest) ← readNumber none rest
    return (← inRange (-(n : Int)), rest)
  | '+' :: rest =>
    let (n, rest) ← readNumber none rest
    return (← inRange n, rest)
  | rest =>
    let (n, rest) ← readNumber (some 4) rest
    return (n, rest)

/-- Reads one character, after blanks. -/
def readMark (mark : Char) (cs : List Char) : Except Fault (List Char) :=
  match Text.trimStart cs with
  | [] => .error .tooShort
  | c :: rest => if c = mark then .ok rest else .error .invalid

/-- Reads the mark between date and time. -/
def readSeparator : List Char → Except Fault (List Char)
  | [] => .error .tooShort
  | c :: rest => if c = 'T' ∨ c = 't' ∨ c = ' ' then .ok rest else .error .invalid

/-- Reads the fraction of the second, if there is one. -/
def readFraction : List Char → Except Fault (Nat × List Char)
  | '.' :: cs => do
    let (n, rest) ← readNumber (some 9) cs
    let places := cs.length - rest.length
    return (n * Nat.pow 10 (9 - places), rest.dropWhile Char.isDigit)
  | cs => .ok (0, cs)

/-- Reads two digits. Text is too short for them when it has less than two bytes. -/
def readPair : List Char → Except Fault (Nat × List Char)
  | a :: b :: rest =>
    if a.isDigit && b.isDigit then .ok (digitValue a * 10 + digitValue b, rest) else .error .invalid
  | [a] => .error (if a.utf8Size < 2 then .tooShort else .invalid)
  | [] => .error .tooShort

/-- Reads hours and minutes of an offset whose sign has been read. -/
def readHoursMinutes (cs : List Char) : Except Fault (Nat × List Char) := do
  let (hours, rest) ← readPair cs
  let (minutes, rest) ← readPair (rest.dropWhile fun c => c = ':' || Text.isBlank c)
  if 60 ≤ minutes then throw .outOfRange
  return (hours * 60 + minutes, rest)

/-- Reads the offset from UTC, in minutes. -/
def readOffset (cs : List Char) : Except Fault (Int × List Char) := do
  match cs with
  | [] => throw .tooShort
  | c :: rest =>
    if (cs.take 3).map Char.toUpper = ['U', 'T', 'C'] then return (0, cs.drop 3)
    else if c = 'Z' ∨ c = 'z' then return (0, rest)
    else if c = '+' then
      let (n, rest) ← readHoursMinutes rest
      return (n, rest)
    else if c = '-' ∨ c = '−' then
      let (n, rest) ← readHoursMinutes rest
      return (-(n : Int), rest)
    else throw .invalid

/-- Reads an instant. -/
def ofChars (cs : List Char) : Except Fault Instant := do
  let (year, cs) ← readYear cs
  let cs ← readMark '-' cs
  let (month, cs) ← readField 1 12 cs
  let cs ← readMark '-' cs
  let (day, cs) ← readField 1 31 cs
  let cs ← readSeparator cs
  let (hour, cs) ← readField 0 23 cs
  let cs ← readMark ':' cs
  let (minute, cs) ← readField 0 59 cs
  let cs ← readMark ':' cs
  let (second, cs) ← readField 0 60 cs
  let (nano, cs) ← readFraction cs
  let (offset, cs) ← readOffset (Text.trimStart cs)
  if ! (Text.trimStart cs).isEmpty then throw .tooLong
  if 1440 ≤ offset.natAbs then throw .outOfRange
  if year < minYear ∨ maxYear < year ∨ daysIn year month < day then throw .outOfRange
  let t := fromOffset { year, month, day, hour, minute, second, nano } offset
  if t.year < minYear ∨ maxYear < t.year then throw .impossible
  return t

/-- Reads an instant. -/
def ofText (text : String) : Except Fault Instant := ofChars text.toList

end Instant

end ProjectCache
