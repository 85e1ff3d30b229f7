/-
# ProjectCache.Toml.Date — dates of TOML.

A date is kept as text in one form: a T between date and time, a fraction of at most nine digits
without trailing zeros, and an offset that is never negative zero. It is read at the start of the
characters (`Toml.readDateOrTime`), or as a text of its own, in which an hour may be 24, and an
offset any number of minutes up to a day (`Toml.wholeDate?`).
-/
import ProjectCache.Instant

namespace ProjectCache.Toml

/-! ## Parts -/

/-- Reads as many digits as it is told, as a number between two bounds. -/
def readField (width low high : Nat) (cs : List Char) : Option (Nat × List Char) :=
  let digits := cs.take width
  if digits.length = width ∧ digits.all Char.isDigit then
    let n := digits.foldl (fun n c => n * 10 + Instant.digitValue c) 0
    if low ≤ n ∧ n ≤ high then some (n, cs.drop width) else none
  else none

/-- Reads one character. -/
def readMark (mark : Char) : List Char → Option (List Char)
  | c :: cs => if c = mark then some cs else none
  | [] => none

/-- Reads a calendar date, and gives its text. -/
def readDate (cs : List Char) : Option (List Char × List Char) := do
  let (year, cs) ← readField 4 0 9999 cs
  let cs ← readMark '-' cs
  let (month, cs) ← readField 2 1 12 cs
  let cs ← readMark '-' cs
  let (day, cs) ← readField 2 1 (Instant.daysIn year month) cs
  some (Instant.padded 4 year ++ '-' :: (Instant.padded 2 month ++ '-' :: Instant.padded 2 day), cs)

/-- The text of a fraction of a second: at most nine digits, without trailing zeros. -/
def fractionText (digits : List Char) : List Char :=
  let kept := ((digits.take 9).reverse.dropWhile (· = '0')).reverse
  if kept.isEmpty then [] else '.' :: kept

/-- Reads a time of day after the hour and its colon, and gives its text. -/
def readTime (hour : Nat) (cs : List Char) : Option (List Char × List Char) := do
  let (minute, cs) ← readField 2 0 59 cs
  let cs ← readMark ':' cs
  let (second, cs) ← readField 2 0 60 cs
  let text := Instant.padded 2 hour ++ ':' :: (Instant.padded 2 minute ++ ':' ::
    Instant.padded 2 second)
  match cs with
  | '.' :: rest =>
    let digits := rest.takeWhile Char.isDigit
    if digits.isEmpty then some (text, cs)
    else some (text ++ fractionText digits, rest.dropWhile Char.isDigit)
  | cs => some (text, cs)

/-- Reads the hour of a time, up to a last one, and its colon, if there is a time. -/
def readHour (last : Nat) (cs : List Char) : Option (Nat × List Char) := do
  let (hour, cs) ← readField 2 0 last cs
  (readMark ':' cs).map (hour, ·)

/-! ## Offsets -/

/-- Reads hours and minutes of an offset, each up to a highest number, as minutes. -/
def readOffsetMinutes (hourMax minuteMax : Nat) (cs : List Char) : Option (Nat × List Char) := do
  let (hours, cs) ← readField 2 0 hourMax cs
  let cs ← readMark ':' cs
  let (minutes, cs) ← readField 2 0 minuteMax cs
  some (hours * 60 + minutes, cs)

/-- The text of an offset. -/
def offsetText (sign : Char) (minutes : Nat) : List Char :=
  (if minutes = 0 then '+' else sign)
    :: (Instant.padded 2 (minutes / 60) ++ ':' :: Instant.padded 2 (minutes % 60))

/-- Reads the offset from UTC, if there is one, with highest numbers of hours and minutes. -/
def readOffset (hourMax minuteMax : Nat) (cs : List Char) : Option (List Char × List Char) :=
  let signed (sign : Char) (cs : List Char) : Option (List Char × List Char) :=
    match readOffsetMinutes hourMax minuteMax cs with
    | some (minutes, rest) => if minutes ≤ 1440 then some (offsetText sign minutes, rest) else none
    | none => none
  match cs with
  | 'Z' :: cs | 'z' :: cs => some (['Z'], cs)
  | '+' :: cs => signed '+' cs
  | '-' :: cs => signed '-' cs
  | cs => some ([], cs)

/-! ## At the start of characters -/

/-- Reads what may follow a date: a time with or without an offset, behind a T or a blank. -/
def readAfterDate (date : List Char) (cs : List Char) : Option (List Char × List Char) :=
  match cs with
  | 'T' :: rest | 't' :: rest | ' ' :: rest =>
    match readHour 23 rest with
    | none => some (date, cs)
    | some (hour, rest) => do
      let (time, rest) ← readTime hour rest
      let (offset, rest) ← readOffset 23 59 rest
      some (date ++ 'T' :: (time ++ offset), rest)
  | cs => some (date, cs)

/-- Do the characters start like a date, with four digits and a hyphen? -/
def startsDate (cs : List Char) : Bool :=
  (cs.take 4).length = 4 && (cs.take 4).all Char.isDigit && (cs.drop 4).head? = some '-'

/-- Do the characters start like a date or a time, with a number of four digits and a hyphen, or
with an hour and a colon? -/
def startsDateOrTime (cs : List Char) : Bool := startsDate cs || (readHour 23 cs).isSome

/-- Reads a date, with or without a time, or a time alone. -/
def readDateOrTime (cs : List Char) : Option (List Char × List Char) :=
  if startsDate cs then (readDate cs).bind fun (date, rest) => readAfterDate date rest
  else (readHour 23 cs).bind fun (hour, rest) => readTime hour rest

/-! ## As a text of its own -/

/-- Reads a time of a text of its own. -/
def readClock (cs : List Char) : Option (List Char × List Char) :=
  (readHour 24 cs).bind fun (hour, rest) => readTime hour rest

/-- Reads a time behind its mark, if there is one. -/
def readMarkedClock : List Char → Option (List Char × List Char)
  | 'T' :: cs | 't' :: cs | ' ' :: cs => (readClock cs).map fun (time, rest) => ('T' :: time, rest)
  | cs => some ([], cs)

/-- The text in its one form, when nothing is left behind it. -/
def whole? (result : List Char × List Char) : Option String :=
  if result.2.isEmpty then some (String.ofList result.1) else none

/-- The date that a text is: a time alone, or a date with or without a time and an offset. -/
def wholeDate? (text : String) : Option String :=
  let cs := text.toList
  if (cs.drop 2).head? = some ':' then (readClock cs).bind whole?
  else do
    let (date, rest) ← readDate cs
    let (time, rest) ← readMarkedClock rest
    let (offset, rest) ← readOffset 99 99 rest
    whole? (date ++ time ++ offset, rest)

end ProjectCache.Toml
