/-
# ProjectCache.Span — lengths of time, to the nanosecond.

How long an entry lives, how long a shutdown waits, when a call counts as slow.
-/
namespace ProjectCache

/-- A length of time. -/
structure Span where
  /-- The whole length in nanoseconds. -/
  nanos : Nat
  deriving DecidableEq, Repr

namespace Span

instance : Inhabited Span := ⟨⟨0⟩⟩

instance : LE Span := ⟨fun a b => a.nanos ≤ b.nanos⟩

instance : LT Span := ⟨fun a b => a.nanos < b.nanos⟩

instance (a b : Span) : Decidable (a ≤ b) := inferInstanceAs (Decidable (a.nanos ≤ b.nanos))

instance (a b : Span) : Decidable (a < b) := inferInstanceAs (Decidable (a.nanos < b.nanos))

/-- Nanoseconds in a second. -/
def second : Nat := 1000000000

/-- A number of seconds. -/
def ofSeconds (n : Nat) : Span := ⟨n * second⟩

/-- A number of milliseconds. -/
def ofMillis (n : Nat) : Span := ⟨n * 1000000⟩

/-- A number of hours. -/
def ofHours (n : Nat) : Span := ofSeconds (n * 3600)

/-- The whole seconds. -/
def seconds (span : Span) : Nat := span.nanos / second

/-- The nanoseconds after the whole seconds. -/
def fraction (span : Span) : Nat := span.nanos % second

/-- The least number of seconds that is not shorter. -/
def ceilSeconds (span : Span) : Nat := (span.nanos + second - 1) / second

/-- The longer of two. -/
def longer (a b : Span) : Span := if a ≤ b then b else a

/-- A whole number and a fraction of so many places, without trailing zeros. -/
def decimal (whole fraction places : Nat) : String :=
  let digits := Nat.toDigits 10 fraction
  let padded := List.replicate (places - digits.length) '0' ++ digits
  let kept := (padded.reverse.dropWhile (· = '0')).reverse
  String.ofList (Nat.toDigits 10 whole ++ (if kept.isEmpty then [] else '.' :: kept))

/-- The text of a length: in the largest of seconds, milliseconds, microseconds and nanoseconds that
fits into it. -/
def text (span : Span) : String :=
  if second ≤ span.nanos then decimal span.seconds span.fraction 9 ++ "s"
  else if 1000000 ≤ span.nanos then
    decimal (span.nanos / 1000000) (span.nanos % 1000000) 6 ++ "ms"
  else if 1000 ≤ span.nanos then decimal (span.nanos / 1000) (span.nanos % 1000) 3 ++ "µs"
  else decimal span.nanos 0 0 ++ "ns"

end Span

end ProjectCache
