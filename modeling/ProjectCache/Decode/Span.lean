/-
# ProjectCache.Decode.Span — lengths of time as JSON.

A length is an object of whole seconds and nanoseconds. Nanoseconds past a second are carried over
when it is read, and the seconds must stay within 64 bits.
-/
import ProjectCache.Decode.Basic
import ProjectCache.Span

namespace ProjectCache.Span

/-- The members of a length. -/
def fields : Fields (Nat × Nat) :=
  Prod.mk
    <$> Fields.required "secs" (Decoder.natural 64 "u64")
    <*> Fields.required "nanos" (Decoder.natural 32 "u32")

/-- Reads a length. -/
def decode : Decoder Span := fun json =>
  match Fields.closed "Duration" fields json with
  | .error e => .error e
  | .ok (secs, nanos) =>
    let span : Span := ⟨secs * second + nanos⟩
    if span.seconds < Word.count 64 then .ok span else .error .spanOverflow

/-- Writes a length. -/
def encode (span : Span) : Json :=
  .ofFields [("secs", .nat span.seconds), ("nanos", .nat span.fraction)]

end ProjectCache.Span
