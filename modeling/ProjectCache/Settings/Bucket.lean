/-
# ProjectCache.Settings.Bucket — the bucket of a store that processes share.
-/
import ProjectCache.Decode.Span

namespace ProjectCache

/-- How a bucket is reached and what it may hold. -/
structure BucketConfig where
  /-- The address of the server. -/
  url : String := "nats://localhost:4222"
  /-- How long connecting may take. -/
  connectionTimeout : Span := .ofSeconds 10
  /-- How often connecting is tried. -/
  reconnectAttempts : Nat := 5
  /-- The name under which the client connects. -/
  clientName : Option String := some "router-cache"
  /-- The name of the bucket. -/
  bucket : String := "router_cache"
  /-- How long the bucket keeps an entry. -/
  maxAge : Span := .ofHours 24
  /-- How many replicas the bucket has. -/
  replicas : Nat := 1
  /-- How many bytes the bucket holds. -/
  maxBytes : Option Int := some 268435456
  deriving DecidableEq, Repr

namespace BucketConfig

/-- The members. -/
def fields : Fields BucketConfig :=
  BucketConfig.mk
    <$> Fields.required "url" Decoder.text
    <*> Fields.required "connection_timeout" Span.decode
    <*> Fields.required "reconnect_attempts" (Decoder.natural 64 "usize")
    <*> Fields.nullable "client_name" Decoder.text
    <*> Fields.required "bucket" Decoder.text
    <*> Fields.required "max_age" Span.decode
    <*> Fields.required "replicas" (Decoder.natural 64 "usize")
    <*> Fields.nullable "max_bytes" (Decoder.integer (-(Word.count 63 : Int)) (Word.count 63) "i64")

/-- Reads a configuration. -/
def decode : Decoder BucketConfig := Fields.record "NatsKvStoreConfig" fields

/-- Writes a configuration. -/
def encode (c : BucketConfig) : Json :=
  .ofFields
    [("url", .string c.url), ("connection_timeout", c.connectionTimeout.encode),
     ("reconnect_attempts", .nat c.reconnectAttempts),
     ("client_name", .ofOption .string c.clientName), ("bucket", .string c.bucket),
     ("max_age", c.maxAge.encode), ("replicas", .nat c.replicas),
     ("max_bytes", .ofOption .int c.maxBytes)]

end BucketConfig

end ProjectCache
