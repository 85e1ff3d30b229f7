/-
# ProjectCache.Settings.Server — how a bucket is opened.

A server is known here by its answers only: to attempts to connect, to the question whether it has a
bucket, and to the request to make one. What a bucket is stays open.

Connecting is tried at least once, and after a refusal again as often as the configuration allows; of
the refusals the last one is reported. A bucket that is there is taken as it is, whatever the
configuration says of how long it keeps its entries.
-/
import ProjectCache.Error
import ProjectCache.Settings.Bucket

namespace ProjectCache

/-- A server with buckets of some type, by its answers. -/
structure Server (B : Type) where
  /-- Why it refuses an attempt to connect, if it does. Attempts count from one. -/
  refusal? : BucketConfig → Nat → Option String
  /-- The bucket of a name. -/
  find? : String → Option B
  /-- Makes a bucket, or says why not. -/
  create : BucketConfig → Except String B

namespace Server

variable {B : Type} (server : Server B)

/-- Attempts to connect: one, and while they are refused as many more as remain. The last refusal if all
are refused. -/
def refused? (config : BucketConfig) (attempt : Nat) : Nat → Option String
  | 0 => server.refusal? config attempt
  | remaining + 1 =>
    match server.refusal? config attempt with
    | none => none
    | some _ => refused? config (attempt + 1) remaining

/-- Connects and opens the bucket of a configuration. -/
def openBucket (config : BucketConfig) : Except StoreFailure B :=
  -- the first attempt does not depend on the number that is allowed
  match server.refused? config 1 (config.reconnectAttempts - 1) with
  | some reason => .error (.notConnected reason)
  | none =>
    match server.find? config.bucket with
    | some bucket => .ok bucket
    | none =>
      match server.create config with
      | .ok bucket => .ok bucket
      | .error reason => .error (.noBucket config.bucket reason)

/-- A server that cannot be reached. -/
def unreachable (reason : String) : Server Empty where
  refusal? _ _ := some reason
  find? _ := none
  create _ := .error reason

end Server

end ProjectCache
