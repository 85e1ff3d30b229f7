/-
# ProjectCache.Settings.Basic — what can be set, and what it means.

Settings come in sections. Every setting has a default, so a section may be left out, and so may any
setting in it. Times are whole seconds, the threshold for slow reading apart, which is in
milliseconds. The times to live are bounded (`TtlSettings.validate`), and the bucket that processes
share keeps its entries as long as the longest of those of documents and bundles
(`Settings.bucketConfig`).

What a setting looks like in a text is left to a `SettingsForm`: the names and the order of the
settings are declared once, and each form says how numbers, texts and sections are read.
-/
import ProjectCache.Cache.Operation
import ProjectCache.Bus
import ProjectCache.Event.Wire
import ProjectCache.Settings.Server

namespace ProjectCache

/-! ## The sections -/

/-- Where documents are stored. -/
inductive StoreBackend where
  | memory
  | nats
  deriving DecidableEq, Repr

namespace StoreBackend

/-- The places. -/
def all : List StoreBackend := [.memory, .nats]

/-- The name of a place. -/
def name : StoreBackend → String
  | .memory => "memory"
  | .nats => "nats"

/-- The place of a name. -/
def ofName? (text : String) : Option StoreBackend := all.find? fun backend => backend.name == text

end StoreBackend

/-- The section of the store. -/
structure StoreSettings where
  /-- Where documents are stored. -/
  backend : StoreBackend := .memory
  /-- The address of the server. -/
  natsUrl : String := "nats://localhost:4222"
  /-- The name of the bucket. -/
  bucket : String := "router_cache"
  /-- How many seconds connecting may take. -/
  connectionTimeout : Nat := 10
  /-- How often connecting is tried. -/
  reconnectAttempts : Nat := 5
  deriving DecidableEq, Repr

/-- The section of the times to live, in seconds. -/
structure TtlSettings where
  /-- Project data, and bundles. -/
  data : Nat := 86400
  /-- Content bases. -/
  contentBase : Nat := 86400
  /-- Team rosters. -/
  team : Nat := 86400
  /-- Guardrails. -/
  guardrails : Nat := 86400
  /-- Inline agent configurations. -/
  inlineAgent : Nat := 86400
  /-- Instructions. -/
  instructions : Nat := 86400
  /-- Agents. -/
  agent : Nat := 86400
  /-- The state of workflows. -/
  workflow : Nat := 600
  deriving DecidableEq, Repr

/-- The section of the event bus. -/
structure EventSettings where
  /-- The number of workers. -/
  workers : Nat := 5
  /-- How many seconds a shutdown waits. -/
  grace : Nat := 10
  /-- The first part of the subjects of events. -/
  subjectRoot : String := Event.subjectRoot
  deriving DecidableEq, Repr

/-- The section of reading for a turn. -/
structure TurnSettings where
  /-- From how many milliseconds on reading is slow. -/
  slowMillis : Nat := 5000
  deriving DecidableEq, Repr

/-- The settings. -/
structure Settings where
  /-- The store. -/
  store : StoreSettings := {}
  /-- The times to live. -/
  cache : TtlSettings := {}
  /-- The event bus. -/
  events : EventSettings := {}
  /-- Reading for a turn. -/
  turn : TurnSettings := {}
  /-- The least serious level that is logged. -/
  logLevel : String := "info"
  deriving DecidableEq, Repr

/-! ## Meaning -/

namespace TtlSettings

/-- The longest time to live, in seconds. -/
def maxTtl : Nat := 31536000

/-- The settings with their names, in the order of declaration. -/
def named (s : TtlSettings) : List (String × Nat) :=
  [("project_data_ttl_secs", s.data), ("content_base_data_ttl_secs", s.contentBase),
   ("team_data_ttl_secs", s.team), ("guardrails_data_ttl_secs", s.guardrails),
   ("inline_agent_config_ttl_secs", s.inlineAgent), ("instructions_data_ttl_secs", s.instructions),
   ("agent_data_ttl_secs", s.agent), ("workflow_data_ttl_secs", s.workflow)]

/-- The times to live of documents and bundles. A bundle lives as long as project data. -/
def ttls (s : TtlSettings) : Ttls where
  ofKind
    | .data => .ofSeconds s.data
    | .contentBase => .ofSeconds s.contentBase
    | .team => .ofSeconds s.team
    | .guardrails => .ofSeconds s.guardrails
    | .inlineAgent => .ofSeconds s.inlineAgent
    | .instructions => .ofSeconds s.instructions
    | .agent => .ofSeconds s.agent
  bundle := .ofSeconds s.data

/-- Refuses a time to live that is too long, the first one in the order of declaration. -/
def validate (s : TtlSettings) : Except Error Unit :=
  match s.named.find? fun (_, seconds) => maxTtl < seconds with
  | some (name, seconds) => .error (.configuration (.ttlTooLong name seconds maxTtl))
  | none => .ok ()

end TtlSettings

/-- A store that has been opened, in memory or on a server with buckets of some type. -/
inductive OpenedStore (B : Type) where
  | memory (store : Store)
  | bucket (bucket : B)

namespace StoreSettings

/-- The bucket, given how long it keeps entries. -/
def bucketConfig (s : StoreSettings) (maxAge : Span) : BucketConfig :=
  { url := s.natsUrl, connectionTimeout := .ofSeconds s.connectionTimeout,
    reconnectAttempts := s.reconnectAttempts, bucket := s.bucket, maxAge }

/-- Opens the store: a new one in memory, or the bucket on a server, which keeps entries as long as the
longest time to live. -/
def connect {B : Type} (s : StoreSettings) (ttls : Ttls) (server : Server B) :
    Except Error (OpenedStore B) :=
  match s.backend with
  | .memory => .ok (.memory ∅)
  | .nats =>
    match server.openBucket (s.bucketConfig ttls.longest) with
    | .ok bucket => .ok (.bucket bucket)
    | .error failure => .error (.store failure)

end StoreSettings

/-- The configuration of the bus. -/
def EventSettings.busConfig (s : EventSettings) : BusConfig :=
  { workers := s.workers, grace := .ofSeconds s.grace }

namespace Settings

/-- The configuration of the cache. -/
def cacheConfig (s : Settings) : CacheConfig :=
  { ttls := s.cache.ttls, workflowTtl := .ofSeconds s.cache.workflow,
    slow := .ofMillis s.turn.slowMillis }

/-- The bucket, which keeps entries as long as the longest time to live. -/
def bucketConfig (s : Settings) : BucketConfig := s.store.bucketConfig s.cache.ttls.longest

end Settings

/-! ## Reading -/

/-- How settings look in a text. -/
structure SettingsForm where
  /-- A natural number of 64 bits, of a type called so in messages. -/
  natural : String → Decoder Nat
  /-- Text. -/
  text : Decoder String
  /-- Where documents are stored. -/
  backend : Decoder StoreBackend
  /-- A section, called so in messages. -/
  record : {α : Type} → String → Fields α → Decoder α

namespace SettingsForm

variable (form : SettingsForm)

/-- The section of the store. -/
def store : Fields StoreSettings :=
  let base : StoreSettings := {}
  StoreSettings.mk
    <$> Fields.defaulted "backend" base.backend form.backend
    <*> Fields.defaulted "nats_url" base.natsUrl form.text
    <*> Fields.defaulted "bucket" base.bucket form.text
    <*> Fields.defaulted "connection_timeout_secs" base.connectionTimeout (form.natural "u64")
    <*> Fields.defaulted "reconnect_attempts" base.reconnectAttempts (form.natural "usize")

/-- The section of the times to live. -/
def cache : Fields TtlSettings :=
  let base : TtlSettings := {}
  TtlSettings.mk
    <$> Fields.defaulted "project_data_ttl_secs" base.data (form.natural "u64")
    <*> Fields.defaulted "content_base_data_ttl_secs" base.contentBase (form.natural "u64")
    <*> Fields.defaulted "team_data_ttl_secs" base.team (form.natural "u64")
    <*> Fields.defaulted "guardrails_data_ttl_secs" base.guardrails (form.natural "u64")
    <*> Fields.defaulted "inline_agent_config_ttl_secs" base.inlineAgent (form.natural "u64")
    <*> Fields.defaulted "instructions_data_ttl_secs" base.instructions (form.natural "u64")
    <*> Fields.defaulted "agent_data_ttl_secs" base.agent (form.natural "u64")
    <*> Fields.defaulted "workflow_data_ttl_secs" base.workflow (form.natural "u64")

/-- The section of the event bus. -/
def events : Fields EventSettings :=
  let base : EventSettings := {}
  EventSettings.mk
    <$> Fields.defaulted "worker_threads" base.workers (form.natural "usize")
    <*> Fields.defaulted "shutdown_grace_secs" base.grace (form.natural "u64")
    <*> Fields.defaulted "subject_prefix" base.subjectRoot form.text

/-- The section of reading for a turn. -/
def turn : Fields TurnSettings :=
  let base : TurnSettings := {}
  TurnSettings.mk
    <$> Fields.defaulted "slow_threshold_ms" base.slowMillis (form.natural "u64")

/-- All sections. -/
def settings : Fields Settings :=
  Settings.mk
    <$> Fields.defaulted "store" {} (form.record "StoreSettings" form.store)
    <*> Fields.defaulted "cache" {} (form.record "CacheSettings" form.cache)
    <*> Fields.defaulted "events" {} (form.record "EventSettings" form.events)
    <*> Fields.defaulted "pre_generation" {} (form.record "PreGenerationSettings" form.turn)
    <*> Fields.defaulted "log_level" "info" form.text

/-- Settings as JSON values of their own types. -/
def strict : SettingsForm where
  natural := Decoder.natural 64
  text := Decoder.text
  backend := Decoder.variant (StoreBackend.all.map StoreBackend.name) StoreBackend.ofName?
  record := Fields.record

end SettingsForm

/-- Reads the section of the times to live. -/
def TtlSettings.decode : Decoder TtlSettings :=
  Fields.record "CacheSettings" SettingsForm.strict.cache

/-- Reads settings. -/
def Settings.decode : Decoder Settings := Fields.record "Settings" SettingsForm.strict.settings

/-! ## Writing -/

/-- Writes the section of the store. -/
def StoreSettings.encode (s : StoreSettings) : Json :=
  .ofFields
    [("backend", .string s.backend.name), ("nats_url", .string s.natsUrl),
     ("bucket", .string s.bucket), ("connection_timeout_secs", .nat s.connectionTimeout),
     ("reconnect_attempts", .nat s.reconnectAttempts)]

/-- Writes the section of the times to live. -/
def TtlSettings.encode (s : TtlSettings) : Json :=
  .ofFields (s.named.map fun (name, seconds) => (name, .nat seconds))

/-- Writes the section of the event bus. -/
def EventSettings.encode (s : EventSettings) : Json :=
  .ofFields
    [("worker_threads", .nat s.workers), ("shutdown_grace_secs", .nat s.grace),
     ("subject_prefix", .string s.subjectRoot)]

/-- Writes the section of reading for a turn. -/
def TurnSettings.encode (s : TurnSettings) : Json :=
  .ofFields [("slow_threshold_ms", .nat s.slowMillis)]

/-- Writes settings. -/
def Settings.encode (s : Settings) : Json :=
  .ofFields
    [("store", s.store.encode), ("cache", s.cache.encode), ("events", s.events.encode),
     ("pre_generation", s.turn.encode), ("log_level", .string s.logLevel)]

end ProjectCache
