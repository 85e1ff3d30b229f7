/-
# ProjectCache.Error — what can go wrong, and how it is worded.

Each constructor of `Error` is a class of failures, and where the library itself raises one, the
cause is a constructor too. Callers can raise failures of any class that has a text with one of their
own.

What regular expressions, readers of settings, servers and the runtime have to say of a failure is not
worded here. Where it depends on nothing but the failure it is a parameter of the wording (`Wording`), and
elsewhere it is a part of the failure.
-/
import ProjectCache.Document.Kind

namespace ProjectCache

/-- The texts that come from elsewhere. -/
structure Wording where
  /-- Why a pattern gives no regular expression. -/
  pattern : String → String

/-- Why a request or a setting is refused. -/
inductive Misconfiguration where
  | unknownKind (name : String)
  | backendNeeded (kind : Kind)
  | noBackendForBundle (project : String)
  | noBackendForTurn (project : String)
  | unterminatedClass (pattern : String)
  | invalidPattern (pattern : String)
  | ttlOutOfRange (ttl : Span) (key : String)
  | keyNotStorable (key : String)
  | ttlTooLong (setting : String) (seconds limit : Nat)
  | other (text : String)
  deriving DecidableEq, Repr

/-- The wording of a refusal. -/
def Misconfiguration.message (wording : Wording) : Misconfiguration → String
  | .unknownKind name => "Unknown cache type: " ++ name
  | .backendNeeded kind => "Cache type '" ++ kind.name ++ "' requires an agents backend"
  | .noBackendForBundle project =>
    "Project " ++ project ++ " has no agents backend and none was supplied"
  | .noBackendForTurn project => "Project " ++ project ++ " has no agents backend"
  | .unterminatedClass pattern => "Unterminated character class in pattern: " ++ pattern
  | .invalidPattern pattern => "Invalid glob pattern " ++ pattern ++ ": " ++ wording.pattern pattern
  | .ttlOutOfRange ttl key => "TTL " ++ ttl.text ++ " for " ++ key ++ " is out of range"
  | .keyNotStorable key => "Key cannot be stored in NATS KV: " ++ key
  | .ttlTooLong setting seconds limit =>
    "cache." ++ setting ++ " = " ++ toString seconds ++ " exceeds the maximum of "
      ++ toString limit ++ " seconds"
  | .other text => text

/-- The calls of a store. -/
inductive StoreCall where
  | get
  | set
  | delete
  | deletePattern
  deriving DecidableEq, Repr

/-- The name of a call. -/
def StoreCall.name : StoreCall → String
  | .get => "get"
  | .set => "set"
  | .delete => "delete"
  | .deletePattern => "delete_pattern"

/-- The call of a name. -/
def StoreCall.ofName? (text : String) : Option StoreCall :=
  [StoreCall.get, .set, .delete, .deletePattern].find? fun call => call.name == text

/-- Why a store does not answer. -/
inductive StoreFailure where
  | notConnected (reason : String)
  | noBucket (bucket reason : String)
  | outage (call : StoreCall)
  | other (text : String)
  deriving DecidableEq, Repr

/-- The wording of a store's failure. -/
def StoreFailure.message : StoreFailure → String
  | .notConnected reason => "Failed to connect to NATS: " ++ reason
  | .noBucket bucket reason => "Failed to create KV bucket " ++ bucket ++ ": " ++ reason
  | .outage call => "injected " ++ call.name ++ " failure"
  | .other text => text

/-- What was not found. -/
inductive Absence where
  | project (uuid : String)
  | part (what uuid : String)
  | other (text : String)
  deriving DecidableEq, Repr

/-- The wording of an absence. -/
def Absence.message : Absence → String
  | .project uuid => "Project " ++ uuid
  | .part what uuid => what ++ " for project " ++ uuid
  | .other text => text

/-- A failure. -/
inductive Error where
  | configuration (cause : Misconfiguration)
  | store (cause : StoreFailure)
  | decoding (cause : DecodeError)
  | fetch (kind message : String)
  | observer (event message : String)
  | insideRuntime
  | runtime (text : String)
  | settings (text : String)
  | notFound (what : Absence)
  deriving DecidableEq, Repr

namespace Error

/-- The wording of a failure. -/
def message (wording : Wording) : Error → String
  | .configuration cause => "Configuration error: " ++ cause.message wording
  | .store cause => "Store error: " ++ cause.message
  | .decoding cause => "Serialization error: " ++ cause.message
  | .fetch kind text => "Fetch error for " ++ kind ++ ": " ++ text
  | .observer event text => "Observer for event '" ++ event ++ "' failed: " ++ text
  | .insideRuntime => "Cannot block on event dispatch from inside an async runtime"
  | .runtime text => "Runtime error: " ++ text
  | .settings text => "Settings error: " ++ text
  | .notFound what => "Not found: " ++ what.message

end Error

/-- Reads the name of a kind. -/
def Kind.parse (text : String) : Except Error Kind :=
  match Kind.ofName? text with
  | some kind => .ok kind
  | none => .error (.configuration (.unknownKind text))

end ProjectCache
