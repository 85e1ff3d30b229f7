/-
# ProjectCache.Bus — handing events to the observers that have subscribed to their names.

An observer subscribes in one of two modes. Sync observers run one after the other; async observers
run at the same time and act in the order in which they finish. A registration can be isolated: its
failure is logged and goes no further. Of the other failures, that of the earliest registration is
reported when all observers have run.

`Bus.dispatch` runs the sync observers of an event, then the async ones. A published event waits
until the next `Bus.drain`, which dispatches it in the background, where a failure can only be
logged. `Bus.shutdown` closes the bus to new events and drains it, but does not wait for a dispatch
longer than its grace.

The bus knows of an observer only how it acts on a state, how long it takes and how it ends
(`Handlers`); that it may crash is one of the ends. The crash of a sync observer becomes a failure in a
dispatch, with what the runtime reports of it.
-/
import ProjectCache.World
import ProjectCache.Event.Basic

namespace ProjectCache

/-- How observers run. -/
inductive Mode where
  | sync
  | async
  deriving DecidableEq, Repr

/-- The name of a mode. -/
def Mode.name : Mode → String
  | .sync => "sync"
  | .async => "async"

/-- How an observer ends. -/
inductive Outcome where
  | done
  | failed (error : Error)
  | crashed (report : String)
  deriving DecidableEq, Repr

/-- Has the observer crashed? -/
def Outcome.isCrash : Outcome → Bool
  | .crashed _ => true
  | .done | .failed _ => false

/-- What observers do to a state. -/
structure Handlers (H W : Type) where
  /-- Runs an observer. -/
  perform : H → Event → W → Outcome × W
  /-- How long an observer takes before it acts. -/
  delay : H → Span
  /-- Writes a log line. -/
  log : Level → String → W → W
  /-- How failures are worded. -/
  wording : Wording

/-- An observer that has subscribed to a name. -/
structure Registration (H : Type) where
  /-- How the observer runs. -/
  mode : Mode
  /-- The name of the events. -/
  event : String
  /-- The observer. -/
  handler : H
  /-- Is its failure only logged? -/
  isolated : Bool
  deriving DecidableEq

/-- How many workers dispatch events, and how long a shutdown waits. -/
structure BusConfig where
  /-- The number of workers. -/
  workers : Nat := 5
  /-- The grace of a shutdown. -/
  grace : Span := .ofSeconds 10
  deriving DecidableEq, Repr

/-- The registrations, and the published events that wait for their dispatch. -/
structure Bus (H : Type) where
  /-- The configuration. -/
  config : BusConfig := {}
  /-- The registrations, in order. -/
  registrations : List (Registration H) := []
  /-- The events that wait. -/
  pending : List Event := []
  /-- Has the bus been shut down? -/
  closed : Bool := false

/-- How running observers ends: with a result, or with the crash of one. -/
inductive Ending where
  | finished (result : Except Error Unit)
  | crashed (report : String)

namespace Bus

variable {H W : Type} [DecidableEq H]

/-! ## Subscribing -/

/-- The registrations of one mode for a name, in order. -/
def registered (bus : Bus H) (mode : Mode) (event : String) : List (Registration H) :=
  bus.registrations.filter fun r => r.mode = mode ∧ r.event = event

/-- Subscribes an observer. One that has subscribed to the name in this mode stays as it is. -/
def subscribe (bus : Bus H) (mode : Mode) (event : String) (handler : H) (isolated : Bool) :
    Bus H :=
  if (bus.registered mode event).any fun r => r.handler = handler then bus
  else { bus with registrations := bus.registrations ++ [⟨mode, event, handler, isolated⟩] }

/-- How many observers have subscribed to a name. -/
def observerCount (bus : Bus H) (event : String) : Nat :=
  (bus.registered .sync event).length + (bus.registered .async event).length

/-! ## Running observers -/

/-- Takes note of a failure: an isolated one is logged, of the others the first is kept. -/
def noteFailure (handlers : Handlers H W) (event : Event) (r : Registration H) (error : Error)
    (first : Option Error) (state : W) : Option Error × W :=
  if r.isolated then (first, handlers.log .error "Observer failed" state)
  else (first <|> some (.observer event.name (error.message handlers.wording)), state)

/-- The result when the first failure that counts is known. -/
def resultOf : Option Error → Except Error Unit
  | none => .ok ()
  | some error => .error error

/-- Runs observers one after the other. -/
def runInTurn (handlers : Handlers H W) (event : Event) :
    List (Registration H) → Option Error → W → Ending × W
  | [], first, state => (.finished (resultOf first), state)
  | r :: rest, first, state =>
    match handlers.perform r.handler event state with
    | (.done, state) => runInTurn handlers event rest first state
    | (.failed error, state) =>
      let (first, state) := noteFailure handlers event r error first state
      runInTurn handlers event rest first state
    | (.crashed report, state) => (.crashed report, state)

/-- Runs the sync observers of an event. -/
def notify (handlers : Handlers H W) (bus : Bus H) (event : Event) (state : W) : Ending × W :=
  runInTurn handlers event (bus.registered .sync event.name) none state

/-- Puts a registration behind those that finish no later. -/
def insertByDelay (handlers : Handlers H W) (r : Registration H) :
    List (Registration H) → List (Registration H)
  | [] => [r]
  | s :: rest =>
    if handlers.delay r.handler < handlers.delay s.handler then r :: s :: rest
    else s :: insertByDelay handlers r rest

/-- The order in which observers finish that start at the same time. -/
def byDelay (handlers : Handlers H W) (rs : List (Registration H)) : List (Registration H) :=
  rs.foldl (fun acc r => insertByDelay handlers r acc) []

/-- Runs observers in the order in which they finish, and tells how each ended, or else of the crash of
one. -/
def runTogether (handlers : Handlers H W) (event : Event) :
    List (Registration H) → W → Except String (List (H × Outcome)) × W
  | [], state => (.ok [], state)
  | r :: rest, state =>
    match handlers.perform r.handler event state with
    | (.crashed report, state) => (.error report, state)
    | (outcome, state) =>
      match runTogether handlers event rest state with
      | (.ok outcomes, state) => (.ok ((r.handler, outcome) :: outcomes), state)
      | (.error report, state) => (.error report, state)

/-- How an observer ended. -/
def outcomeOf (outcomes : List (H × Outcome)) (handler : H) : Outcome :=
  ((outcomes.find? fun o => o.1 = handler).map (·.2)).getD .done

/-- Takes note of the failures among the outcomes, in the order of registration. -/
def settle (handlers : Handlers H W) (event : Event) (outcomes : List (H × Outcome)) :
    List (Registration H) → Option Error → W → Except Error Unit × W
  | [], first, state => (resultOf first, state)
  | r :: rest, first, state =>
    match outcomeOf outcomes r.handler with
    | .failed error =>
      let (first, state) := noteFailure handlers event r error first state
      settle handlers event outcomes rest first state
    | _ => settle handlers event outcomes rest first state

/-- Runs the async observers of an event. -/
def notifyAsync (handlers : Handlers H W) (bus : Bus H) (event : Event) (state : W) : Ending × W :=
  let rs := bus.registered .async event.name
  match runTogether handlers event (byDelay handlers rs) state with
  | (.error report, state) => (.crashed report, state)
  | (.ok outcomes, state) =>
    let (result, state) := settle handlers event outcomes rs none state
    (.finished result, state)

/-- What remains of the sync observers' end: a crash has become a failure. -/
def syncResult : Ending → Except Error Unit
  | .finished result => result
  | .crashed report => .error (.runtime report)

/-- Runs the sync observers of an event, then the async ones. The failure of a sync observer comes
first. -/
def dispatch (handlers : Handlers H W) (bus : Bus H) (event : Event) (state : W) : Ending × W :=
  let (sync, state) := notify handlers bus event state
  match notifyAsync handlers bus event state with
  | (.crashed report, state) => (.crashed report, state)
  | (.finished result, state) =>
    match syncResult sync with
    | .ok () => (.finished result, state)
    | .error e => (.finished (.error e), state)

/-- Dispatches an event and waits, which must not be done from inside a runtime. -/
def notifyBlocking (handlers : Handlers H W) (bus : Bus H) (inside : Bool) (event : Event)
    (state : W) : Ending × W :=
  if inside then (.finished (.error .insideRuntime), state) else dispatch handlers bus event state

/-! ## Publishing -/

/-- Leaves an event for dispatch. A bus that has been shut down drops it. -/
def publish (handlers : Handlers H W) (bus : Bus H) (event : Event) (state : W) : Bus H × W :=
  if bus.closed then
    (bus, handlers.log .warn "Event bus is shut down, dropping event" state)
  else ({ bus with pending := bus.pending ++ [event] }, state)

/-- Dispatches a published event. A failure is logged, and a crash is lost. -/
def dispatchPublished (handlers : Handlers H W) (bus : Bus H) (event : Event) (state : W) : W :=
  match dispatch handlers bus event state with
  | (.finished (.error _), state) => handlers.log .error "Event dispatch failed" state
  | (_, state) => state

/-- Dispatches the events that wait. -/
def drain (handlers : Handlers H W) (bus : Bus H) (state : W) : Bus H × W :=
  ({ bus with pending := [] },
    bus.pending.foldl (fun state event => dispatchPublished handlers bus event state) state)

/-! ## Shutting down -/

/-- The time at which each of some observers acts that run one after the other from a start. -/
def timesInTurn (handlers : Handlers H W) : Nat → List (Registration H) →
    List (Registration H × Nat)
  | _, [] => []
  | start, r :: rest =>
    let finish := start + (handlers.delay r.handler).nanos
    (r, finish) :: timesInTurn handlers finish rest

/-- When each observer of an event acts, counted from the start of its dispatch. -/
def schedule (handlers : Handlers H W) (bus : Bus H) (event : Event) :
    List (Registration H × Nat) :=
  let sync := timesInTurn handlers 0 (bus.registered .sync event.name)
  let start := (sync.getLast?.map (·.2)).getD 0
  let async := (byDelay handlers (bus.registered .async event.name)).map fun r =>
    (r, start + (handlers.delay r.handler).nanos)
  sync ++ async

/-- Does a dispatch take longer than a shutdown waits? -/
def outlasts (handlers : Handlers H W) (bus : Bus H) (event : Event) : Bool :=
  (schedule handlers bus event).any fun (_, time) => bus.config.grace.nanos < time

/-- The part of a dispatch that falls within the grace. Nobody learns how its observers end. -/
def dispatchInGrace (handlers : Handlers H W) (bus : Bus H) (event : Event) (state : W) : W :=
  ((schedule handlers bus event).filter fun (_, time) => time ≤ bus.config.grace.nanos).foldl
    (fun state (r, _) => (handlers.perform r.handler event state).2) state

/-- Closes the bus and dispatches the events that wait, as far as the grace allows. -/
def shutdown (handlers : Handlers H W) (bus : Bus H) (state : W) : Bus H × W :=
  let state := bus.pending.foldl (fun state event =>
    if outlasts handlers bus event then dispatchInGrace handlers bus event state
    else dispatchPublished handlers bus event state) state
  let state :=
    if bus.pending.any (outlasts handlers bus) then
      handlers.log .warn "Event dispatches still running after shutdown grace period" state
    else state
  ({ bus with pending := [], closed := true }, state)

/-- Shuts the bus down and waits, which must not be done from inside a runtime. -/
def shutdownBlocking (handlers : Handlers H W) (bus : Bus H) (inside : Bool) (state : W) :
    Except Error (Bus H) × W :=
  if inside then (.error .insideRuntime, state)
  else
    let (bus, state) := shutdown handlers bus state
    (.ok bus, state)

end Bus

end ProjectCache
