/-
# ProjectCache.Service — a cache, its source and its bus, put together.

A `Service` is driven one `Step` at a time. Besides the operations on the cache, steps change the
source, call the store, switch outages on and off, and use the bus. The observers of a service are
those that keep the cache fresh, and probes, which only show that they ran and end as they are told
to.
-/
import ProjectCache.Cache.Operation
import ProjectCache.Activity

namespace ProjectCache

/-! ## Observers -/

/-- How a probe ends. -/
inductive Behaviour where
  | succeed
  | fail (error : Error)
  | crash (report : String)
  | linger
  deriving DecidableEq, Repr

/-- An observer of a service. A round of the observers that keep the cache fresh is a set of new
ones. -/
inductive Observer where
  | probe (name : String) (mode : Mode) (behaviour : Behaviour)
  | activity (activity : Activity) (round : Nat)
  deriving DecidableEq

namespace Observer

/-- How long a lingering probe takes. -/
def lingering : Span := .ofMillis 150

/-- How long an observer takes. -/
def delay : Observer → Span
  | .probe _ _ .linger => lingering
  | _ => ⟨0⟩

/-- How a probe ends. -/
def outcome : Behaviour → Outcome
  | .succeed | .linger => .done
  | .fail error => .failed error
  | .crash report => .crashed report

/-- Runs an observer. -/
def perform (ttls : Ttls) (source : Source) : Observer → Event → World → Outcome × World
  | .probe name mode behaviour, event, world =>
    (outcome behaviour,
      world.record (.performed (name ++ " " ++ mode.name ++ " " ++ event.name)))
  | .activity a _, event, world => (.done, a.perform ttls source event world)

/-- The observers as a bus knows them. -/
def handlers (wording : Wording) (ttls : Ttls) (source : Source) : Handlers Observer World where
  perform := perform ttls source
  delay := delay
  log level text world := world.record (.logged level text)
  wording := wording

end Observer

/-! ## Services -/

/-- A service. -/
structure Service where
  /-- How the cache is set up. -/
  config : CacheConfig := {}
  /-- How failures are worded. -/
  wording : Wording
  /-- The state that operations act on. -/
  world : World
  /-- The source. -/
  source : Source := {}
  /-- The bus, if there is one. -/
  bus : Option (Bus Observer) := none
  /-- The probes that can be subscribed. -/
  probes : Keyed Behaviour := ∅
  /-- How often the observers that keep the cache fresh have been subscribed. -/
  rounds : Nat := 0
  /-- What has been fetched from the source so far. -/
  fetched : List Kind := []

/-- One step of a service. -/
inductive Step where
  | operation (operation : Operation)
  | getBundle (project : String) (backend : Option String)
  | turn (project : String)
  | hitRate
  | ttls
  | fetch (kind : Kind) (request : Request)
  | resolve (project : String)
  | changeSource (change : Source → Source)
  | storeGet (key : String)
  | storeSet (key : String) (value : Json) (ttl : Span)
  | storeDelete (key : String)
  | storeDeletePattern (pattern : String)
  | storeKeys
  | storeSize
  | storeTtl (key : String)
  | outage (outage : Outage) (on : Bool)
  | subscribe (probe : String) (mode : Mode) (event : String) (isolated : Bool)
  | subscribeActivities
  | observerCount (event : String)
  | busConfig
  | notify (event : Event)
  | notifyAsync (event : Event)
  | dispatch (event : Event)
  | notifyBlocking (event : Event) (inside : Bool)
  | publish (event : Event)
  | publishOutside (event : Event)
  | shutdown
  | shutdownBlocking (inside : Bool)
  | refused (error : Error)

/-- What a step returns. -/
inductive Reply where
  | answer (answer : Answer)
  | rate (rate : Binary64)
  | ttls (ttls : Ttls)
  | resolved (resolved : Source.Resolved)
  | keys (keys : List String)
  | size (size : Nat) (empty : Bool)
  | seconds (seconds : Option Nat)
  | config (config : BusConfig)
  | failure (error : Error)
  | deferred
  | crashed

namespace Service

/-- The observers as the service's bus knows them. -/
def handlers (service : Service) : Handlers Observer World :=
  Observer.handlers service.wording service.config.ttls service.source

/-- Carries out an operation on the world. -/
def perform {α : Type} (service : Service) (operation : CacheM α) (reply : α → Reply) :
    Reply × Service :=
  match operation service.world with
  | .ok a world => (reply a, { service with world })
  | .error e world => (.failure e, { service with world })

/-- The reply for a run of observers. -/
def endingReply : Ending → Reply
  | .finished (.ok ()) => .answer .done
  | .finished (.error e) => .failure e
  | .crashed _ => .crashed

/-- Does something with the bus. -/
def withBus (service : Service) (act : Bus Observer → Reply × Service) : Reply × Service :=
  match service.bus with
  | some bus => act bus
  | none => (.failure (.notFound (.other "bus")), service)

/-- Runs observers. -/
def observe (service : Service) (run : Bus Observer → World → Ending × World) : Reply × Service :=
  service.withBus fun bus =>
    let (ending, world) := run bus service.world
    (endingReply ending, { service with world })

/-- Changes the bus. -/
def changeBus (service : Service) (change : Bus Observer → World → Bus Observer × World) :
    Reply × Service :=
  service.withBus fun bus =>
    let (bus, world) := change bus service.world
    (.answer .done, { service with bus := some bus, world })

/-- Subscribes a probe, and tells how many observers the event then has. -/
def subscribe (service : Service) (probe : String) (mode : Mode) (event : String)
    (isolated : Bool) : Reply × Service :=
  service.withBus fun bus =>
    match service.probes.find? probe with
    | none => (.failure (.notFound (.other ("probe " ++ probe))), service)
    | some behaviour =>
      let bus := bus.subscribe mode event (.probe probe mode behaviour) isolated
      (.answer (.count (bus.observerCount event)), { service with bus := some bus })

/-- Subscribes a new round of the observers that keep the cache fresh. -/
def subscribeActivities (service : Service) : Reply × Service :=
  service.withBus fun bus =>
    let bus := Activity.all.foldl (fun bus activity =>
      bus.subscribe .async activity.eventName (.activity activity service.rounds) true) bus
    (.answer .done, { service with bus := some bus, rounds := service.rounds + 1 })

/-- Switches an outage, and tells whether anything changed. -/
def switchOutage (service : Service) (outage : Outage) (on : Bool) : Reply × Service :=
  let outages := service.world.outages
  let others := outages.filter (· ≠ outage)
  (.answer (.flag (outages.contains outage != on)),
    { service with
      world := { service.world with outages := if on then outage :: others else others } })

/-- Carries out a step. -/
def step (service : Service) : Step → Reply × Service
  | .operation operation => service.perform (operation.run service.config) .answer
  | .getBundle project backend =>
    service.perform (Operation.run service.config (.getBundle service.source project backend))
      .answer
  | .turn project =>
    service.perform (Operation.run service.config (.turn service.source project)) .answer
  | .hitRate => (.rate service.world.counters.hitRate, service)
  | .ttls => (.ttls service.config.ttls, service)
  | .fetch kind request =>
    service.perform (service.source.fetch kind request) fun v => .answer (.document ⟨kind, v⟩)
  | .resolve project => service.perform (service.source.resolve project) .resolved
  | .changeSource change => (.answer .done, { service with source := change service.source })
  | .storeGet key => service.perform (CacheM.get key) fun found => .answer (.stored found)
  | .storeSet key value ttl => service.perform (CacheM.set key value ttl) fun _ => .answer .done
  | .storeDelete key => service.perform (CacheM.delete key) fun removed => .answer (.flag removed)
  | .storeDeletePattern pattern =>
    service.perform (CacheM.deletePattern pattern) fun removed => .answer (.count removed)
  | .storeKeys => (.keys (service.world.store.keys service.world.now), service)
  | .storeSize =>
    (.size (service.world.store.size service.world.now)
      (service.world.store.isEmpty service.world.now), service)
  | .storeTtl key =>
    (.seconds ((service.world.store.ttl service.world.now key).map Span.ceilSeconds), service)
  | .outage outage on => service.switchOutage outage on
  | .subscribe probe mode event isolated => service.subscribe probe mode event isolated
  | .subscribeActivities => service.subscribeActivities
  | .observerCount event =>
    service.withBus fun bus => (.answer (.count (bus.observerCount event)), service)
  | .busConfig => service.withBus fun bus => (.config bus.config, service)
  | .notify event => service.observe fun bus => bus.notify service.handlers event
  | .notifyAsync event => service.observe fun bus => bus.notifyAsync service.handlers event
  | .dispatch event => service.observe fun bus => bus.dispatch service.handlers event
  | .notifyBlocking event inside =>
    service.observe fun bus => bus.notifyBlocking service.handlers inside event
  | .publish event =>
    service.changeBus fun bus world =>
      let (bus, world) := bus.publish service.handlers event world
      bus.drain service.handlers world
  | .publishOutside event =>
    let (reply, service) := service.changeBus fun bus => bus.publish service.handlers event
    (match reply with | .failure e => .failure e | _ => .deferred, service)
  | .shutdown => service.changeBus fun bus => bus.shutdown service.handlers
  | .shutdownBlocking inside =>
    service.withBus fun bus =>
      match bus.shutdownBlocking service.handlers inside service.world with
      | (.ok bus, world) => (.answer .done, { service with bus := some bus, world })
      | (.error e, world) => (.failure e, { service with world })
  | .refused error => (.failure error, service)

/-- The kinds that a trace shows as fetched. -/
def fetchedIn (trace : List Happening) : List Kind :=
  trace.filterMap fun happening => match happening with
    | .fetched kind => some kind
    | _ => none

/-- Carries out a step, and hands over what happened in the course of it, in order. -/
def advance (service : Service) (step : Step) : Reply × List Happening × Service :=
  let (reply, service) := service.step step
  match reply with
  | .deferred => (reply, [], service)
  | _ =>
    (reply, service.world.trace.reverse,
      { service with
        world := { service.world with trace := [] }
        fetched := fetchedIn service.world.trace ++ service.fetched })

/-- How often documents of a kind have been fetched. -/
def fetchCount (service : Service) (kind : Kind) : Nat := service.fetched.count kind

end Service

end ProjectCache
