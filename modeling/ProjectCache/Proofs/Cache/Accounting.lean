/-
# ProjectCache.Proofs.Cache.Accounting — the counters account for the calls of the cache.

Each call of an operation of the cache is accounted for by what it is and how it ends
(`Operation.Accounted`): one hit or miss when it looks something up, one fetch for each miss, one
invalidation even when it fails, one bundle built or dropped unless it fails. So in a history that
begins with counters at zero the counters balance with the calls (`World.Balanced`), whatever the
fetch functions answer and whatever happens to the clock and to the store between two calls.
-/
import ProjectCache.Proofs.Cache.Usage

namespace ProjectCache

variable {α : Type} {config : CacheConfig} {ttls : Ttls}

/-! ## What the operations are and count -/

theorem isOk_map {β : Type} (result : Except Error α) (f : α → β) :
    (result.map f).isOk = result.isOk := by
  cases result <;> rfl

namespace Cache

theorem LookedUp.readings {usage : Usage} (h : LookedUp usage) :
    usage .hits + usage .misses = 1 ∧ usage .misses = usage .asked ∧ usage .refreshes = 0 ∧
      usage .invalidations = 0 ∧ usage .rebuilds = 0 ∧ usage .drops = 0 := by
  cases h with
  | hit => simp
  | @miss others h =>
    have hothers : ∀ meter, (∀ kind, meter ≠ .fetched kind) → others meter = 0 := h
    simp [hothers]

theorem Served.readings {source : Source} {project : String} {requested : Option String}
    {result : Except Error Bundle} {usage : Usage}
    (h : Served source project requested result usage) :
    usage .hits + usage .misses = 1 ∧ usage .misses = usage (.fetched .data) ∧
      usage .refreshes = 0 ∧ usage .invalidations = 0 ∧ usage .rebuilds = 0 ∧ usage .drops = 0 := by
  cases h with
  | hit bundle => simp
  | miss hfetched =>
    obtain ⟨⟨asked, hasked, rfl⟩, -⟩ := hfetched
    have hdata : .data ∉ asked := fun hmem => absurd (hasked.subset hmem) (by decide)
    simp [Usage.ofFetches, List.count_eq_zero_of_not_mem hdata]

theorem Concluded.readings {result : Except Error α} {usage : Usage} (h : Concluded result usage) :
    usage .rebuilds + usage .drops = (if result.isOk then 1 else 0) ∧ usage .hits = 0 ∧
      usage .misses = 0 ∧ usage .asked = 0 ∧ usage .refreshes = 0 ∧ usage .invalidations = 0 := by
  cases h with
  | repaired a h => rcases h with rfl | rfl <;> simp [Except.isOk, Except.toBool]
  | failed e => simp [Except.isOk, Except.toBool]

end Cache

namespace Operation

/-- The meter of the fetches that an operation makes when what it looks up is not there. -/
def fetchMeter : Operation → Option Meter
  | .get .. => some .asked
  | .getBundle .. => some (.fetched .data)
  | .refreshWith .. => some .asked
  | _ => none

/-- Is a document or a bundle looked up? -/
def looksUp : Operation → Bool
  | .get .. => true
  | .getBundle .. => true
  | .refreshWith .. => true
  | _ => false

/-- Is a document fetched anew, whatever is stored? -/
def fetchesAnew : Operation → Bool
  | .refreshWith .. => true
  | _ => false

/-- Is a document pushed? -/
def pushes : Operation → Bool
  | .refresh .. => true
  | _ => false

/-- Is something invalidated? -/
def invalidates : Operation → Bool
  | .invalidate .. => true
  | .invalidateProject .. => true
  | _ => false

/-- Is the bundle repaired when the operation does not fail? -/
def repairs : Operation → Bool
  | .invalidate .. => true
  | .refresh .. => true
  | .refreshWith .. => true
  | _ => false

/-- Has the operation, which is there to build a bundle, built one? -/
def builds : Operation → Except Error Answer → Bool
  | .rebuildBundle .., .ok (.flag built) => built
  | _, _ => false

/-- The operation is one of the cache itself. Rosters are read and fetched for a backend, and a fetch
function counts nothing in the cache. -/
def Direct (ttls : Ttls) : Operation → Prop
  | .get kind project backend fetch =>
    (kind = .team → backend.isSome) ∧
      (fetch (Cache.requestFor kind project backend)).Uses ttls fun _ usage => usage.Outside
  | .refreshWith kind project backend fetch =>
    (kind = .team → backend.isSome) ∧
      (fetch (Cache.requestFor kind project backend)).Uses ttls fun _ usage => usage.Outside
  | .turn .. => False
  | .setWorkflow .. => False
  | .getWorkflow .. => False
  | .clearWorkflow .. => False
  | _ => True

/-- What was counted is what the operation and its result account for. -/
structure Accounted (operation : Operation) (result : Except Error Answer) (usage : Usage) :
    Prop where
  lookups : usage .hits + usage .misses = if operation.looksUp then 1 else 0
  fetches : usage .misses = operation.fetchMeter.elim 0 usage
  refreshes : usage .refreshes = (if operation.fetchesAnew then 1 else 0)
    + if operation.pushes && result.isOk then 1 else 0
  invalidations : usage .invalidations = if operation.invalidates then 1 else 0
  bundles : usage .rebuilds + usage .drops = (if operation.repairs && result.isOk then 1 else 0)
    + if operation.builds result then 1 else 0

/-- What an operation of the cache counts is accounted for by its kind and its result. -/
theorem uses_run {operation : Operation} (h : operation.Direct config.ttls) :
    (operation.run config).Uses config.ttls operation.Accounted := by
  cases operation with
  | get kind project backend fetch =>
    obtain ⟨key, hkey⟩ := Key.exists_entry h.1 project
    refine CacheM.Uses.map ((Cache.uses_get hkey h.2).mono ?_)
    intro result usage hlookup
    obtain ⟨hlookups, hfetches, hrefreshes, hinvalidations, hrebuilds, hdrops⟩ := hlookup.readings
    exact ⟨hlookups, hfetches, hrefreshes, hinvalidations, by rw [hrebuilds, hdrops]; rfl⟩
  | getBundle source project backend =>
    refine CacheM.Uses.map ((Cache.uses_getBundle source project backend).mono ?_)
    intro result usage hserved
    obtain ⟨hlookups, hfetches, hrefreshes, hinvalidations, hrebuilds, hdrops⟩ := hserved.readings
    exact ⟨hlookups, hfetches, hrefreshes, hinvalidations, by rw [hrebuilds, hdrops]; rfl⟩
  | invalidate kind project backend =>
    refine CacheM.Uses.map ((Cache.uses_invalidate kind project backend).mono ?_)
    rintro result _ ⟨rest, rfl, hrest⟩
    obtain ⟨hbundles, hhits, hmisses, -, hrefreshes, hinvalidations⟩ := hrest.readings
    constructor <;> simp [looksUp, fetchMeter, fetchesAnew, pushes, invalidates, repairs, builds,
      isOk_map, hbundles, hhits, hmisses, hrefreshes, hinvalidations]
  | invalidateProject project =>
    refine CacheM.Uses.map ((Cache.uses_invalidateProject project).mono ?_)
    rintro result _ rfl
    constructor <;> simp [looksUp, fetchMeter, fetchesAnew, pushes, invalidates, repairs, builds]
  | refresh project document backend =>
    refine CacheM.Uses.map ((Cache.uses_refresh project document backend).mono ?_)
    rintro result _ (⟨⟨e, rfl⟩, rfl⟩ | ⟨hok, rest, rfl, hrest⟩)
    · constructor <;> rfl
    · obtain ⟨hbundles, hhits, hmisses, -, hrefreshes, hinvalidations⟩ := hrest.readings
      have hsucceeded : result.isOk = true := hok ▸ rfl
      constructor <;> simp [looksUp, fetchMeter, fetchesAnew, pushes, invalidates, repairs, builds,
        isOk_map, hsucceeded, hbundles, hhits, hmisses, hrefreshes, hinvalidations]
  | refreshWith kind project backend fetch =>
    obtain ⟨key, hkey⟩ := Key.exists_entry h.1 project
    refine CacheM.Uses.map ((Cache.uses_refreshWith hkey h.2).mono ?_)
    rintro result _ ⟨lookup, rest, rfl, hlookup, hrest⟩
    obtain ⟨hlookups, hfetches, hrefreshes, hinvalidations, hrebuilds, hdrops⟩ := hlookup.readings
    obtain ⟨hbundles, hhits, hmisses, hasked, hrefreshes', hinvalidations'⟩ := hrest.readings
    constructor <;> simp [looksUp, fetchMeter, fetchesAnew, pushes, invalidates, repairs, builds,
      isOk_map, hlookups, hrefreshes, hinvalidations, hrebuilds, hdrops, hbundles, hhits, hmisses,
      hasked, hrefreshes', hinvalidations']
    exact hfetches
  | rebuildBundle project backend =>
    refine CacheM.Uses.map ((Cache.uses_rebuildBundle backend).mono ?_)
    rintro _ _ ⟨built, rfl, rfl⟩
    cases built <;> constructor <;> rfl
  | _ => exact h.elim

end Operation

/-! ## Histories of calls -/

/-- A call of an operation: how it ended, and the worlds before and after. -/
structure Call where
  operation : Operation
  result : Except Error Answer
  before : World
  after : World

namespace Call

/-- How often a fetch function was asked in the call, or a source for settings. -/
def fetches (call : Call) : Nat :=
  call.operation.fetchMeter.elim 0 fun meter =>
    call.after.reading meter - call.before.reading meter

/-- Did the call succeed? -/
def succeeded (call : Call) : Bool := call.result.isOk

/-- Did the call build a bundle in its own right? -/
def built (call : Call) : Bool := call.operation.builds call.result

/-- How often the calls asked for what they fetch. -/
def totalFetches (calls : List Call) : Nat := calls.foldr (fun call total => call.fetches + total) 0

end Call

/-- The calls, the latest first, since the counters were at zero, and the world after them. Between
two calls the clock and the store may change in any way that leaves new entries storable. -/
inductive Calls (config : CacheConfig) : List Call → World → Prop where
  | start {world : World} (hready : world.Ready config.ttls) (hfresh : world.counters = {}) :
      Calls config [] world
  | pass {calls : List Call} {world world' : World} (h : Calls config calls world)
      (hready : world'.Ready config.ttls) (hsame : world'.counters = world.counters) :
      Calls config calls world'
  | call {calls : List Call} {world world' : World} {operation : Operation}
      {result : Except Error Answer} (h : Calls config calls world)
      (hdirect : operation.Direct config.ttls)
      (hrun : operation.run config world = CacheM.ending result world') :
      Calls config (⟨operation, result, world, world'⟩ :: calls) world'

/-- The counters read what the calls account for. -/
structure World.Balanced (world : World) (calls : List Call) : Prop where
  lookups : world.counters.hits + world.counters.misses = calls.countP (·.operation.looksUp)
  fetches : world.counters.misses = Call.totalFetches calls
  refreshes : world.counters.refreshes = calls.countP (·.operation.fetchesAnew)
    + calls.countP (fun call => call.operation.pushes && call.succeeded)
  invalidations : world.counters.invalidations = calls.countP (·.operation.invalidates)
  bundles : world.counters.rebuilds + world.counters.drops
    = calls.countP (fun call => call.operation.repairs && call.succeeded)
      + calls.countP Call.built

/-- A call that is accounted for keeps the balance. -/
theorem World.Balanced.call {calls : List Call} {world world' : World} {operation : Operation}
    {result : Except Error Answer} {usage : Usage} (h : world.Balanced calls)
    (hadds : world.Adds usage world') (haccounted : operation.Accounted result usage) :
    world'.Balanced (⟨operation, result, world, world'⟩ :: calls) := by
  have hhits : world'.counters.hits = world.counters.hits + usage .hits := hadds .hits
  have hmisses : world'.counters.misses = world.counters.misses + usage .misses := hadds .misses
  have hrefreshes : world'.counters.refreshes = world.counters.refreshes + usage .refreshes :=
    hadds .refreshes
  have hinvalidations :
      world'.counters.invalidations = world.counters.invalidations + usage .invalidations :=
    hadds .invalidations
  have hrebuilds : world'.counters.rebuilds = world.counters.rebuilds + usage .rebuilds :=
    hadds .rebuilds
  have hdrops : world'.counters.drops = world.counters.drops + usage .drops := hadds .drops
  have hfetches : (Call.mk operation result world world').fetches = usage .misses := by
    rw [haccounted.fetches, Call.fetches]
    cases operation.fetchMeter with
    | none => rfl
    | some meter =>
      show world'.reading meter - world.reading meter = usage meter
      have hmeter := hadds meter
      omega
  -- each count is that of the earlier calls and what the new one adds
  constructor
  · rw [hhits, hmisses, List.countP_cons, Nat.add_add_add_comm, h.lookups]
    exact congrArg (_ + ·) haccounted.lookups
  · rw [hmisses, h.fetches, Nat.add_comm, ← hfetches]
    rfl
  · rw [hrefreshes, List.countP_cons, List.countP_cons, Nat.add_add_add_comm, h.refreshes]
    exact congrArg (_ + ·) haccounted.refreshes
  · rw [hinvalidations, List.countP_cons, h.invalidations]
    exact congrArg (_ + ·) haccounted.invalidations
  · rw [hrebuilds, hdrops, List.countP_cons, List.countP_cons, Nat.add_add_add_comm,
      Nat.add_add_add_comm (calls.countP _), h.bundles]
    exact congrArg (_ + ·) haccounted.bundles

theorem Calls.ready_and_balanced {calls : List Call} {world : World}
    (h : Calls config calls world) : world.Ready config.ttls ∧ world.Balanced calls := by
  -- by induction on the history, as each operation is ready for the next and accounts for itself
  induction h with
  | start hready hfresh =>
    refine ⟨hready, ?_⟩
    constructor <;> rw [hfresh] <;> rfl
  | pass _ hready hsame ih =>
    obtain ⟨-, hbalance⟩ := ih
    refine ⟨hready, ?_⟩
    constructor <;> rw [hsame]
    · exact hbalance.lookups
    · exact hbalance.fetches
    · exact hbalance.refreshes
    · exact hbalance.invalidations
    · exact hbalance.bundles
  | call _ hdirect hrun ih =>
    obtain ⟨hready, hbalance⟩ := ih
    obtain ⟨hready', usage, hadds, haccounted⟩ :=
      (Operation.uses_run hdirect).of_ending hready hrun
    exact ⟨hready', hbalance.call hadds haccounted⟩

/-- Every reading of a counter is accounted for by the calls since it was zero. -/
theorem counters_account_for_calls (config : CacheConfig) {calls : List Call} {world : World}
    (h : Calls config calls world) :
    world.counters.hits + world.counters.misses = calls.countP (·.operation.looksUp) ∧
    world.counters.misses = Call.totalFetches calls ∧
    world.counters.refreshes = calls.countP (·.operation.fetchesAnew)
      + calls.countP (fun call => call.operation.pushes && call.succeeded) ∧
    world.counters.invalidations = calls.countP (·.operation.invalidates) ∧
    world.counters.rebuilds + world.counters.drops
      = calls.countP (fun call => call.operation.repairs && call.succeeded)
        + calls.countP Call.built := by
  obtain ⟨-, hbalance⟩ := h.ready_and_balanced
  exact ⟨hbalance.lookups, hbalance.fetches, hbalance.refreshes, hbalance.invalidations,
    hbalance.bundles⟩

/-- A document that is fetched, rosters that are invalidated, and a fetch that fails. -/
theorem counters_account_for_calls_of_failed : ∃ calls world, Calls {} calls world ∧
    calls.map (fun call => (call.operation.looksUp, call.succeeded))
      = [(true, false), (false, true), (true, true)] ∧
    world.counters = { misses := 2, refreshes := 1, invalidations := 1, drops := 1 } ∧
    2 = Call.totalFetches calls := by
  obtain ⟨first, fetched, hfirst, second, swept, hsecond, third, last, hthird, hresults,
      hcounters⟩ : ∃ first fetched,
      Cache.get .default .data "p" none ((Source.sole .lone).fetch .data) { now := 0 }
        = CacheM.ending first fetched ∧ ∃ second swept,
      Cache.invalidate .default .team "p" none fetched = CacheM.ending second swept ∧ ∃ third last,
      Cache.refreshWith .default .guardrails "p" none (({} : Source).fetch .guardrails) swept
        = CacheM.ending third last ∧
      (first.isOk = true ∧ second.isOk = true ∧ third.isOk = false) ∧
      last.counters = { misses := 2, refreshes := 1, invalidations := 1, drops := 1 } := by
    decide +kernel
  have hget : Operation.Direct .default (.get .data "p" none ((Source.sole .lone).fetch .data)) :=
    ⟨nofun, Cache.outside_fetch _ _ _⟩
  have hinvalidate : Operation.Direct .default (.invalidate .team "p" none) := trivial
  have hrefresh : Operation.Direct .default
      (.refreshWith .guardrails "p" none (({} : Source).fetch .guardrails)) :=
    ⟨nofun, Cache.outside_fetch _ _ _⟩
  have hstart : Calls {} [] { now := 0 } := .start ⟨rfl, Ttls.inRange_default⟩ rfl
  have hcalls := ((hstart.call hget (CacheM.map_of_ending hfirst _)).call hinvalidate
    (CacheM.map_of_ending hsecond _)).call hrefresh (CacheM.map_of_ending hthird _)
  obtain ⟨-, hmisses, -⟩ := counters_account_for_calls {} hcalls
  refine ⟨_, last, hcalls, ?_, hcounters, ?_⟩
  · simp [Operation.looksUp, Call.succeeded, isOk_map, hresults]
  · rw [← hmisses, hcounters]

end ProjectCache
