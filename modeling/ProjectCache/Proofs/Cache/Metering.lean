/-
# ProjectCache.Proofs.Cache.Metering — what an operation adds to the counters.

Besides the usage counters, the trace tells how often a fetch function was asked and how often a
source was. Each of these is a `Meter`, and the readings of all of them only ever grow. The contract
`CacheM.Uses` says by how much: from every world without outages in which new entries can still be
stored, the operation comes to a result and adds a `Usage` to the readings. The store is left open,
since what is counted depends on it only through the result.
-/
import ProjectCache.Cache.Operation
import ProjectCache.Proofs.Cache.Outcomes

namespace ProjectCache

/-! ## Meters -/

/-- Something that is counted. -/
inductive Meter where
  | hits
  | misses
  | refreshes
  | invalidations
  | rebuilds
  | drops
  | asked
  | fetched (kind : Kind)
  deriving DecidableEq

/-- Was a fetch function asked? -/
def Happening.isAsked : Happening → Bool
  | .asked _ => true
  | _ => false

/-- Was a source asked for a kind of document? -/
def Happening.isFetched (kind : Kind) : Happening → Bool
  | .fetched k => k = kind
  | _ => false

/-- What a meter reads. -/
def World.reading (world : World) : Meter → Nat
  | .hits => world.counters.hits
  | .misses => world.counters.misses
  | .refreshes => world.counters.refreshes
  | .invalidations => world.counters.invalidations
  | .rebuilds => world.counters.rebuilds
  | .drops => world.counters.drops
  | .asked => world.trace.countP Happening.isAsked
  | .fetched kind => world.trace.countP (Happening.isFetched kind)

/-- How often each thing was counted. -/
abbrev Usage := Meter → Nat

namespace Usage

/-- Nothing was counted. -/
def none : Usage := fun _ => 0

/-- One thing was counted once. -/
def one (meter : Meter) : Usage := fun m => if m = meter then 1 else 0

/-- What was counted in two stretches of time. -/
def plus (first second : Usage) : Usage := fun meter => first meter + second meter

/-- A source was asked for these documents. -/
def ofFetches (kinds : List Kind) : Usage
  | .fetched kind => kinds.count kind
  | _ => 0

@[simp] theorem none_apply (meter : Meter) : none meter = 0 := rfl

@[simp] theorem one_apply (meter m : Meter) : one meter m = if m = meter then 1 else 0 := rfl

@[simp] theorem plus_apply (first second : Usage) (meter : Meter) :
    first.plus second meter = first meter + second meter := rfl

@[simp] theorem none_plus (usage : Usage) : none.plus usage = usage := by
  funext meter
  exact Nat.zero_add _

@[simp] theorem plus_none (usage : Usage) : usage.plus none = usage := rfl

@[simp] theorem ofFetches_nil : ofFetches [] = none := by
  funext meter
  cases meter <;> rfl

theorem one_plus_ofFetches (kind : Kind) (kinds : List Kind) :
    (one (.fetched kind)).plus (ofFetches kinds) = ofFetches (kind :: kinds) := by
  funext meter
  cases meter with
  | fetched k =>
    simp only [plus_apply, one_apply, ofFetches, Meter.fetched.injEq, List.count_cons, beq_iff_eq,
      eq_comm (a := k)]
    omega
  | _ => rfl

/-- Only fetches of a source were counted. -/
def Outside (usage : Usage) : Prop := ∀ meter, (∀ kind, meter ≠ .fetched kind) → usage meter = 0

end Usage

/-! ## What an operation uses -/

variable {α β : Type} {ttls : Ttls}

namespace World

/-- There are no outages, and new entries can be stored. -/
structure Ready (world : World) (ttls : Ttls) : Prop where
  outages_eq : world.outages = []
  inRange : ttls.InRange world.now

theorem Ready.fails_eq {world : World} (h : world.Ready ttls) (call : StoreCall) (key : String) :
    world.fails call key = false := by
  rw [fails, h.outages_eq]
  rfl

/-- Between the two worlds that much was counted. -/
def Adds (world : World) (usage : Usage) (world' : World) : Prop :=
  ∀ meter, world'.reading meter = world.reading meter + usage meter

theorem adds_none (world : World) : world.Adds .none world := fun _ => rfl

theorem Adds.plus {world world' last : World} {usage usage' : Usage}
    (h : world.Adds usage world') (h' : world'.Adds usage' last) :
    world.Adds (usage.plus usage') last := by
  intro meter
  rw [h' meter, h meter, Nat.add_assoc]
  rfl

/-- The counters tell of nothing else. -/
theorem Adds.counters_eq {world world' : World} {usage : Usage} (h : world.Adds usage world') :
    world'.counters = {
      hits := world.counters.hits + usage .hits
      misses := world.counters.misses + usage .misses
      refreshes := world.counters.refreshes + usage .refreshes
      invalidations := world.counters.invalidations + usage .invalidations
      rebuilds := world.counters.rebuilds + usage .rebuilds
      drops := world.counters.drops + usage .drops } := by
  have hhits : world'.counters.hits = world.counters.hits + usage .hits := h .hits
  have hmisses : world'.counters.misses = world.counters.misses + usage .misses := h .misses
  have hrefreshes : world'.counters.refreshes = world.counters.refreshes + usage .refreshes :=
    h .refreshes
  have hinvalidations : world'.counters.invalidations
      = world.counters.invalidations + usage .invalidations := h .invalidations
  have hrebuilds : world'.counters.rebuilds = world.counters.rebuilds + usage .rebuilds :=
    h .rebuilds
  have hdrops : world'.counters.drops = world.counters.drops + usage .drops := h .drops
  rw [← hhits, ← hmisses, ← hrefreshes, ← hinvalidations, ← hrebuilds, ← hdrops]

/-- A call of the store is not counted. -/
theorem adds_record (world : World) (store : Store) {happening : Happening}
    (hasked : happening.isAsked = false) (hfetched : ∀ kind, happening.isFetched kind = false) :
    world.Adds .none ({ world with store }.record happening) := by
  intro meter
  cases meter with
  | asked => simp [reading, record, hasked]
  | fetched kind => simp [reading, record, hfetched]
  | _ => rfl

end World

namespace CacheM

/-- From every world that is ready the operation comes to a result and to a world that is ready, and
the condition holds of the result and of what was counted. -/
def Uses (ttls : Ttls) (m : CacheM α) (post : Except Error α → Usage → Prop) : Prop :=
  ∀ world : World, world.Ready ttls → ∃ result world' usage,
    m world = ending result world' ∧ world'.Ready ttls ∧ world.Adds usage world' ∧ post result usage

/-- The operation succeeds, and nothing is counted. -/
def IsFree (ttls : Ttls) (m : CacheM α) : Prop :=
  Uses ttls m fun result usage => (∃ a, result = .ok a) ∧ usage = .none

/-- The operation succeeds, and counts one thing once. -/
def Counts (ttls : Ttls) (m : CacheM Unit) (meter : Meter) : Prop :=
  Uses ttls m fun result usage => result = .ok () ∧ usage = .one meter

section Rules

variable {m : CacheM α} {f : α → CacheM β} {post : Except Error α → Usage → Prop}
  {mid : Except Error α → Usage → Prop} {goal : Except Error β → Usage → Prop}

theorem Uses.mono (hm : Uses ttls m mid)
    (h : ∀ result usage, mid result usage → post result usage) : Uses ttls m post := by
  intro world hworld
  obtain ⟨result, world', usage, hrun, hready, hadds, hmid⟩ := hm world hworld
  exact ⟨result, world', usage, hrun, hready, hadds, h result usage hmid⟩

/-- What an operation uses is counted in a run that is known. -/
theorem Uses.of_ending (hm : Uses ttls m post) {world world' : World} {result : Except Error α}
    (hworld : world.Ready ttls) (hrun : m world = ending result world') :
    world'.Ready ttls ∧ ∃ usage, world.Adds usage world' ∧ post result usage := by
  obtain ⟨result', last, usage, hend, hready, hadds, hpost⟩ := hm world hworld
  obtain ⟨rfl, rfl⟩ := ending_inj (hrun.symm.trans hend)
  exact ⟨hready, usage, hadds, hpost⟩

theorem uses_pure {a : α} (h : post (.ok a) .none) : Uses ttls (pure a) post :=
  fun world hworld => ⟨.ok a, world, .none, rfl, hworld, world.adds_none, h⟩

theorem uses_throw {e : Error} (h : post (.error e) .none) : Uses ttls (throw e) post :=
  fun world hworld => ⟨.error e, world, .none, rfl, hworld, world.adds_none, h⟩

/-- What follows an operation adds to what was counted until then. -/
theorem Uses.bind (hm : Uses ttls m mid)
    (hok : ∀ a usage, mid (.ok a) usage →
      Uses ttls (f a) fun result usage' => goal result (usage.plus usage'))
    (herror : ∀ e usage, mid (.error e) usage → goal (.error e) usage) :
    Uses ttls (m >>= f) goal := by
  intro world hworld
  obtain ⟨result, middle, usage, hrun, hready, hadds, hmid⟩ := hm world hworld
  cases result with
  | ok a =>
    obtain ⟨result, last, usage', hrun', hready', hadds', hgoal⟩ := hok a usage hmid middle hready
    exact ⟨result, last, usage.plus usage', (bind_of_ok hrun).trans hrun', hready',
      hadds.plus hadds', hgoal⟩
  | error e =>
    exact ⟨.error e, middle, usage, bind_of_error hrun, hready, hadds, herror e usage hmid⟩

theorem Uses.map {g : α → β} (hm : Uses ttls m fun result usage => goal (result.map g) usage) :
    Uses ttls (g <$> m) goal := by
  show Uses ttls (m >>= fun a => pure (g a)) goal
  exact Uses.bind hm (fun a usage h => uses_pure h) fun e usage h => h

/-- What is free does not show. -/
theorem IsFree.bind (hm : IsFree ttls m) (hf : ∀ a, Uses ttls (f a) goal) :
    Uses ttls (m >>= f) goal := by
  refine Uses.bind hm ?_ ?_
  · rintro a _ ⟨-, rfl⟩
    exact (hf a).mono fun result usage h => (Usage.none_plus usage).symm ▸ h
  · rintro e _ ⟨⟨a, h⟩, -⟩
    cases h

theorem isFree_pure (a : α) : IsFree ttls (pure a : CacheM α) := uses_pure ⟨⟨a, rfl⟩, rfl⟩

/-- What follows is counted beside the one thing. -/
theorem Counts.bind {m : CacheM Unit} {f : Unit → CacheM β} {meter : Meter}
    (hm : Counts ttls m meter)
    (hf : Uses ttls (f ()) fun result usage => goal result ((Usage.one meter).plus usage)) :
    Uses ttls (m >>= f) goal := by
  refine Uses.bind hm ?_ ?_
  · rintro _ _ ⟨-, rfl⟩
    exact hf
  · rintro e _ ⟨h, -⟩
    cases h

end Rules

/-! ## Counting -/

theorem counts_modify {change : World → World} {meter : Meter}
    (houtages : ∀ world, (change world).outages = world.outages)
    (hnow : ∀ world, (change world).now = world.now)
    (hadds : ∀ world : World, world.Adds (.one meter) (change world)) :
    Counts ttls (modify change) meter := by
  intro world hworld
  refine ⟨.ok (), change world, .one meter, rfl, ⟨?_, ?_⟩, hadds world, rfl, rfl⟩
  · rw [houtages, hworld.outages_eq]
  · rw [hnow]
    exact hworld.inRange

theorem counts_hits : Counts ttls (count fun c => { c with hits := c.hits + 1 }) .hits :=
  counts_modify (fun _ => rfl) (fun _ => rfl) fun _ meter => by cases meter <;> rfl

theorem counts_misses : Counts ttls (count fun c => { c with misses := c.misses + 1 }) .misses :=
  counts_modify (fun _ => rfl) (fun _ => rfl) fun _ meter => by cases meter <;> rfl

theorem counts_refreshes :
    Counts ttls (count fun c => { c with refreshes := c.refreshes + 1 }) .refreshes :=
  counts_modify (fun _ => rfl) (fun _ => rfl) fun _ meter => by cases meter <;> rfl

theorem counts_invalidations :
    Counts ttls (count fun c => { c with invalidations := c.invalidations + 1 }) .invalidations :=
  counts_modify (fun _ => rfl) (fun _ => rfl) fun _ meter => by cases meter <;> rfl

theorem counts_rebuilds :
    Counts ttls (count fun c => { c with rebuilds := c.rebuilds + 1 }) .rebuilds :=
  counts_modify (fun _ => rfl) (fun _ => rfl) fun _ meter => by cases meter <;> rfl

theorem counts_drops : Counts ttls (count fun c => { c with drops := c.drops + 1 }) .drops :=
  counts_modify (fun _ => rfl) (fun _ => rfl) fun _ meter => by cases meter <;> rfl

theorem counts_asked (request : Request) : Counts ttls (note (.asked request)) .asked :=
  counts_modify (fun _ => rfl) (fun _ => rfl) fun _ meter => by
    cases meter <;>
      simp [World.reading, World.record, Happening.isAsked, Happening.isFetched, List.countP_cons]

theorem counts_fetched (kind : Kind) : Counts ttls (note (.fetched kind)) (.fetched kind) :=
  counts_modify (fun _ => rfl) (fun _ => rfl) fun _ meter => by
    cases meter <;>
      simp [World.reading, World.record, Happening.isAsked, Happening.isFetched,
        List.countP_cons, eq_comm]

/-! ## Calls of the store -/

theorem isFree_log (level : Level) (text : String) : IsFree ttls (log level text) := by
  intro world hworld
  exact ⟨.ok (), _, .none, rfl, ⟨hworld.outages_eq, hworld.inRange⟩,
    world.adds_record world.store rfl fun _ => rfl, ⟨(), rfl⟩, rfl⟩

theorem isFree_get (key : String) : IsFree ttls (get key) := by
  intro world hworld
  rw [get, hworld.fails_eq, if_neg Bool.false_ne_true]
  exact ⟨.ok _, _, .none, rfl, ⟨hworld.outages_eq, hworld.inRange⟩,
    world.adds_record _ rfl fun _ => rfl, ⟨_, rfl⟩, rfl⟩

theorem isFree_set {key : String} {value : Json} {ttl : Span}
    (hrange : ∀ now, ttls.InRange now → now + ttl.nanos < Store.clockEnd) :
    IsFree ttls (set key value ttl) := by
  intro world hworld
  rw [set, hworld.fails_eq, if_neg Bool.false_ne_true, Store.set_eq,
    if_pos (hrange _ hworld.inRange)]
  exact ⟨.ok (), _, .none, rfl, ⟨hworld.outages_eq, hworld.inRange⟩,
    world.adds_record _ rfl fun _ => rfl, ⟨(), rfl⟩, rfl⟩

theorem isFree_set_document (key : String) (value : Json) (kind : Kind) :
    IsFree ttls (set key value (ttls.ofKind kind)) :=
  isFree_set fun _ hrange => hrange.ofKind kind

theorem isFree_delete (key : String) : IsFree ttls (delete key) := by
  intro world hworld
  rw [delete, hworld.fails_eq, if_neg Bool.false_ne_true]
  exact ⟨.ok _, _, .none, rfl, ⟨hworld.outages_eq, hworld.inRange⟩,
    world.adds_record _ rfl fun _ => rfl, ⟨_, rfl⟩, rfl⟩

/-- A pattern may be one that cannot be read. -/
theorem uses_deletePattern (pattern : String) :
    Uses ttls (deletePattern pattern) fun _ usage => usage = .none := by
  intro world hworld
  rw [deletePattern, hworld.fails_eq, if_neg Bool.false_ne_true]
  cases world.store.deletePattern world.now pattern with
  | ok removal =>
    exact ⟨.ok _, _, .none, rfl, ⟨hworld.outages_eq, hworld.inRange⟩,
      world.adds_record _ rfl fun _ => rfl, rfl⟩
  | error cause =>
    exact ⟨.error _, _, .none, rfl, ⟨hworld.outages_eq, hworld.inRange⟩,
      world.adds_record _ rfl fun _ => rfl, rfl⟩

end CacheM

end ProjectCache
