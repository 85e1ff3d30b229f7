/-
# ProjectCache.Proofs.Cache.Lookup — what looking up a document does to a world.

A document that is found changes nothing but the count of hits and the trace (`World.hit`). When none
is found the key is cleared, a miss is counted and the fetch function is asked (`World.missed`); what
it comes up with is stored (`World.keep`). A fetch function *inquires* when it leaves the cache alone
and happens elsewhere (`CacheM.Inquires`). `Cache.Lookup` lists the ways in which reading through the
cache can then go, with the whole world that is left, and `Cache.get_present_or_fetched` says what
callers make of it.
-/
import ProjectCache.Proofs.Cache.Conduct

namespace ProjectCache

variable {α β : Type} {ttls : Ttls} {kind : Kind} {project key : String} {backend : Option String}
  {request : Request} {world world' last : World}

/-! ## What the trace tells -/

namespace Happening

/-- The call of the store that was made, with its key or pattern. -/
def storeCall? : Happening → Option (StoreCall × String)
  | got key _ => some (.get, key)
  | stored key _ _ _ => some (.set, key)
  | deleted key _ => some (.delete, key)
  | deletedPattern pattern _ => some (.deletePattern, pattern)
  | asked _ | fetched _ | performed _ | logged _ _ => none

/-- What a fetch function was asked for. -/
def request? : Happening → Option Request
  | asked request => some request
  | _ => none

/-- The kind of document that a source was asked for. -/
def fetchedKind? : Happening → Option Kind
  | fetched kind => some kind
  | _ => none

/-- It happened away from the cache: the store was not called, and no fetch function asked. -/
structure Apart (happening : Happening) : Prop where
  storeCall?_eq : happening.storeCall? = none
  request?_eq : happening.request? = none

theorem apart_fetched (kind : Kind) : (fetched kind).Apart := ⟨rfl, rfl⟩

theorem apart_logged (level : Level) (text : String) : (logged level text).Apart := ⟨rfl, rfl⟩

theorem filterMap_request?_of_apart {events : List Happening} (h : ∀ event ∈ events, event.Apart) :
    events.filterMap request? = [] :=
  List.filterMap_eq_nil_iff.2 fun event hevent => (h event hevent).request?_eq

end Happening

namespace World

/-- What fetch functions were asked for, the latest first. -/
def requests (world : World) : List Request := world.trace.filterMap Happening.request?

/-- The world after some events. -/
def after (world : World) (events : List Happening) : World :=
  { world with trace := events ++ world.trace }

/-- The world after a document was found under the key. -/
def hit (world : World) (key : String) : World :=
  { world with
    counters := { world.counters with hits := world.counters.hits + 1 }
    trace := .got key (.ok true) :: world.trace }

/-- The world after the key was deleted. -/
def removed (world : World) (key : String) : World :=
  { world with
    store := world.store.drop key
    trace := .deleted key (.ok (world.store.live? world.now key).isSome) :: world.trace }

/-- What happens when a key holds no document: what is stored there is deleted. -/
def clearing (world : World) (key : String) : List Happening :=
  if (world.store.live? world.now key).isSome then
    [.deleted key (.ok true), .dropped, .got key (.ok true)]
  else [.got key (.ok false)]

/-- The world after no document was found under the key, in which the fetch function is asked. -/
def missed (world : World) (key : String) (request : Request) : World :=
  { world with
    store := world.store.drop key
    counters := { world.counters with misses := world.counters.misses + 1 }
    trace := .asked request :: (world.clearing key ++ world.trace) }

/-- The world after a document was stored under the key. -/
def keep (world : World) (ttls : Ttls) (kind : Kind) (key : String) (value : kind.Value) : World :=
  { world with
    store := world.store.put key (ttls.entry world.now kind value)
    trace := .stored key (kind.encode value) (ttls.ofKind kind) (.ok ()) :: world.trace }

theorem after_after (world : World) (events more : List Happening) :
    (world.after events).after more = world.after (more ++ events) := by
  simp [after]

theorem requests_after {events : List Happening} (h : ∀ event ∈ events, event.Apart) (world : World) :
    (world.after events).requests = world.requests := by
  rw [requests, after, List.filterMap_append, Happening.filterMap_request?_of_apart h,
    List.nil_append]
  rfl

@[simp] theorem requests_keep (world : World) (key : String) (value : kind.Value) :
    (world.keep ttls kind key value).requests = world.requests := rfl

@[simp] theorem requests_missed (world : World) (key : String) (request : Request) :
    (world.missed key request).requests = request :: world.requests := by
  have hclearing : (world.clearing key).filterMap Happening.request? = [] := by
    unfold clearing
    split <;> rfl
  have htrace : (world.missed key request).requests
      = request :: (world.clearing key ++ world.trace).filterMap Happening.request? := rfl
  rw [htrace, List.filterMap_append, hclearing]
  rfl

end World

namespace CacheM

/-- The operation leaves the cache alone, and its result satisfies the condition: all that happens
happens apart from the cache. -/
def Inquires (m : CacheM α) (outcome : Except Error α → Prop) : Prop :=
  ∀ world, ∃ result events, m world = ending result (world.after events) ∧
    (∀ event ∈ events, event.Apart) ∧ outcome result

variable {m : CacheM α} {outcome : Except Error α → Prop}

theorem inquires_pure {a : α} (h : outcome (.ok a)) : (pure a : CacheM α).Inquires outcome :=
  fun _ => ⟨.ok a, [], rfl, nofun, h⟩

/-- What follows an inquiry that has an answer is an inquiry, too. -/
theorem Inquires.bind {f : α → CacheM β} {goal : Except Error β → Prop} (hm : m.Inquires outcome)
    (hok : ∀ a, outcome (.ok a) → (f a).Inquires goal)
    (herror : ∀ e, outcome (.error e) → goal (.error e)) : (m >>= f).Inquires goal := by
  intro world
  obtain ⟨answer, events, hrun, hevents, houtcome⟩ := hm world
  rcases answer with e | a
  · exact ⟨.error e, events, bind_of_error hrun, hevents, herror e houtcome⟩
  · obtain ⟨result, more, hrun', hmore, hgoal⟩ := hok a houtcome (world.after events)
    refine ⟨result, more ++ events, ?_, ?_, hgoal⟩
    · rw [bind_of_ok hrun, hrun', World.after_after]
    · intro event hevent
      rcases List.mem_append.1 hevent with hevent | hevent
      · exact hmore event hevent
      · exact hevents event hevent

end CacheM

/-- A source that is asked for a document answers. -/
theorem Source.fetch_inquires (source : Source) (kind : Kind) (request : Request) :
    (source.fetch kind request).Inquires (· = source.answer kind request) := by
  intro world
  refine ⟨source.answer kind request, [.fetched kind], ?_, ?_, rfl⟩
  · have hnote : CacheM.note (.fetched kind) world = .ok () (world.after [.fetched kind]) := rfl
    rw [fetch, CacheM.bind_of_ok hnote]
    cases source.answer kind request <;> rfl
  · intro event hevent
    obtain rfl := List.mem_singleton.1 hevent
    exact Happening.apart_fetched kind

/-- What follows the question to a source is an inquiry when it is one for each answer. -/
theorem Source.inquires_fetch_bind (source : Source) (kind : Kind) (request : Request)
    {f : kind.Value → CacheM β} {goal : Except Error β → Prop}
    (hok : ∀ value, source.answer kind request = .ok value → (f value).Inquires goal)
    (herror : ∀ e, source.answer kind request = .error e → goal (.error e)) :
    (source.fetch kind request >>= f).Inquires goal := by
  refine (source.fetch_inquires kind request).bind ?_ ?_
  · exact fun value hvalue => hok value hvalue.symm
  · exact fun e he => herror e he.symm

namespace Cache

/-! ## Reading -/

/-- A document that has a key is looked up under it. -/
theorem get_eq (hkey : Key.entry project kind backend = .ok key) (ttls : Ttls) (fetch : Fetch kind) :
    get ttls kind project backend fetch
      = getOrCreate ttls kind key (requestFor kind project backend) fetch := by
  rw [get, hkey]
  rfl

/-- A key is removed, whether it is live or not. -/
theorem delete_eq (world : World) (houtages : world.outages = []) (key : String) :
    CacheM.delete key world
      = .ok (world.store.live? world.now key).isSome (world.removed key) := by
  have hcalm : world.Calm world.now world.store := ⟨rfl, houtages, rfl⟩
  rw [CacheM.delete, hcalm.fails_eq, if_neg Bool.false_ne_true]
  rfl

section Reading

variable (houtages : world.outages = [])

include houtages

/-- A call on a live key finds its value. -/
theorem get_of_live {entry : Entry} (hlive : world.store.live? world.now key = some entry) :
    CacheM.get key world = .ok (some entry.value) (world.record (.got key (.ok true))) := by
  have hcalm : world.Calm world.now world.store := ⟨rfl, houtages, rfl⟩
  have hfound : world.store.get world.now key = (some entry.value, world.store) := by
    apply Prod.ext
    · simp [Store.get_fst, hlive]
    · simp [Store.get_snd, hlive]
  rw [CacheM.get, hcalm.fails_eq, if_neg Bool.false_ne_true, hfound]
  rfl

/-- A call on a key that is not live clears it. -/
theorem get_of_dead (hdead : world.store.live? world.now key = none) :
    CacheM.get key world = .ok none
      ({ world with store := world.store.drop key }.record (.got key (.ok false))) := by
  have hcalm : world.Calm world.now world.store := ⟨rfl, houtages, rfl⟩
  have hfound : world.store.get world.now key = (none, world.store.drop key) := by
    apply Prod.ext
    · simp [Store.get_fst, hdead]
    · simp [Store.get_snd, hdead]
  rw [CacheM.get, hcalm.fails_eq, if_neg Bool.false_ne_true, hfound]
  rfl

/-- A document that is found is returned, and nothing else happens. -/
theorem read_of_document? {decode : Decoder α} {value : α}
    (hvalue : world.store.document? decode world.now key = some value) :
    read decode key world = .ok (some value) (world.record (.got key (.ok true))) := by
  obtain ⟨entry, hlive, hdecode⟩ := Store.document?_eq_some.1 hvalue
  rw [read, CacheM.bind_of_ok (get_of_live houtages hlive)]
  simp only [hdecode]
  rfl

/-- When no document is found the key is cleared. -/
theorem read_of_missing {decode : Decoder α}
    (hmissing : world.store.document? decode world.now key = none) :
    read decode key world = .ok none
      { world with store := world.store.drop key, trace := world.clearing key ++ world.trace } := by
  rcases hlive : world.store.live? world.now key with _ | entry
  · rw [read, CacheM.bind_of_ok (get_of_dead houtages hlive), World.clearing, hlive]
    rfl
  · -- a live entry that is no document does not decode, and is deleted on the way
    obtain ⟨e, hdecode⟩ : ∃ e, decode entry.value = .error e := by
      rcases hdecode : decode entry.value with e | value
      · exact ⟨e, rfl⟩
      · cases hmissing.symm.trans (Store.document?_of_live hlive hdecode)
    have hlogged : CacheM.log .warn "Dropping cache entry that no longer decodes"
        (world.record (.got key (.ok true)))
          = .ok () ((world.record (.got key (.ok true))).record .dropped) := rfl
    have hdeleted := delete_eq ((world.record (.got key (.ok true))).record .dropped) houtages key
    rw [read, CacheM.bind_of_ok (get_of_live houtages hlive)]
    simp only [hdecode]
    rw [CacheM.bind_of_ok hlogged, CacheM.bind_of_ok hdeleted, World.removed, World.record,
      World.record, World.clearing, hlive]
    rfl

/-- A document that is found is returned, whatever the fetch function would do. -/
theorem get_of_document? (hkey : Key.entry project kind backend = .ok key) {value : kind.Value}
    (hvalue : world.store.document? kind.decode world.now key = some value) (ttls : Ttls)
    (fetch : Fetch kind) :
    get ttls kind project backend fetch world = .ok value (world.hit key) := by
  rw [get_eq hkey, getOrCreate, CacheM.bind_of_ok (read_of_document? houtages hvalue)]
  rfl

/-- When no document is found the fetch function is applied once, and what it comes up with is
stored. -/
theorem get_of_missing (hkey : Key.entry project kind backend = .ok key)
    (hmissing : world.store.document? kind.decode world.now key = none) (ttls : Ttls)
    (fetch : Fetch kind) :
    get ttls kind project backend fetch world
      = (do
          let value ← fetch (requestFor kind project backend)
          CacheM.set key (kind.encode value) (ttls.ofKind kind)
          return value) (world.missed key (requestFor kind project backend)) := by
  rw [get_eq hkey, getOrCreate, CacheM.bind_of_ok (read_of_missing houtages hmissing)]
  rfl

end Reading

theorem set_of_inRange (world : World) (houtages : world.outages = [])
    (hrange : world.now + (ttls.ofKind kind).nanos < Store.clockEnd) (key : String)
    (value : kind.Value) :
    CacheM.set key (kind.encode value) (ttls.ofKind kind) world
      = .ok () (world.keep ttls kind key value) := by
  have hcalm : world.Calm world.now world.store := ⟨rfl, houtages, rfl⟩
  rw [CacheM.set, hcalm.fails_eq, if_neg Bool.false_ne_true, Store.set_eq, if_pos hrange]
  rfl

/-! ## Looking up a document -/

/-- The ways in which reading through the cache can go, with the world that each leaves. -/
inductive Lookup (ttls : Ttls) (kind : Kind) (key : String) (request : Request) (fetch : Fetch kind)
    (outcome : Except Error kind.Value → Prop) (world : World) :
    Except Error kind.Value → World → Prop where
  /-- The document is there. -/
  | hit {value : kind.Value}
      (hvalue : world.store.document? kind.decode world.now key = some value) :
      Lookup ttls kind key request fetch outcome world (.ok value) (world.hit key)
  /-- The document is missing, and cannot be fetched. -/
  | failed {e : Error} {events : List Happening}
      (hmissing : world.store.document? kind.decode world.now key = none)
      (hasked : fetch request (world.missed key request)
        = .error e ((world.missed key request).after events))
      (hevents : ∀ event ∈ events, event.Apart) (houtcome : outcome (.error e)) :
      Lookup ttls kind key request fetch outcome world (.error e)
        ((world.missed key request).after events)
  /-- The document is missing, and is fetched and stored. -/
  | created {value : kind.Value} {events : List Happening}
      (hmissing : world.store.document? kind.decode world.now key = none)
      (hasked : fetch request (world.missed key request)
        = .ok value ((world.missed key request).after events))
      (hevents : ∀ event ∈ events, event.Apart) (houtcome : outcome (.ok value)) :
      Lookup ttls kind key request fetch outcome world (.ok value)
        (((world.missed key request).after events).keep ttls kind key value)

section Lookup

variable {fetch : Fetch kind} {outcome : Except Error kind.Value → Prop}
  {result : Except Error kind.Value} (hkey : Key.entry project kind backend = .ok key)
  (hfetch : (fetch (requestFor kind project backend)).Inquires outcome)
  (hrange : world.now + (ttls.ofKind kind).nanos < Store.clockEnd) (houtages : world.outages = [])

include hkey hfetch hrange houtages

/-- Reading through the cache goes in one of these ways. -/
theorem lookup_of_get
    (hrun : get ttls kind project backend fetch world = CacheM.ending result world') :
    Lookup ttls kind key (requestFor kind project backend) fetch outcome world result world' := by
  rcases hdocument : world.store.document? kind.decode world.now key with _ | value
  · rw [get_of_missing houtages hkey hdocument] at hrun
    obtain ⟨answer, events, hanswer, hevents, houtcome⟩ :=
      hfetch (world.missed key (requestFor kind project backend))
    rcases answer with e | value
    · rw [CacheM.bind_of_error hanswer] at hrun
      obtain ⟨rfl, rfl⟩ :=
        CacheM.ending_inj (show CacheM.ending (.error e) _ = CacheM.ending result world' from hrun)
      exact .failed hdocument hanswer hevents houtcome
    · have hset := set_of_inRange
        ((world.missed key (requestFor kind project backend)).after events) houtages hrange key value
      rw [CacheM.bind_of_ok hanswer, CacheM.bind_of_ok hset] at hrun
      obtain ⟨rfl, rfl⟩ :=
        CacheM.ending_inj (show CacheM.ending (.ok value) _ = CacheM.ending result world' from hrun)
      exact .created hdocument hanswer hevents houtcome
  · rw [get_of_document? houtages hkey hdocument] at hrun
    obtain ⟨rfl, rfl⟩ :=
      CacheM.ending_inj (show CacheM.ending (.ok value) _ = CacheM.ending result world' from hrun)
    exact .hit hdocument

/-- Reading through the cache comes to an end in one of these ways. -/
theorem exists_lookup : ∃ result world',
    get ttls kind project backend fetch world = CacheM.ending result world' ∧
      Lookup ttls kind key (requestFor kind project backend) fetch outcome world result world' := by
  obtain ⟨result, world', hrun⟩ :=
    CacheM.ending_surjective (get ttls kind project backend fetch world)
  exact ⟨result, world', hrun, lookup_of_get hkey hfetch hrange houtages hrun⟩

end Lookup

/-- Reading a document through the cache, whatever the store holds under its key and whatever the fetch
function comes to. A document that is there is returned; no fetch function has a part in it, and the
store stays as it is. Otherwise the fetch function is asked once, for what the call is for: its
document is returned and is the new entry of the key, and its failure is returned and leaves no entry.
Other keys keep their entries, and a document in the store never makes the call fail to decode. -/
theorem get_present_or_fetched {fetch : Fetch kind}
    (hkey : Key.entry project kind backend = .ok key)
    (hfetch : (fetch (requestFor kind project backend)).Inquires fun _ => True)
    (hrange : world.now + (ttls.ofKind kind).nanos < Store.clockEnd)
    (houtages : world.outages = []) :
    (∀ value, world.store.document? kind.decode world.now key = some value →
      ∃ world', (∀ fetch', get ttls kind project backend fetch' world = .ok value world') ∧
        world'.requests = world.requests ∧ world'.store = world.store) ∧
    (world.store.document? kind.decode world.now key = none →
      ∃ asked : World, asked.requests = requestFor kind project backend :: world.requests ∧
        (∀ fetch', get ttls kind project backend fetch' world
          = (do
              let value ← fetch' (requestFor kind project backend)
              CacheM.set key (kind.encode value) (ttls.ofKind kind)
              return value) asked) ∧
        ∃ result answered world',
          fetch (requestFor kind project backend) asked = CacheM.ending result answered ∧
          get ttls kind project backend fetch world = CacheM.ending result world' ∧
          world'.requests = asked.requests ∧
          world'.store.entries.find? key = result.toOption.map (ttls.entry world.now kind) ∧
          ∀ other, other ≠ key →
            world'.store.entries.find? other = world.store.entries.find? other) ∧
    ∀ cause world', get ttls kind project backend fetch world = .error (.decoding cause) world' →
      ∃ asked answered,
        fetch (requestFor kind project backend) asked = .error (.decoding cause) answered := by
  refine ⟨?_, ?_, ?_⟩
  · intro value hvalue
    exact ⟨world.hit key, get_of_document? houtages hkey hvalue ttls, rfl, rfl⟩
  · intro hmissing
    refine ⟨world.missed key (requestFor kind project backend), World.requests_missed _ _ _,
      get_of_missing houtages hkey hmissing ttls, ?_⟩
    obtain ⟨result, world', hrun, hlookup⟩ := exists_lookup hkey hfetch hrange houtages
    rcases hlookup with hvalue | ⟨-, hasked, hevents, -⟩ | ⟨-, hasked, hevents, -⟩
    · cases hmissing.symm.trans hvalue
    · refine ⟨.error _, _, _, hasked, hrun, World.requests_after hevents _, ?_, ?_⟩
      · simp [World.after, World.missed, Except.toOption]
      · intro other hother
        simp [World.after, World.missed, hother]
    · refine ⟨.ok _, _, _, hasked, hrun, ?_, ?_, ?_⟩
      · rw [World.requests_keep, World.requests_after hevents]
      · simp [World.keep, World.after, World.missed, Except.toOption]
      · intro other hother
        simp [World.keep, World.after, World.missed, hother.symm]
  · intro cause world' hrun
    rcases lookup_of_get hkey hfetch hrange houtages
      (show _ = CacheM.ending (.error (.decoding cause)) world' from hrun) with _ | ⟨-, hasked, -, -⟩
    exact ⟨_, _, hasked⟩

/-- An agent that is known to be absent is found, and settings that are no settings are fetched. -/
theorem get_present_or_fetched_of_null :
    let world : World :=
      { now := 0
        store := (Store.empty.put (Key.plain "p" .agent) ⟨.null, 1⟩).put (Key.plain "p" .data)
          ⟨.null, 1⟩ }
    (∃ world', (∀ fetch, get .default .agent "p" none fetch world = .ok none world') ∧
      world'.requests = [] ∧ world'.store = world.store) ∧
    ∃ world', get .default .data "p" none (fun _ => pure .lone) world = .ok .lone world' ∧
      world'.requests = [⟨"p", none⟩] ∧
      world'.store.entries.find? (Key.plain "p" .data) = some (Ttls.default.entry 0 .data .lone) := by
  intro world
  have hinRange := Ttls.inRange_default.ofKind
  refine ⟨?_, ?_⟩
  · have hfetch : (pure none : CacheM (Option Personality)).Inquires fun _ => True :=
      CacheM.inquires_pure trivial
    have hkey : Key.entry "p" .agent none = .ok (Key.plain "p" .agent) := rfl
    have hagent := @get_present_or_fetched .default .agent "p" _ none world (fun _ => pure none)
      hkey hfetch (hinRange .agent) rfl
    exact hagent.1 none (by decide +kernel)
  · have hfetch : (pure .lone : CacheM Project).Inquires fun _ => True :=
      CacheM.inquires_pure trivial
    have hkey : Key.entry "p" .data none = .ok (Key.plain "p" .data) := rfl
    have hdata := @get_present_or_fetched .default .data "p" _ none world (fun _ => pure .lone)
      hkey hfetch (hinRange .data) rfl
    obtain ⟨asked, hasked, -, result, answered, world', hanswer, hrun, hrequests, hentry, -⟩ :=
      hdata.2.1 (by decide +kernel)
    obtain ⟨rfl, -⟩ := CacheM.ending_inj
      (show CacheM.ending (.ok Project.lone) asked = CacheM.ending result answered from hanswer)
    exact ⟨world', hrun, hrequests.trans hasked, hentry⟩

end Cache

end ProjectCache
