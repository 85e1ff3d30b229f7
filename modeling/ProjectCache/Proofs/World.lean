/-
# ProjectCache.Proofs.World — what operations ensure in a world without outages.

`CacheM.Ensures` is the contract of an operation: from every world with a given clock reading and
store, and with no outages, it comes to a result and a store for which a condition holds; the clock
stands still and no outage appears. Counters and the trace are left open, since no operation reads
them. There is one rule for each call of the store, and rules for putting operations together.
-/
import ProjectCache.Proofs.Store
import ProjectCache.World

namespace ProjectCache

variable {α β : Type} {now : Nat} {store store' : Store}

/-- The world has this clock reading and this store, and no outages. -/
structure World.Calm (world : World) (now : Nat) (store : Store) : Prop where
  now_eq : world.now = now
  outages_eq : world.outages = []
  store_eq : world.store = store

namespace World.Calm

variable {world : World}

theorem fails_eq (h : world.Calm now store) (call : StoreCall) (key : String) :
    world.fails call key = false := by
  rw [fails, h.outages_eq]
  rfl

theorem record (h : world.Calm now store) (happening : Happening) :
    (world.record happening).Calm now store :=
  ⟨h.now_eq, h.outages_eq, h.store_eq⟩

theorem withStore (h : world.Calm now store) (store' : Store) :
    ({ world with store := store' } : World).Calm now store' :=
  ⟨h.now_eq, h.outages_eq, rfl⟩

end World.Calm

/-! ## What happens between two worlds -/

namespace World

variable {start mid last : World} {permitted : Happening → Prop}

/-- From the first world to the second only such things have happened. -/
def Undergoes (start : World) (permitted : Happening → Prop) (last : World) : Prop :=
  ∃ events, last.trace = events ++ start.trace ∧ ∀ event ∈ events, permitted event

theorem Undergoes.refl (start : World) : start.Undergoes permitted start := ⟨[], rfl, nofun⟩

theorem Undergoes.mono {other : Happening → Prop} (h : start.Undergoes permitted last)
    (himp : ∀ event, permitted event → other event) : start.Undergoes other last := by
  obtain ⟨events, htrace, hevents⟩ := h
  exact ⟨events, htrace, fun event hevent => himp event (hevents event hevent)⟩

/-- More such things may happen afterwards. -/
theorem Undergoes.append (h : start.Undergoes permitted mid) (events : List Happening)
    (htrace : last.trace = events ++ mid.trace) (hevents : ∀ event ∈ events, permitted event) :
    start.Undergoes permitted last := by
  obtain ⟨earlier, hmid, hearlier⟩ := h
  refine ⟨events ++ earlier, by rw [htrace, hmid, List.append_assoc], ?_⟩
  intro event hevent
  rcases List.mem_append.1 hevent with hevent | hevent
  · exact hevents event hevent
  · exact hearlier event hevent

end World

namespace CacheM

/-- A result and the world in which it was reached. -/
def ending : Except Error α → World → EStateM.Result Error World α
  | .ok a, world => .ok a world
  | .error e, world => .error e world

theorem ending_inj {result result' : Except Error α} {world world' : World}
    (h : ending result world = ending result' world') : result = result' ∧ world = world' := by
  cases result <;> cases result' <;> cases h <;> exact ⟨rfl, rfl⟩

/-- From every calm world with this clock reading and store, the operation comes to a result and a
store for which the condition holds. -/
def Ensures (now : Nat) (store : Store) (m : CacheM α)
    (post : Except Error α → Store → Prop) : Prop :=
  ∀ world : World, world.Calm now store → ∃ result store' world',
    m world = ending result world' ∧ world'.Calm now store' ∧ post result store'

/-- The operation returns a value and leaves a store, both of which are known. -/
def Yields (now : Nat) (store : Store) (m : CacheM α) (a : α) (store' : Store) : Prop :=
  Ensures now store m fun result reached => result = .ok a ∧ reached = store'

/-! ## Runs from one world -/

/-- What holds of a run that does not fail can be computed. -/
instance (m : CacheM α) (world : World) (P : α → World → Prop) [∀ a world, Decidable (P a world)] :
    Decidable (∃ a world', m world = .ok a world' ∧ P a world') :=
  match h : m world with
  | .ok a world' => decidable_of_iff (P a world') <| by
    constructor
    · exact fun hP => ⟨a, world', rfl, hP⟩
    · rintro ⟨_, _, hok, hP⟩
      cases hok
      exact hP
  | .error e world' => isFalse <| by
    rintro ⟨_, _, hok, -⟩
    cases hok

/-- What holds of the end of a run can be computed. -/
instance (m : CacheM α) (world : World) (P : Except Error α → World → Prop)
    [∀ result world, Decidable (P result world)] :
    Decidable (∃ result world', m world = ending result world' ∧ P result world') :=
  match h : m world with
  | .ok a world' => decidable_of_iff (P (.ok a) world') <| by
    constructor
    · exact fun hP => ⟨.ok a, world', rfl, hP⟩
    · rintro ⟨result, last, hend, hP⟩
      obtain ⟨rfl, rfl⟩ := ending_inj (show ending (.ok a) world' = ending result last from hend)
      exact hP
  | .error e world' => decidable_of_iff (P (.error e) world') <| by
    constructor
    · exact fun hP => ⟨.error e, world', rfl, hP⟩
    · rintro ⟨result, last, hend, hP⟩
      obtain ⟨rfl, rfl⟩ := ending_inj (show ending (.error e) world' = ending result last from hend)
      exact hP

theorem ending_surjective (r : EStateM.Result Error World α) :
    ∃ result world, r = ending result world := by
  cases r with
  | ok a world => exact ⟨.ok a, world, rfl⟩
  | error e world => exact ⟨.error e, world, rfl⟩

/-- What follows an operation that succeeds goes on from where it ended. -/
theorem bind_of_ok {m : CacheM α} {f : α → CacheM β} {world middle : World} {a : α}
    (h : m world = .ok a middle) : (m >>= f) world = f a middle := by
  show EStateM.bind m f world = _
  rw [EStateM.bind, h]

theorem bind_of_error {m : CacheM α} {f : α → CacheM β} {world last : World} {e : Error}
    (h : m world = .error e last) : (m >>= f) world = .error e last := by
  show EStateM.bind m f world = _
  rw [EStateM.bind, h]

/-- One thing after the other ends as the second does, or as the first when that fails. -/
theorem ending_of_bind {m : CacheM α} {f : α → CacheM β} {world last : World}
    {result : Except Error β} (h : (m >>= f) world = ending result last) :
    (∃ a middle, m world = .ok a middle ∧ f a middle = ending result last) ∨
      ∃ e, m world = .error e last ∧ result = .error e := by
  cases hm : m world with
  | ok a middle =>
    rw [bind_of_ok hm] at h
    exact .inl ⟨a, middle, rfl, h⟩
  | error e middle =>
    rw [bind_of_error hm] at h
    obtain ⟨rfl, rfl⟩ := ending_inj (show ending (.error e) middle = ending result last from h)
    exact .inr ⟨e, rfl, rfl⟩

theorem ok_of_bind {m : CacheM α} {f : α → CacheM β} {world last : World} {b : β}
    (h : (m >>= f) world = .ok b last) :
    ∃ a middle, m world = .ok a middle ∧ f a middle = .ok b last := by
  obtain hok | ⟨e, -, he⟩ := ending_of_bind (show _ = ending (.ok b) last from h)
  · exact hok
  · cases he

theorem map_of_ok {m : CacheM α} {world world' : World} {a : α} (h : m world = .ok a world')
    (g : α → β) : (g <$> m) world = .ok (g a) world' := by
  show EStateM.map g m world = _
  rw [EStateM.map, h]

theorem map_of_ending {m : CacheM α} {world world' : World} {result : Except Error α}
    (h : m world = ending result world') (g : α → β) :
    (g <$> m) world = ending (result.map g) world' := by
  show EStateM.map g m world = _
  rw [EStateM.map, h]
  cases result <;> rfl

theorem ok_of_map {m : CacheM α} {g : α → β} {world last : World} {b : β}
    (h : (g <$> m) world = .ok b last) : ∃ a, m world = .ok a last ∧ g a = b := by
  have hmap : (g <$> m) world = EStateM.map g m world := rfl
  rw [hmap, EStateM.map] at h
  cases hm : m world with
  | ok a last' =>
    rw [hm] at h
    obtain ⟨rfl, rfl⟩ := EStateM.Result.ok.inj h
    exact ⟨a, rfl, rfl⟩
  | error e last' =>
    rw [hm] at h
    cases h

section Rules

variable {m : CacheM α} {f : α → CacheM β} {post : Except Error α → Store → Prop}
  {mid : Except Error α → Store → Prop} {goal : Except Error β → Store → Prop}

/-! ## Putting operations together -/

theorem Ensures.mono (hm : Ensures now store m mid)
    (h : ∀ result reached, mid result reached → post result reached) : Ensures now store m post := by
  intro world hworld
  obtain ⟨result, reached, world', hrun, hcalm, hmid⟩ := hm world hworld
  exact ⟨result, reached, world', hrun, hcalm, h result reached hmid⟩

/-- What an operation ensures holds of a run that is known. -/
theorem Ensures.of_ending (hm : Ensures now store m post) {world world' : World}
    {result : Except Error α} (hworld : world.Calm now store)
    (hrun : m world = ending result world') :
    ∃ reached, world'.Calm now reached ∧ post result reached := by
  obtain ⟨result', reached, last, hend, hcalm, hpost⟩ := hm world hworld
  obtain ⟨rfl, rfl⟩ := ending_inj (hrun.symm.trans hend)
  exact ⟨reached, hcalm, hpost⟩

theorem Ensures.and (hm : Ensures now store m mid) (hm' : Ensures now store m post) :
    Ensures now store m fun result reached => mid result reached ∧ post result reached := by
  intro world hworld
  obtain ⟨result, reached, world', hrun, hcalm, hmid⟩ := hm world hworld
  obtain ⟨reached', hcalm', hpost⟩ := hm'.of_ending hworld hrun
  obtain rfl : reached' = reached := hcalm'.store_eq.symm.trans hcalm.store_eq
  exact ⟨result, reached', world', hrun, hcalm, hmid, hpost⟩

theorem ensures_pure {a : α} (h : post (.ok a) store) : Ensures now store (pure a) post :=
  fun world hworld => ⟨.ok a, store, world, rfl, hworld, h⟩

theorem ensures_throw {e : Error} (h : post (.error e) store) : Ensures now store (throw e) post :=
  fun world hworld => ⟨.error e, store, world, rfl, hworld, h⟩

/-- What follows an operation is carried out after a value, and left out after a failure. -/
theorem Ensures.bind (hm : Ensures now store m mid)
    (hok : ∀ a reached, mid (.ok a) reached → Ensures now reached (f a) goal)
    (herror : ∀ e reached, mid (.error e) reached → goal (.error e) reached) :
    Ensures now store (m >>= f) goal := by
  intro world hworld
  obtain ⟨result, reached, world', hrun, hcalm, hmid⟩ := hm world hworld
  cases result with
  | ok a =>
    rw [bind_of_ok hrun]
    exact hok a reached hmid world' hcalm
  | error e => exact ⟨.error e, reached, world', bind_of_error hrun, hcalm, herror e reached hmid⟩

theorem Ensures.map {g : α → β}
    (hm : Ensures now store m fun result reached => goal (result.map g) reached) :
    Ensures now store (g <$> m) goal := by
  show Ensures now store (m >>= fun a => pure (g a)) goal
  refine Ensures.bind hm (fun a reached h => ensures_pure h) fun e reached h => h

/-- What follows an operation that returns a known value is carried out with the value. -/
theorem Ensures.bind_of_ok {a : α} {reaches : Store → Prop}
    (hm : Ensures now store m fun result reached => result = .ok a ∧ reaches reached)
    (hf : ∀ reached, reaches reached → Ensures now reached (f a) goal) :
    Ensures now store (m >>= f) goal := by
  refine hm.bind ?_ ?_
  · rintro _ reached ⟨h, hreached⟩
    obtain rfl : _ = a := Except.ok.inj h
    exact hf reached hreached
  · rintro e reached ⟨h, -⟩
    cases h

theorem Yields.bind {a : α} (hm : Yields now store m a store')
    (hf : Ensures now store' (f a) goal) : Ensures now store (m >>= f) goal := by
  refine Ensures.bind_of_ok hm ?_
  rintro _ rfl
  exact hf

/-! ## Steps that leave the store alone -/

theorem yields_pure (a : α) : Yields now store (pure a) a store :=
  ensures_pure ⟨rfl, rfl⟩

theorem yields_note (happening : Happening) : Yields now store (note happening) () store :=
  fun world hworld => ⟨.ok (), store, world.record happening, rfl, hworld.record happening, rfl, rfl⟩

theorem yields_log (level : Level) (text : String) : Yields now store (log level text) () store :=
  yields_note (.logged level text)

theorem yields_count (change : Counters → Counters) : Yields now store (count change) () store :=
  fun world hworld => ⟨.ok (), store, { world with counters := change world.counters }, rfl,
    ⟨hworld.now_eq, hworld.outages_eq, hworld.store_eq⟩, rfl, rfl⟩

theorem ensures_ofExcept {result : Except Error α} (h : post result store) :
    Ensures now store (ofExcept result) post := by
  cases result with
  | ok a => exact ensures_pure h
  | error e => exact ensures_throw h

/-- After a failure that is there already nothing is carried out. -/
theorem ensures_ofExcept_error_bind {e : Error} (h : goal (.error e) store) :
    Ensures now store (ofExcept (.error e) >>= f) goal :=
  fun world hworld => ⟨.error e, store, world, rfl, hworld, h⟩

/-! ## Calls of the store -/

theorem yields_get (key : String) :
    Yields now store (get key) ((store.live? now key).map Entry.value)
      (if (store.live? now key).isSome then store else store.drop key) := by
  intro world hworld
  cases hworld.now_eq
  cases hworld.store_eq
  rw [← Store.get_fst, ← Store.get_snd, get, hworld.fails_eq, if_neg Bool.false_ne_true]
  obtain ⟨found, reached⟩ := world.store.get world.now key
  exact ⟨.ok found, reached, _, rfl, (hworld.withStore reached).record _, rfl, rfl⟩

theorem ensures_set {goal : Except Error Unit → Store → Prop} {key : String} {value : Json}
    {ttl : Span}
    (hstored : now + ttl.nanos < Store.clockEnd →
      goal (.ok ()) (store.put key ⟨value, now + ttl.nanos⟩))
    (hrefused : ¬ now + ttl.nanos < Store.clockEnd →
      goal (.error (.configuration (.ttlOutOfRange ttl key))) store) :
    Ensures now store (set key value ttl) goal := by
  intro world hworld
  cases hworld.now_eq
  cases hworld.store_eq
  rw [set, hworld.fails_eq, if_neg Bool.false_ne_true, Store.set_eq]
  by_cases hrange : world.now + ttl.nanos < Store.clockEnd
  · rw [if_pos hrange]
    exact ⟨.ok (), _, _, rfl, (hworld.withStore _).record _, hstored hrange⟩
  · rw [if_neg hrange]
    exact ⟨.error _, _, _, rfl, hworld.record _, hrefused hrange⟩

theorem yields_set {key : String} {value : Json} {ttl : Span}
    (h : now + ttl.nanos < Store.clockEnd) :
    Yields now store (set key value ttl) () (store.put key ⟨value, now + ttl.nanos⟩) :=
  ensures_set (fun _ => ⟨rfl, rfl⟩) fun hrange => absurd h hrange

/-- What follows a document that is stored is carried out in the store with the document. -/
theorem ensures_set_bind {f : Unit → CacheM β} {key : String} {value : Json} {ttl : Span}
    (hstored : now + ttl.nanos < Store.clockEnd →
      Ensures now (store.put key ⟨value, now + ttl.nanos⟩) (f ()) goal)
    (hrefused : ¬ now + ttl.nanos < Store.clockEnd →
      goal (.error (.configuration (.ttlOutOfRange ttl key))) store) :
    Ensures now store (set key value ttl >>= f) goal := by
  -- the deadline decides alone, so each case is a call whose answer is known
  by_cases hrange : now + ttl.nanos < Store.clockEnd
  · exact (yields_set hrange).bind (hstored hrange)
  · have hset : Ensures now store (set key value ttl) fun result reached =>
        result = .error (.configuration (.ttlOutOfRange ttl key)) ∧ reached = store :=
      ensures_set (fun h => absurd h hrange) fun _ => ⟨rfl, rfl⟩
    refine hset.bind ?_ ?_
    · rintro _ _ ⟨h, -⟩
      cases h
    · rintro _ _ ⟨h, rfl⟩
      obtain rfl := Except.error.inj h
      exact hrefused hrange

theorem yields_delete (key : String) :
    Yields now store (delete key) (store.live? now key).isSome (store.drop key) := by
  intro world hworld
  cases hworld.now_eq
  cases hworld.store_eq
  rw [delete, hworld.fails_eq, if_neg Bool.false_ne_true]
  exact ⟨.ok _, world.store.drop key, _, rfl, (hworld.withStore _).record _, rfl, rfl⟩

/-- A pattern that can be read removes what it matches, and any other changes nothing. -/
theorem ensures_deletePattern (pattern : String) :
    Ensures now store (deletePattern pattern) fun result reached =>
      (∃ tokens, Glob.ofText pattern = .ok tokens ∧ result = .ok (store.matchCount now tokens) ∧
        reached = store.without tokens) ∨
      (∃ fault e, Glob.ofText pattern = .error fault ∧ result = .error e) ∧ reached = store := by
  intro world hworld
  cases hworld.now_eq
  cases hworld.store_eq
  rw [deletePattern, hworld.fails_eq, if_neg Bool.false_ne_true, Store.deletePattern_eq,
    Store.readPattern]
  match Glob.ofText pattern with
  | .ok tokens =>
    exact ⟨.ok _, world.store.without tokens, _, rfl, (hworld.withStore _).record _,
      .inl ⟨tokens, rfl, rfl, rfl⟩⟩
  | .error .unterminatedClass =>
    exact ⟨.error _, world.store, _, rfl, hworld.record _, .inr ⟨⟨_, _, rfl, rfl⟩, rfl⟩⟩
  | .error .invalid =>
    exact ⟨.error _, world.store, _, rfl, hworld.record _, .inr ⟨⟨_, _, rfl, rfl⟩, rfl⟩⟩

end Rules

end CacheM

/-! ## Fetch functions -/

/-- Fetching leaves the store alone and has a result that satisfies a condition. -/
def CacheM.Fetches (m : CacheM α) (outcome : Except Error α → Prop) : Prop :=
  ∀ now store, Ensures now store m fun result reached => outcome result ∧ reached = store

/-- What fetching has for a result is the result of some run. -/
theorem CacheM.Fetches.attained {m : CacheM α} {outcome : Except Error α → Prop}
    (h : m.Fetches outcome) :
    m.Fetches fun result => outcome result ∧ ∃ world world', m world = ending result world' := by
  intro now store world hworld
  obtain ⟨result, reached, world', hrun, hcalm, houtcome, hreached⟩ := h now store world hworld
  exact ⟨result, reached, world', hrun, hcalm, ⟨houtcome, world, world', hrun⟩, hreached⟩

/-- At this clock reading, fetching leaves the store alone and has a result that satisfies a
condition. -/
def CacheM.FetchesAt (now : Nat) (m : CacheM α) (outcome : Except Error α → Prop) : Prop :=
  ∀ store, Ensures now store m fun result reached => outcome result ∧ reached = store

/-- What fetching has for a result at a clock reading is the result of some run at that reading. -/
theorem CacheM.Fetches.attained_at {m : CacheM α} {outcome : Except Error α → Prop}
    (h : m.Fetches outcome) (now : Nat) :
    m.FetchesAt now fun result => outcome result ∧
      ∃ world world' : World, world.now = now ∧ m world = ending result world' := by
  intro store world hworld
  obtain ⟨result, reached, world', hrun, hcalm, houtcome, hreached⟩ := h now store world hworld
  exact ⟨result, reached, world', hrun, hcalm, ⟨houtcome, world, world', hworld.now_eq, hrun⟩,
    hreached⟩

theorem CacheM.fetches_pure {a : α} {outcome : α → Prop} (h : outcome a) :
    (pure a : CacheM α).Fetches fun result => ∀ b, result = .ok b → outcome b := by
  intro now store
  refine ensures_pure ⟨?_, rfl⟩
  intro b hb
  exact Except.ok.inj hb ▸ h

end ProjectCache
