/-
# ProjectCache.Proofs.Cache.Region — operations keep to the keys of their owner.

An operation *keeps to* a region of keys when nothing outside of it matters: from two stores with the
same entries in the region it comes to the same result and again to stores with the same entries
there, and outside it leaves every entry as it is (`CacheM.KeepsTo`). Entries that are dead count like
the others. The calls of a store keep to each region that has their key, or all keys that their pattern
matches, and what is put together from operations that keep to a region keeps to it. So every operation
on a project or a workflow keeps to any region that has what belongs to its owner
(`Operation.keepsTo_run`).
-/
import ProjectCache.Proofs.Cache.Conduct
import ProjectCache.Proofs.Cache.Sweep

namespace ProjectCache

/-- A set of keys. -/
abbrev Region := String → Prop

/-- All keys that the pattern matches are in the region, or it is no pattern. -/
def Region.Spans (region : Region) (pattern : String) : Prop :=
  ∀ tokens, Glob.ofText pattern = .ok tokens →
    ∀ key, Glob.acceptsText tokens key = true → region key

variable {α β : Type} {region : Region} {now : Nat} {store other : Store} {key : String}

/-! ## Stores that agree on a region -/

namespace Store

/-- Under the keys of the region both stores have the same entries, dead ones included. -/
def AgreesOn (store : Store) (region : Region) (other : Store) : Prop :=
  ∀ key, region key → store.entries.find? key = other.entries.find? key

namespace AgreesOn

variable {last : Store}

theorem refl (store : Store) (region : Region) : store.AgreesOn region store :=
  fun _ _ => rfl

theorem trans (h : store.AgreesOn region other) (h' : other.AgreesOn region last) :
    store.AgreesOn region last :=
  fun key hkey => (h key hkey).trans (h' key hkey)

theorem live?_eq (h : store.AgreesOn region other) (hkey : region key) (now : Nat) :
    store.live? now key = other.live? now key := by
  rw [live?, live?, h key hkey]

/-! The same change keeps stores in agreement, and a change in the region is none outside of it. -/

theorem put (h : store.AgreesOn region other) (key : String) (entry : Entry) :
    (store.put key entry).AgreesOn region (other.put key entry) := by
  intro k hk
  rw [find?_put, find?_put, h k hk]

theorem drop (h : store.AgreesOn region other) (key : String) :
    (store.drop key).AgreesOn region (other.drop key) := by
  intro k hk
  rw [find?_drop, find?_drop, h k hk]

theorem without (h : store.AgreesOn region other) (tokens : List Glob.Token) :
    (store.without tokens).AgreesOn region (other.without tokens) := by
  intro k hk
  rw [find?_without, find?_without, h k hk]

theorem put_outside (hkey : region key) (store : Store) (entry : Entry) :
    store.AgreesOn (¬ region ·) (store.put key entry) := by
  intro k hk
  rw [find?_put, if_neg]
  rintro rfl
  exact hk hkey

theorem drop_outside (hkey : region key) (store : Store) :
    store.AgreesOn (¬ region ·) (store.drop key) := by
  intro k hk
  rw [find?_drop, if_neg]
  rintro rfl
  exact hk hkey

theorem without_outside {tokens : List Glob.Token}
    (h : ∀ key, Glob.acceptsText tokens key = true → region key) (store : Store) :
    store.AgreesOn (¬ region ·) (store.without tokens) := by
  intro k hk
  rw [find?_without, if_neg fun haccepts => hk (h k haccepts)]

/-- A pattern of the region counts the same keys in both stores. -/
theorem matchCount_eq (h : store.AgreesOn region other) {tokens : List Glob.Token}
    (htokens : ∀ key, Glob.acceptsText tokens key = true → region key) (now : Nat) :
    store.matchCount now tokens = other.matchCount now tokens := by
  rw [matchCount, matchCount]
  congr 1
  apply Keyed.ext_find?
  intro k
  rw [Keyed.find?_filter, Keyed.find?_filter, find?_liveEntries, find?_liveEntries]
  cases haccepts : Glob.acceptsText tokens k with
  | true => rw [h.live?_eq (htokens k haccepts)]
  | false => cases store.live? now k <;> cases other.live? now k <;> rfl

end AgreesOn

theorem ofText_of_readPattern {pattern : String} {tokens : List Glob.Token}
    (h : readPattern pattern = .ok tokens) : Glob.ofText pattern = .ok tokens := by
  unfold readPattern at h
  split at h
  · cases h
  · cases h
  · rename_i hpattern
    rw [hpattern, Except.ok.inj h]

end Store

/-! ## Operations that keep to a region -/

namespace CacheM

/-- From this store the operation comes to the result and leaves the second store. -/
def EndsIn (now : Nat) (store : Store) (m : CacheM α) (result : Except Error α)
    (reached : Store) : Prop :=
  Ensures now store m fun r s => r = result ∧ s = reached

/-- The operation keeps to the region: what it comes to, and the entries that it leaves in the region,
depend on the entries in the region alone, and the others stay as they are. -/
def KeepsTo (region : Region) (m : CacheM α) : Prop :=
  ∀ (now : Nat) (store other : Store), store.AgreesOn region other →
    ∃ result reached reached', EndsIn now store m result reached ∧
      EndsIn now other m result reached' ∧ reached.AgreesOn region reached' ∧
      store.AgreesOn (¬ region ·) reached

section Rules

variable {m : CacheM α} {f : α → CacheM β}

/-! ### Putting operations together -/

theorem EndsIn.bind_ok {a : α} {middle reached : Store} {result : Except Error β}
    (hm : EndsIn now store m (.ok a) middle) (hf : EndsIn now middle (f a) result reached) :
    EndsIn now store (m >>= f) result reached :=
  Yields.bind hm hf

theorem EndsIn.bind_error {e : Error} {reached : Store}
    (hm : EndsIn now store m (.error e) reached) :
    EndsIn now store (m >>= f) (.error e) reached := by
  refine Ensures.bind hm ?_ ?_
  · rintro a _ ⟨h, -⟩
    cases h
  · rintro _ _ ⟨h, rfl⟩
    cases h
    exact ⟨rfl, rfl⟩

/-- What an operation can end with is the end of a run. -/
theorem EndsIn.attained {result : Except Error α} {reached : Store}
    (h : EndsIn now store m result reached) : ∃ world world', m world = ending result world' := by
  obtain ⟨result', _, world', hrun, -, rfl, -⟩ := h { now, store } ⟨rfl, rfl, rfl⟩
  exact ⟨_, world', hrun⟩

/-- What keeps to a region one after the other keeps to it. -/
theorem KeepsTo.bind (hm : m.KeepsTo region)
    (hf : ∀ a world world', m world = .ok a world' → (f a).KeepsTo region) :
    (m >>= f).KeepsTo region := by
  intro now store other hagrees
  obtain ⟨result, middle, middle', hends, hends', hmiddle, houtside⟩ := hm now store other hagrees
  cases result with
  | error e =>
    exact ⟨.error e, middle, middle', hends.bind_error, hends'.bind_error, hmiddle, houtside⟩
  | ok a =>
    obtain ⟨world, world', hrun⟩ := hends.attained
    obtain ⟨last, reached, reached', hlast, hlast', hreached, houtside'⟩ :=
      hf a world world' hrun now middle middle' hmiddle
    exact ⟨last, reached, reached', hends.bind_ok hlast, hends'.bind_ok hlast', hreached,
      houtside.trans houtside'⟩

/-- What leaves the store alone, with the same result from every store, keeps to any region. -/
theorem keepsTo_of_ends {result : Except Error α} (h : ∀ now store, EndsIn now store m result store) :
    m.KeepsTo region :=
  fun now store other hagrees =>
    ⟨result, store, other, h now store, h now other, hagrees, .refl store _⟩

theorem keepsTo_pure (a : α) : (pure a : CacheM α).KeepsTo region :=
  keepsTo_of_ends fun _ _ => yields_pure a

theorem keepsTo_throw (e : Error) : (throw e : CacheM α).KeepsTo region :=
  keepsTo_of_ends fun _ _ => ensures_throw ⟨rfl, rfl⟩

theorem keepsTo_note (happening : Happening) : (note happening).KeepsTo region :=
  keepsTo_of_ends fun _ _ => yields_note happening

theorem keepsTo_count (change : Counters → Counters) : (count change).KeepsTo region :=
  keepsTo_of_ends fun _ _ => yields_count change

theorem KeepsTo.map (hm : m.KeepsTo region) (g : α → β) : (g <$> m).KeepsTo region := by
  show (m >>= fun a => pure (g a)).KeepsTo region
  exact hm.bind fun a _ _ _ => keepsTo_pure (g a)

/-- Log lines do not matter. -/
theorem KeepsTo.reported {m' : CacheM α} (hm : m.KeepsTo region) (h : m.Reports m') :
    m'.KeepsTo region := by
  have hends : ∀ {now store result reached}, EndsIn now store m result reached →
      EndsIn now store m' result reached := by
    intro now store result reached hend world hworld
    obtain ⟨_, _, last, hrun, hcalm, rfl, rfl⟩ := hend world hworld
    obtain ⟨lines, -, hlines⟩ := h world _ last hrun
    exact ⟨_, _, _, hlines, ⟨hcalm.now_eq, hcalm.outages_eq, hcalm.store_eq⟩, rfl, rfl⟩
  intro now store other hagrees
  obtain ⟨result, reached, reached', hstore, hother, hreached⟩ := hm now store other hagrees
  exact ⟨result, reached, reached', hends hstore, hends hother, hreached⟩

/-- A fetch whose outcome is settled keeps to any region. -/
theorem Fetches.keepsTo {outcome : Except Error α} (h : m.Fetches (· = outcome)) :
    m.KeepsTo region :=
  keepsTo_of_ends h

/-! ### Calls of the store -/

theorem keepsTo_get (hkey : region key) : (get key).KeepsTo region := by
  intro now store other hagrees
  have hother : EndsIn now other (get key) (.ok ((store.live? now key).map Entry.value))
      (if (store.live? now key).isSome then other else other.drop key) := by
    rw [hagrees.live?_eq hkey now]
    exact yields_get key
  refine ⟨_, _, _, yields_get key, hother, ?_, ?_⟩
  · split
    · exact hagrees
    · exact hagrees.drop key
  · split
    · exact .refl store _
    · exact .drop_outside hkey store

theorem keepsTo_set (hkey : region key) (value : Json) (ttl : Span) :
    (set key value ttl).KeepsTo region := by
  intro now store other hagrees
  by_cases hrange : now + ttl.nanos < Store.clockEnd
  · exact ⟨_, _, _, yields_set hrange, yields_set hrange, hagrees.put key _,
      .put_outside hkey store _⟩
  · have hrefused : ∀ store, EndsIn now store (set key value ttl)
        (.error (.configuration (.ttlOutOfRange ttl key))) store :=
      fun store => ensures_set (fun h => absurd h hrange) fun _ => ⟨rfl, rfl⟩
    exact ⟨_, _, _, hrefused store, hrefused other, hagrees, .refl store _⟩

theorem keepsTo_delete (hkey : region key) : (delete key).KeepsTo region := by
  intro now store other hagrees
  have hother : EndsIn now other (delete key) (.ok (store.live? now key).isSome)
      (other.drop key) := by
    rw [hagrees.live?_eq hkey now]
    exact yields_delete key
  exact ⟨_, _, _, yields_delete key, hother, hagrees.drop key, .drop_outside hkey store⟩

/-- A pattern that can be read removes what it matches. -/
theorem endsIn_deletePattern {pattern : String} {tokens : List Glob.Token}
    (hpattern : Store.readPattern pattern = .ok tokens) (now : Nat) (store : Store) :
    EndsIn now store (deletePattern pattern) (.ok (store.matchCount now tokens))
      (store.without tokens) := by
  intro world hworld
  cases hworld.now_eq
  cases hworld.store_eq
  rw [deletePattern, hworld.fails_eq, if_neg Bool.false_ne_true, Store.deletePattern_eq, hpattern]
  exact ⟨_, _, _, rfl, (hworld.withStore _).record _, rfl, rfl⟩

/-- A pattern that cannot be read changes nothing. -/
theorem endsIn_deletePattern_error {pattern : String} {cause : Misconfiguration}
    (hpattern : Store.readPattern pattern = .error cause) (now : Nat) (store : Store) :
    EndsIn now store (deletePattern pattern) (.error (.configuration cause)) store := by
  intro world hworld
  cases hworld.now_eq
  cases hworld.store_eq
  rw [deletePattern, hworld.fails_eq, if_neg Bool.false_ne_true, Store.deletePattern_eq, hpattern]
  exact ⟨_, _, _, rfl, hworld.record _, rfl, rfl⟩

theorem keepsTo_deletePattern {pattern : String} (hspans : region.Spans pattern) :
    (deletePattern pattern).KeepsTo region := by
  cases hpattern : Store.readPattern pattern with
  | error cause => exact keepsTo_of_ends (endsIn_deletePattern_error hpattern)
  | ok tokens =>
    intro now store other hagrees
    have hmatched := hspans tokens (Store.ofText_of_readPattern hpattern)
    have hother := endsIn_deletePattern hpattern now other
    rw [← hagrees.matchCount_eq hmatched now] at hother
    exact ⟨_, _, _, endsIn_deletePattern hpattern now store, hother, hagrees.without tokens,
      .without_outside hmatched store⟩

end Rules

end CacheM

/-! ## Operations -/

/-- The region has what belongs to a project. -/
structure Region.HasProject (region : Region) (project : String) : Prop where
  scope : ∀ key, Key.InScope project key → region key
  documents : region.Spans (Key.projectPattern project)
  rosters : region.Spans (Key.teamPattern project)

/-- The region has what belongs to a workflow. -/
structure Region.HasWorkflow (region : Region) (id : String) : Prop where
  states : ∀ dataType, region (Key.workflow id dataType)
  all : region.Spans (Key.workflowPattern id)

/-- The region has what belongs to the owner. -/
def Region.Has (region : Region) : Owner → Prop
  | .project uuid => region.HasProject uuid
  | .workflow id => region.HasWorkflow id

/-- Any documents may be stored, and fetches have a settled outcome. -/
def Terms.settled (ttls : Ttls) : Terms where
  ttls := ttls
  Good _ _ := True
  Fetchable _ m := ∃ outcome, m.Fetches (· = outcome)
  good_of_decode _ := trivial
  good_of_fetch _ _ := trivial

namespace Cache

theorem keepsTo_read (decode : Decoder α) (hkey : region key) :
    (read decode key).KeepsTo region := by
  unfold read
  refine (CacheM.keepsTo_get hkey).bind fun found _ _ _ => ?_
  cases found with
  | none => exact CacheM.keepsTo_pure none
  | some raw =>
    cases hraw : decode raw with
    | ok value =>
      simp only [hraw]
      exact CacheM.keepsTo_pure (some value)
    | error e =>
      simp only [hraw]
      refine (CacheM.keepsTo_note _).bind fun _ _ _ _ => ?_
      exact (CacheM.keepsTo_delete hkey).bind fun _ _ _ _ => CacheM.keepsTo_pure none

/-- An operation that is made of steps on a project keeps to what belongs to the project. -/
theorem Conduct.keepsTo {ttls : Ttls} {project : String} {m : CacheM α} {returns : α → Prop}
    (h : Conduct (.settled ttls) project m returns) (hregion : region.HasProject project) :
    m.KeepsTo region := by
  have hbundle : region (Key.bundle project) := hregion.scope _ (Key.bundle_inScope project)
  -- by induction on the conduct; each step has its keys, or what its pattern matches, in the region
  induction h with
  | value => exact CacheM.keepsTo_pure _
  | failure e => exact CacheM.keepsTo_throw e
  | counted change => exact CacheM.keepsTo_count change
  | asked | fetched => exact CacheM.keepsTo_note _
  | fetch hfetch => exact hfetch.choose_spec.keepsTo
  | read hkey => exact keepsTo_read _ (hregion.scope _ (Key.entry_inScope hkey))
  | readBundle => exact keepsTo_read _ hbundle
  | write hkey => exact CacheM.keepsTo_set (hregion.scope _ (Key.entry_inScope hkey)) _ _
  | writeBundle => exact CacheM.keepsTo_set hbundle _ _
  | delete hkey => exact CacheM.keepsTo_delete (hregion.scope _ hkey)
  | deleteRosters => exact CacheM.keepsTo_deletePattern hregion.rosters
  | deleteAll => exact CacheM.keepsTo_deletePattern hregion.documents
  | andThen hm _ ihm ihf => exact ihm.bind fun a _ _ hrun => ihf a (hm.returns hrun)
  | reported _ hreports ih => exact ih.reported hreports

end Cache

theorem Workflow.keepsTo_get {id dataType : String} (decode : Decoder α)
    (hkey : region (Key.workflow id dataType)) : (get decode id dataType).KeepsTo region := by
  unfold get
  refine (CacheM.keepsTo_get hkey).bind fun found _ _ _ => ?_
  cases found with
  | none => exact CacheM.keepsTo_pure none
  | some raw =>
    cases hraw : decode raw with
    | ok value =>
      simp only [hraw]
      exact CacheM.keepsTo_pure (some value)
    | error e =>
      simp only [hraw]
      exact CacheM.keepsTo_throw (.decoding e)

namespace Operation

/-- Fetch functions that are handed over leave the store alone, and it is settled what they come to. -/
def Settled : Operation → Prop
  | .get kind project backend fetch | .refreshWith kind project backend fetch =>
    ∃ outcome, (fetch (Cache.requestFor kind project backend)).Fetches (· = outcome)
  | _ => True

theorem Settled.keeps {operation : Operation} (h : operation.Settled) (ttls : Ttls) :
    operation.Keeps (.settled ttls) := by
  cases operation with
  | get | refreshWith => exact h
  | getBundle | turn => exact fun _ _ _ _ => trivial
  | _ => trivial

/-- An operation keeps to any region that has what belongs to its owner. -/
theorem keepsTo_run {operation : Operation} (hsettled : operation.Settled)
    (hregion : region.Has operation.owner) (config : CacheConfig) :
    (operation.run config).KeepsTo region := by
  cases howner : operation.owner with
  | project uuid =>
    rw [howner] at hregion
    exact (conduct_run howner rfl (hsettled.keeps config.ttls)).keepsTo hregion
  | workflow id =>
    rw [howner] at hregion
    cases operation <;> cases howner
    case workflow.setWorkflow.refl dataType value =>
      exact (CacheM.keepsTo_set (hregion.states dataType) value config.workflowTtl).map _
    case workflow.getWorkflow.refl form dataType =>
      exact (Workflow.keepsTo_get form (hregion.states dataType)).map _
    case workflow.clearWorkflow.refl => exact (CacheM.keepsTo_deletePattern hregion.all).map _

end Operation

end ProjectCache
