/-
# ProjectCache.Proofs.Cache.Lifetimes — how long operations ask the store to keep things.

Every call that stores something hands a time to live over, and it is noted, whether the call succeeds
or not. Operations on a project take it from the times of the kinds and of bundles, operations on a
workflow from the time of workflows (`Operation.does_run`). The steps of an operation on a project are
gone through once (`Conduct.does`).
-/
import ProjectCache.Proofs.Cache.Conduct

namespace ProjectCache

variable {α β : Type} {permitted : Happening → Prop} {allowed : Span → Prop} {project : String}

/-- What is stored, if something is, is stored for such a time. -/
def Happening.LivesFor (allowed : Span → Prop) : Happening → Prop
  | .stored _ _ ttl _ => allowed ttl
  | _ => True

theorem Happening.LivesFor.mono {other : Span → Prop} (h : ∀ ttl, allowed ttl → other ttl)
    {happening : Happening} (hlives : happening.LivesFor allowed) : happening.LivesFor other := by
  cases happening with
  | stored key value ttl outcome => exact h ttl hlives
  | _ => trivial

namespace CacheM

/-- In every run only such things happen. -/
def Does (permitted : Happening → Prop) (m : CacheM α) : Prop :=
  ∀ world result world', m world = ending result world' → world.Undergoes permitted world'

variable {m m' : CacheM α} {f : α → CacheM β}

theorem Does.mono {other : Happening → Prop} (hm : m.Does permitted)
    (h : ∀ happening, permitted happening → other happening) : m.Does other :=
  fun world result world' hrun => (hm world result world' hrun).mono h

theorem Does.bind (hm : m.Does permitted)
    (hf : ∀ a world world', m world = .ok a world' → (f a).Does permitted) :
    (m >>= f).Does permitted := by
  intro world result world' hrun
  obtain ⟨a, middle, hfirst, hsecond⟩ | ⟨e, hfirst, -⟩ := ending_of_bind hrun
  · obtain ⟨events, htrace, hevents⟩ := hf a world middle hfirst middle result world' hsecond
    exact (hm world (.ok a) middle hfirst).append events htrace hevents
  · exact hm world (.error e) world' hfirst

theorem does_map_iff {g : α → β} : (g <$> m).Does permitted ↔ m.Does permitted := by
  constructor
  · exact fun hm world result world' hrun => hm world _ world' (map_of_ending hrun g)
  · intro hm world result world' hrun
    obtain ⟨result', last, hend⟩ := ending_surjective (m world)
    have hlast : world' = last := (ending_inj (hrun.symm.trans (map_of_ending hend g))).2
    exact hlast ▸ hm world result' last hend

/-- It is enough to follow the run from each world. -/
theorem does_ending (h : ∀ world, ∃ result world', m world = ending result world' ∧
    world.Undergoes permitted world') : m.Does permitted := by
  intro world result world' hrun
  obtain ⟨result', last, hrun', hundergoes⟩ := h world
  obtain ⟨-, rfl⟩ := ending_inj (hrun.symm.trans hrun')
  exact hundergoes

/-- A step that notes one thing, whatever it does to the store. -/
theorem does_record (h : ∀ world, ∃ result store happening,
    m world = ending result ({ world with store }.record happening) ∧ permitted happening) :
    m.Does permitted := by
  refine does_ending fun world => ?_
  obtain ⟨result, store, happening, hrun, hpermitted⟩ := h world
  refine ⟨result, _, hrun, [happening], rfl, ?_⟩
  intro event hevent
  exact List.mem_singleton.1 hevent ▸ hpermitted

theorem does_ofExcept (result : Except Error α) : (ofExcept result).Does permitted := by
  refine does_ending fun world => ⟨result, world, ?_, .refl world⟩
  cases result <;> rfl

theorem does_count (change : Counters → Counters) : (count change).Does permitted :=
  does_ending fun world => ⟨.ok (), { world with counters := change world.counters }, rfl, [], rfl,
    nofun⟩

theorem does_note {happening : Happening} (h : permitted happening) :
    (note happening).Does permitted :=
  does_record fun world => ⟨.ok (), world.store, happening, rfl, h⟩

/-! ## Calls of the store -/

theorem does_get (key : String) : (get key).Does (·.LivesFor allowed) := by
  refine does_record fun world => ?_
  unfold get
  split
  · exact ⟨.error _, world.store, _, rfl, trivial⟩
  · exact ⟨.ok _, _, _, rfl, trivial⟩

/-- A call that stores something is noted, whatever comes of it. -/
theorem exists_stored (key : String) (value : Json) (ttl : Span) (world : World) :
    ∃ result store outcome, set key value ttl world
      = ending result ({ world with store }.record (.stored key value ttl outcome)) := by
  unfold set
  split
  · exact ⟨.error _, world.store, _, rfl⟩
  · cases world.store.set world.now key value ttl with
    | ok store => exact ⟨.ok (), store, _, rfl⟩
    | error cause => exact ⟨.error _, world.store, _, rfl⟩

theorem does_set {key : String} {value : Json} {ttl : Span} (h : allowed ttl) :
    (set key value ttl).Does (·.LivesFor allowed) := by
  refine does_record fun world => ?_
  obtain ⟨result, store, outcome, hrun⟩ := exists_stored key value ttl world
  exact ⟨result, store, _, hrun, h⟩

/-- What is asked for in a call is allowed if it is in every run. -/
theorem allowed_of_does_set {key : String} {value : Json} {ttl : Span}
    (h : (set key value ttl).Does (·.LivesFor allowed)) : allowed ttl := by
  obtain ⟨result, store, outcome, hrun⟩ := exists_stored key value ttl { now := 0 }
  obtain ⟨events, htrace, hevents⟩ := h _ _ _ hrun
  have hmem : Happening.stored key value ttl outcome ∈ events := by
    rw [List.append_nil] at htrace
    exact htrace ▸ List.mem_cons_self
  exact hevents _ hmem

theorem does_delete (key : String) : (delete key).Does (·.LivesFor allowed) := by
  refine does_record fun world => ?_
  unfold delete
  split
  · exact ⟨.error _, world.store, _, rfl, trivial⟩
  · exact ⟨.ok _, _, _, rfl, trivial⟩

theorem does_deletePattern (pattern : String) :
    (deletePattern pattern).Does (·.LivesFor allowed) := by
  refine does_record fun world => ?_
  unfold deletePattern
  split
  · exact ⟨.error _, world.store, _, rfl, trivial⟩
  · cases world.store.deletePattern world.now pattern with
    | ok removed => exact ⟨.ok removed.1, removed.2, _, rfl, trivial⟩
    | error cause => exact ⟨.error _, world.store, _, rfl, trivial⟩

/-- Log lines may be added. -/
theorem Does.reported (hm : m.Does (·.LivesFor allowed)) (h : m.Reports m') :
    m'.Does (·.LivesFor allowed) := by
  refine does_ending fun world => ?_
  obtain ⟨result, middle, hmiddle⟩ := ending_surjective (m world)
  obtain ⟨lines, hlines, hreported⟩ := h world result middle hmiddle
  refine ⟨result, _, hreported, (hm world result middle hmiddle).append lines rfl ?_⟩
  intro line hline
  obtain ⟨level, text, rfl, -⟩ := hlines line hline
  trivial

end CacheM

/-- Fetches that store nothing but for such times may be made, and any documents be stored. -/
def Terms.lasting (ttls : Ttls) (allowed : Span → Prop) : Terms where
  ttls := ttls
  Good _ _ := True
  Fetchable _ m := m.Does (·.LivesFor allowed)
  good_of_decode _ := trivial
  good_of_fetch _ _ := trivial

namespace Cache

theorem does_read (decode : Decoder α) (key : String) :
    (read decode key).Does (·.LivesFor allowed) := by
  refine (CacheM.does_get key).bind fun found _ _ _ => ?_
  cases found with
  | none => exact CacheM.does_ofExcept (.ok none)
  | some raw =>
    cases hraw : decode raw with
    | ok value =>
      simp only [hraw]
      exact CacheM.does_ofExcept (.ok (some value))
    | error e =>
      simp only [hraw]
      refine (CacheM.does_note trivial).bind fun _ _ _ _ => ?_
      exact (CacheM.does_delete key).bind fun _ _ _ _ => CacheM.does_ofExcept (.ok none)

/-- Steps on a project store documents and bundles for their times. -/
theorem Conduct.does {ttls : Ttls} {m : CacheM α} {returns : α → Prop}
    (h : Conduct (Terms.lasting ttls allowed) project m returns)
    (hkind : ∀ kind, allowed (ttls.ofKind kind)) (hbundle : allowed ttls.bundle) :
    m.Does (·.LivesFor allowed) := by
  induction h with
  | value => exact CacheM.does_ofExcept (.ok _)
  | failure e => exact CacheM.does_ofExcept (.error e)
  | counted change => exact CacheM.does_count change
  | asked | fetched => exact CacheM.does_note trivial
  | fetch hfetch => exact hfetch
  | read | readBundle => exact does_read _ _
  | write => exact CacheM.does_set (hkind _)
  | writeBundle => exact CacheM.does_set hbundle
  | delete => exact CacheM.does_delete _
  | deleteRosters | deleteAll => exact CacheM.does_deletePattern _
  | andThen hm _ ihm ihf => exact ihm.bind fun a _ _ hrun => ihf a (hm.returns hrun)
  | reported _ hreports ih => exact ih.reported hreports

end Cache

theorem Workflow.does_get (decode : Decoder α) (id dataType : String) :
    (Workflow.get decode id dataType).Does (·.LivesFor allowed) := by
  refine (CacheM.does_get _).bind fun found _ _ _ => ?_
  cases found with
  | none => exact CacheM.does_ofExcept (.ok none)
  | some raw =>
    cases hraw : decode raw with
    | ok value =>
      simp only [hraw]
      exact CacheM.does_ofExcept (.ok (some value))
    | error e =>
      simp only [hraw]
      exact CacheM.does_ofExcept (.error _)

namespace Operation

/-- The fetch function that callers hand over, if they do, stores nothing. It may fail. -/
def Quiet : Operation → Prop
  | .get kind project backend fetch | .refreshWith kind project backend fetch =>
    (fetch (Cache.requestFor kind project backend)).Does (·.LivesFor fun _ => False)
  | _ => True

/-- The times to live that there are for what an operation stores: those of documents and bundles on a
project, that of workflows on a workflow. -/
def LivesIn (operation : Operation) (config : CacheConfig) (ttl : Span) : Prop :=
  match operation.owner with
  | .project _ => ttl = config.ttls.bundle ∨ ∃ kind, ttl = config.ttls.ofKind kind
  | .workflow _ => ttl = config.workflowTtl

/-- Whatever an operation stores, it stores for one of its times to live. -/
theorem does_run {operation : Operation} (hquiet : operation.Quiet) (config : CacheConfig) :
    (operation.run config).Does (·.LivesFor (operation.LivesIn config)) := by
  cases howner : operation.owner with
  | project project =>
    have hkeeps : operation.Keeps (.lasting config.ttls (operation.LivesIn config)) := by
      cases operation with
      | get | refreshWith => exact hquiet.mono fun _ hlives => hlives.mono fun _ => False.elim
      | getBundle | turn => exact fun _ _ _ _ => trivial
      | _ => trivial
    refine (conduct_run howner rfl hkeeps).does (fun kind => ?_) ?_
    · rw [LivesIn, howner]
      exact .inr ⟨kind, rfl⟩
    · rw [LivesIn, howner]
      exact .inl rfl
  | workflow id =>
    cases operation with
    | setWorkflow id dataType value =>
      have hset : (Workflow.set config.workflowTtl id dataType value).Does
          (·.LivesFor fun ttl => ttl = config.workflowTtl) := CacheM.does_set rfl
      exact CacheM.does_map_iff.2 hset
    | getWorkflow form id dataType => exact CacheM.does_map_iff.2 (Workflow.does_get form id dataType)
    | clearWorkflow id => exact CacheM.does_map_iff.2 (CacheM.does_deletePattern _)
    | _ => cases howner

end Operation

end ProjectCache
