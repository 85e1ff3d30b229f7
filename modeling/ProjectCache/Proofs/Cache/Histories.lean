/-
# ProjectCache.Proofs.Cache.Histories — every history of a cache keeps it coherent.

A history starts with an empty store and carries out one legal operation after the other, on any
projects whose identifiers are plain text for keys and patterns. Each operation keeps the store of
its own project coherent and leaves the entries of other projects alone, so that the stores of all
projects are coherent in every state that a history reaches (`World.Reachable`).
-/
import ProjectCache.Cache.Operation
import ProjectCache.Proofs.Cache.Coherence
import ProjectCache.Proofs.Cache.Isolation
import ProjectCache.Proofs.Turn

namespace ProjectCache

variable {now : Nat} {project key : String} {ttls : Ttls} {kind : Kind} {store reached : Store}

/-! ## Stores of many projects -/

/-- The store is coherent for every regular project. -/
def Store.Consistent (store : Store) (now : Nat) : Prop :=
  ∀ project, Key.Regular project → store.Coherent now project

/-- What happens to one project is of no concern to the others. -/
theorem Store.Consistent.of_agreesOutside (h : store.Consistent now) (hproject : Key.Regular project)
    (hagrees : store.AgreesOutside now project reached)
    (hcoherent : reached.Coherent now project) : reached.Consistent now := by
  intro other hother
  -- a key of the other project in this one's scope would make the identifiers the same
  by_cases heq : other = project
  · exact heq ▸ hcoherent
  · refine (h other hother).congr fun key hkey => hagrees key fun hscope => heq ?_
    exact Key.eq_of_inScope hother.colon_not_mem hproject.colon_not_mem hkey hscope

namespace Cache

/-- Reading a document through the cache keeps all projects coherent, also when the fetch fails. -/
theorem ensures_get_consistent {backend : Option String} {fetch : Fetch kind}
    (hproject : Key.Regular project)
    (hfetch : (fetch (requestFor kind project backend)).Fetches
      fun result => ∀ value, result = .ok value → kind.Plain value)
    (h : store.Consistent now) (ttls : Ttls) :
    CacheM.Ensures now store (get ttls kind project backend fetch)
      fun _ reached => reached.Consistent now := by
  refine (ensures_get hfetch ttls now store).mono ?_
  rintro result reached (⟨key, hkey, hcreated⟩ | ⟨-, rfl⟩)
  · refine h.of_agreesOutside hproject (hcreated.agreesOutside hkey) ?_
    exact hcreated.coherent hkey (fun value hvalue => hvalue value rfl) (h project hproject)
  · exact h

/-- A repair makes the bundle agree with documents that were changed. -/
theorem Repaired.consistent {changed : Store} {requested : Option String}
    {built : Except Error Bool}
    (h : Repaired ttls now project requested changed built reached) (hrange : ttls.InRange now)
    (hproject : Key.Regular project) (hstore : store.Consistent now)
    (hagrees : store.AgreesOutside now project changed) (htyped : changed.Typed now project) :
    reached.Consistent now :=
  hstore.of_agreesOutside hproject (hagrees.trans h.agreesOutside) (h.coherent hrange htyped)

theorem Refreshed.consistent {document : Document} {backend : Option String}
    {result : Except Error Unit}
    (h : Refreshed ttls now project document backend store result reached)
    (hrange : ttls.InRange now) (hproject : Key.Regular project)
    (hplain : document.kind.Plain document.value) (hstore : store.Consistent now) :
    reached.Consistent now := by
  cases h with
  | keyless => exact hstore
  | refused => exact hstore
  | repaired hkey _ hreached =>
    refine hreached.consistent hrange hproject hstore (.put (Key.entry_inScope hkey) store _) ?_
    exact (hstore project hproject).typed.put ttls document.kind hkey hplain

/-- When fetching a document anew succeeds, the bundle has been repaired. -/
theorem Refetched.consistent {backend : Option String} {outcome : Except Error kind.Value → Prop}
    {value : kind.Value}
    (h : Refetched ttls now kind project backend outcome store (.ok value) reached)
    (hrange : ttls.InRange now) (hproject : Key.Regular project)
    (hplain : ∀ value, outcome (.ok value) → kind.Plain value) (hstore : store.Consistent now) :
    reached.Consistent now := by
  generalize hresult : Except.ok value = result at h
  cases h with
  | keyless => cases hresult
  | failed => cases hresult
  | repaired hkey hfetched _ hreached =>
    refine hreached.consistent hrange hproject hstore (.put (Key.entry_inScope hkey) store _) ?_
    exact (hstore project hproject).typed.put ttls kind hkey (hplain _ hfetched)

theorem Invalidated.consistent {backend : Option String} {result : Except Error Unit}
    (h : Invalidated ttls now kind project backend store result reached)
    (hrange : ttls.InRange now) (hproject : Key.Regular project) (hstore : store.Consistent now) :
    reached.Consistent now := by
  cases h with
  | repaired hkey hreached =>
    refine hreached.consistent hrange hproject hstore (.drop (Key.entry_inScope hkey) store) ?_
    exact (hstore project hproject).typed.drop _
  | @rosters tokens _ _ htokens =>
    have hscope : ∀ key, Glob.acceptsText tokens key = true → Key.InScope project key :=
      fun key => hproject.inScope_of_teamPattern htokens
    refine hstore.of_agreesOutside hproject
      (.trans (.without hscope store) (.drop (Key.bundle_inScope project) _)) ?_
    refine (((hstore project hproject).typed.without tokens).drop _).coherent ?_
    rw [Store.live?_drop, if_pos rfl]
  | unreadable => exact hstore

/-- With all documents of a project its bundle goes. -/
theorem consistent_without {tokens : List Glob.Token} (hproject : Key.Regular project)
    (htokens : Glob.ofText (Key.projectPattern project) = .ok tokens)
    (hstore : store.Consistent now) : (store.without tokens).Consistent now := by
  have hscope : ∀ key, Glob.acceptsText tokens key = true → Key.InScope project key := by
    intro key hkey
    obtain ⟨rest, hrest, -⟩ := (hproject.accepts_projectPattern htokens).1 hkey
    exact ⟨rest, hrest⟩
  have hbundle : Glob.acceptsText tokens (Key.bundle project) = true := by
    refine (hproject.accepts_projectPattern htokens).2 ⟨Key.bundleName, rfl, ?_⟩
    simp [Key.bundleName]
  refine hstore.of_agreesOutside hproject (.without hscope store) ?_
  refine ((hstore project hproject).typed.without tokens).coherent ?_
  rw [Store.live?_without, if_pos hbundle]

end Cache

/-! ## Turns -/

namespace Turn

/-- What follows a read keeps all projects coherent when it does so from every such store. -/
theorem ensures_get_bind {β : Type} {backend : Option String} {fetch : Fetch kind}
    {f : kind.Value → CacheM β} (hproject : Key.Regular project)
    (hfetch : (fetch (Cache.requestFor kind project backend)).Fetches
      fun result => ∀ value, result = .ok value → kind.Plain value)
    (h : store.Consistent now)
    (hf : ∀ value reached, reached.Consistent now →
      CacheM.Ensures now reached (f value) fun _ last => last.Consistent now) :
    CacheM.Ensures now store (Cache.get ttls kind project backend fetch >>= f)
      fun _ reached => reached.Consistent now :=
  (Cache.ensures_get_consistent hproject hfetch h ttls).bind hf fun _ _ hreached => hreached

theorem ensures_load_consistent {source : Source} (hproject : Key.Regular project)
    (hplain : source.Plain) (h : store.Consistent now) (ttls : Ttls) :
    CacheM.Ensures now store (load ttls source project)
      fun _ reached => reached.Consistent now := by
  unfold load
  refine (resolve_fetches source project now store).bind ?_ fun _ _ hreached => hreached.2 ▸ h
  rintro resolved _ ⟨hresolved, rfl⟩
  obtain ⟨hdata, hcontentBase, hinlineAgent⟩ := hresolved resolved rfl
  replace hdata := hplain .data _ _ hdata
  replace hcontentBase := hplain .contentBase _ _ hcontentBase
  replace hinlineAgent := hplain .inlineAgent _ _ hinlineAgent
  refine ensures_get_bind hproject (CacheM.fetches_pure hdata) h fun data _ h => ?_
  cases Project.agentsBackend data <|> resolved.project.agentsBackend with
  | none => exact CacheM.ensures_throw h
  | some backend =>
    refine ensures_get_bind hproject (CacheM.fetches_pure hcontentBase) h fun contentBase _ h => ?_
    refine ensures_get_bind hproject (fetches_source hplain .instructions _) h
      fun instructions _ h => ?_
    refine ensures_get_bind hproject (fetches_source hplain .agent _) h fun agent _ h => ?_
    refine ensures_get_bind hproject (fetches_source hplain .team _) h fun team _ h => ?_
    refine ensures_get_bind hproject (fetches_source hplain .guardrails _) h
      fun guardrails _ h => ?_
    cases hinline : resolved.inlineAgent with
    | none => exact CacheM.ensures_pure h
    | some inlineAgent =>
      refine ensures_get_bind hproject (CacheM.fetches_pure ?_) h fun _ _ h => CacheM.ensures_pure h
      exact fun a ha => hinlineAgent a (hinline.trans ha)

end Turn

/-! ## Histories -/

namespace Operation

/-- What callers owe: identifiers are regular, and documents that are fetched or pushed are plain.
Fetch functions may fail. -/
def Legal : Operation → Prop
  | .get kind project backend fetch | .refreshWith kind project backend fetch =>
    Key.Regular project ∧ (fetch (Cache.requestFor kind project backend)).Fetches
      fun result => ∀ value, result = .ok value → kind.Plain value
  | .getBundle source project _ | .turn source project => Key.Regular project ∧ source.Plain
  | .refresh project document _ => Key.Regular project ∧ document.kind.Plain document.value
  | .invalidate _ project _ | .invalidateProject project | .rebuildBundle project _ =>
    Key.Regular project
  | .setWorkflow .. | .getWorkflow .. | .clearWorkflow .. => False

/-- Does a failure break the rules? -/
def mustSucceed : Operation → Prop
  | .refreshWith .. => True
  | _ => False

/-- One legal operation keeps all projects coherent. -/
theorem ensures_run_consistent {operation : Operation} {config : CacheConfig}
    (hlegal : operation.Legal) (hrange : config.ttls.InRange now) (h : store.Consistent now) :
    CacheM.Ensures now store (operation.run config) fun result reached =>
      (operation.mustSucceed → ∃ answer, result = .ok answer) → reached.Unexpired now →
        reached.Consistent now := by
  cases operation with
  | get kind project backend fetch =>
    refine CacheM.Ensures.map ?_
    exact (Cache.ensures_get_consistent hlegal.1 hlegal.2 h config.ttls).mono
      fun _ _ hreached _ _ => hreached
  | getBundle source project backend =>
    refine CacheM.Ensures.map ((Cache.ensures_getBundle hrange store source project backend).mono ?_)
    intro result reached hbundled _ hunexpired
    exact h.of_agreesOutside hlegal.1 hbundled.agreesOutside
      (hbundled.coherent hlegal.2 (h project hlegal.1) hunexpired)
  | turn source project =>
    refine CacheM.Ensures.map ?_
    exact (Turn.ensures_prepare (Turn.ensures_load_consistent hlegal.1 hlegal.2 h config.ttls)
      config.slow).mono
      fun _ _ hreached _ _ => hreached
  | invalidate kind project backend =>
    refine CacheM.Ensures.map ((Cache.ensures_invalidate config.ttls now store kind project
      backend).mono ?_)
    exact fun _ _ hinvalidated _ _ => hinvalidated.consistent hrange hlegal h
  | invalidateProject project =>
    refine CacheM.Ensures.map ((Cache.ensures_invalidateProject now store project).mono ?_)
    rintro _ _ (⟨tokens, htokens, -, rfl⟩ | ⟨-, rfl⟩) _ _
    · exact Cache.consistent_without hlegal htokens h
    · exact h
  | refresh project document backend =>
    refine CacheM.Ensures.map ((Cache.ensures_refresh config.ttls now store project document
      backend).mono ?_)
    exact fun _ _ hrefreshed _ _ => hrefreshed.consistent hrange hlegal.1 hlegal.2 h
  | refreshWith kind project backend fetch =>
    refine CacheM.Ensures.map ((Cache.ensures_refreshWith hlegal.2 config.ttls now store).mono ?_)
    intro result reached hrefetched hsucceeds _
    -- after a failure the bundle may be incomplete, and the rules leave that case out
    cases result with
    | ok value =>
      exact hrefetched.consistent hrange hlegal.1 (fun value hvalue => hvalue value rfl) h
    | error e =>
      obtain ⟨answer, hanswer⟩ := hsucceeds trivial
      cases hanswer
  | rebuildBundle project backend =>
    refine CacheM.Ensures.map ((Cache.ensures_rebuildBundle config.ttls now store project
      backend).mono ?_)
    intro built reached hrebuilt _ _
    refine h.of_agreesOutside hlegal hrebuilt.agreesOutside ?_
    have hcoherent := h project hlegal
    cases hrebuilt with
    | stored hbundle => exact Cache.coherent_put_assembled hcoherent.typed hbundle
    | refused _ hbeyond => exact absurd hrange.bundle hbeyond
    | missing hsifted =>
      exact hcoherent.congr fun key _ => hcoherent.typed.live?_sifted hsifted key
  | setWorkflow => exact hlegal.elim
  | getWorkflow => exact hlegal.elim
  | clearWorkflow => exact hlegal.elim

end Operation

/-- The states that histories reach. They start with an empty store, time passes between operations,
and no entry is ever past its deadline. -/
inductive World.Reachable (config : CacheConfig) : World → Prop where
  | start (now : Nat) : Reachable config { now }
  | wait {world : World} {later : Nat} (hworld : Reachable config world) (hle : world.now ≤ later)
      (hunexpired : world.store.Unexpired later) : Reachable config { world with now := later }
  | step {world world' : World} {operation : Operation} {result : Except Error Answer}
      (hworld : Reachable config world) (hlegal : operation.Legal)
      (hrange : config.ttls.InRange world.now)
      (hrun : operation.run config world = CacheM.ending result world')
      (hsucceeds : operation.mustSucceed → ∃ answer, result = .ok answer)
      (hunexpired : world'.store.Unexpired world'.now) : Reachable config world'

/-- The stores of all regular projects are coherent in every state of a history. -/
theorem World.Reachable.consistent {config : CacheConfig} {world : World}
    (h : world.Reachable config) :
    world.outages = [] ∧ world.store.Unexpired world.now ∧ world.store.Consistent world.now := by
  -- by induction on the history; coherence of all regular projects is the invariant, and that no
  -- entry is past its deadline carries it over the time that passes
  induction h with
  | start now =>
    exact ⟨rfl, fun key entry hfind => (nomatch hfind),
      fun project _ => Store.coherent_empty now project⟩
  | @wait world later hworld hle hunexpired ih =>
    obtain ⟨houtages, hnow, hconsistent⟩ := ih
    refine ⟨houtages, hunexpired, fun project hproject => ?_⟩
    refine (hconsistent project hproject).congr fun key _ => ?_
    show world.store.live? later key = world.store.live? world.now key
    rw [Store.live?_of_unexpired hunexpired, Store.live?_of_unexpired hnow]
  | @step world world' operation result hworld hlegal hrange hrun hsucceeds hunexpired ih =>
    obtain ⟨houtages, -, hconsistent⟩ := ih
    obtain ⟨reached, hcalm, hreached⟩ :=
      (Operation.ensures_run_consistent hlegal hrange hconsistent).of_ending
        ⟨rfl, houtages, rfl⟩ hrun
    obtain ⟨hnow, houtages', rfl⟩ := hcalm
    rw [hnow] at hunexpired ⊢
    exact ⟨houtages', hunexpired, hreached hsucceeds hunexpired⟩

/-- Whenever a history reaches a state with a bundle of a project, the bundle decodes, it names the
backend of its roster, its two copies of the settings agree, and its four parts are stored beside it,
as they are written. -/
theorem World.Reachable.bundle_agrees_with_documents {config : CacheConfig} {world : World}
    (h : world.Reachable config) {project : String} (hproject : Key.Regular project) {json : Json}
    (hbundle : (world.store.get world.now (Key.bundle project)).1 = some json) :
    ∃ bundle backend, Bundle.decode json = .ok bundle ∧ bundle.agentsBackend = some backend ∧
      bundle.project = bundle.data ∧
      (world.store.get world.now (Key.plain project .data)).1 = some bundle.data.encode ∧
      (world.store.get world.now (Key.plain project .contentBase)).1
        = some bundle.contentBase.encode ∧
      (world.store.get world.now (Key.team project backend)).1
        = some (Kind.encode .team bundle.team) ∧
      (world.store.get world.now (Key.plain project .guardrails)).1
        = some bundle.guardrails.encode := by
  obtain ⟨-, -, hconsistent⟩ := h.consistent
  rw [Store.get_fst, Option.map_eq_some_iff] at hbundle
  obtain ⟨entry, hlive, rfl⟩ := hbundle
  obtain ⟨bundle, backend, hdecode, hbacks⟩ := (hconsistent project hproject).bundled entry hlive
  simp only [Store.get_fst]
  exact ⟨bundle, backend, hdecode, hbacks.agentsBackend, hbacks.project_eq, hbacks.data,
    hbacks.contentBase, hbacks.team, hbacks.guardrails⟩

theorem World.Reachable.bundle_agrees_of_lone : ∃ world json,
    World.Reachable {} world ∧ Key.Regular "p" ∧
    (world.store.get world.now (Key.bundle "p")).1 = some json ∧
    ∃ bundle backend, Bundle.decode json = .ok bundle ∧ bundle.agentsBackend = some backend ∧
      bundle.project = bundle.data ∧
      (world.store.get world.now (Key.plain "p" .data)).1 = some bundle.data.encode ∧
      (world.store.get world.now (Key.plain "p" .contentBase)).1
        = some bundle.contentBase.encode ∧
      (world.store.get world.now (Key.team "p" backend)).1
        = some (Kind.encode .team bundle.team) ∧
      (world.store.get world.now (Key.plain "p" .guardrails)).1
        = some bundle.guardrails.encode := by
  obtain ⟨answer, world, hrun, hunexpired, hbundle⟩ : ∃ answer world,
      Operation.run {} (.getBundle (.sole .lone) "p" none) { now := 0 } = .ok answer world ∧
      world.store.Unexpired world.now ∧
      (world.store.get world.now (Key.bundle "p")).1.isSome := by decide +kernel
  obtain ⟨json, hjson⟩ := Option.isSome_iff_exists.1 hbundle
  have hregular : Key.Regular "p" := by
    intro c hc
    have hc : c = 'p' := by simpa using hc
    rw [hc]
    decide
  have hlegal : Operation.Legal (.getBundle (.sole .lone) "p" none) :=
    ⟨hregular, Source.plain_sole Project.plain_lone⟩
  have hend : Operation.run {} (.getBundle (.sole .lone) "p" none) { now := 0 }
      = CacheM.ending (.ok answer) world := hrun
  have hreachable : World.Reachable {} world :=
    .step (.start 0) hlegal Ttls.inRange_default hend (fun h => h.elim) hunexpired
  exact ⟨world, json, hreachable, hregular, hjson,
    World.Reachable.bundle_agrees_with_documents hreachable hregular hjson⟩

end ProjectCache
