/-
# ProjectCache.Proofs.Activity.Freshness — updates reach the readers.

An update event makes the observer of its activity fetch the documents that depend on the object and
push them into the cache (`Activity.kinds`). Whatever the cache held before, readers then find what
the source has of these kinds, without fetching it, and bundles show it as well. A bundle that is
built after an update of a content base takes the settings of the project from the cache, where they
may be older than at the source.
-/
import ProjectCache.Service
import ProjectCache.Proofs.Cache.Mirror

namespace ProjectCache

variable {now later : Nat} {project : String} {ttls : Ttls} {kind : Kind} {store : Store}

namespace Activity

/-- The kinds of documents that an activity outdates. -/
def kinds : Activity → List Kind
  | .project => [.data, .inlineAgent]
  | .contentBase => [.contentBase]
  | .agent => [.agent]
  | .instructions => [.instructions]

theorem ne_team_of_mem_kinds {activity : Activity} (h : kind ∈ activity.kinds) : kind ≠ .team := by
  rintro rfl
  cases activity <;> exact absurd h (by decide)

/-- After an activity the store has the source's documents of the kinds that it outdates, the others
as before, and a bundle that shows what is stored. -/
structure Settled (activity : Activity) (source : Source) (now : Nat) (project : String)
    (before after : Store) : Prop where
  pushed : ∀ kind ∈ activity.kinds, ∀ value, source.answer kind ⟨project, none⟩ = .ok value →
    after.stored? now project kind = some value
  kept : ∀ kind, kind ≠ .team → kind ∉ activity.kinds →
    after.stored? now project kind = before.stored? now project kind
  mirrors : after.Mirrors now project

/-- A push of one kind settles an activity that outdates this kind alone. -/
theorem settled_of_pushed {activity : Activity} {source : Source} {value : kind.Value}
    {before after : Store} (hkinds : activity.kinds = [kind])
    (hanswer : source.answer kind ⟨project, none⟩ = .ok value)
    (h : before.Pushed now project kind value after) :
    activity.Settled source now project before after where
  pushed := by
    intro other hother value' hvalue'
    rw [hkinds] at hother
    obtain rfl := List.mem_singleton.1 hother
    rw [h.stored, Except.ok.inj (hanswer.symm.trans hvalue')]
  kept := by
    intro other hteam hother
    rw [hkinds] at hother
    exact h.kept other hteam fun heq => hother (List.mem_singleton.2 heq)
  mirrors := h.mirrors

section Refresh

variable {source : Source} (hplain : source.Plain) (hpositive : ttls.Positive)
  (hrange : ttls.InRange now)

include hplain hpositive hrange

theorem ensures_refresh_pushed {value : kind.Value} (hkind : kind ≠ .team)
    (hanswer : source.answer kind ⟨project, none⟩ = .ok value) (store : Store)
    (backend : Option String) :
    CacheM.Ensures now store (Cache.refresh ttls project ⟨kind, value⟩ backend)
      fun result reached => result = .ok () ∧ store.Pushed now project kind value reached :=
  (Cache.ensures_refresh ttls now store project ⟨kind, value⟩ backend).mono fun _ _ hrefreshed =>
    hrefreshed.pushed hkind (hplain kind _ value hanswer) hpositive hrange

theorem ensures_push {value : kind.Value} (hkind : kind ≠ .team)
    (hanswer : source.answer kind ⟨project, none⟩ = .ok value) (store : Store)
    (backend : Option String) :
    CacheM.Ensures now store (push ttls source kind project backend)
      fun result reached => result = .ok value ∧ store.Pushed now project kind value reached := by
  unfold push
  refine source.ensures_fetch_bind kind (fun other hother => ?_) fun e he => ?_
  · obtain rfl := Except.ok.inj (hanswer.symm.trans hother)
    refine (ensures_refresh_pushed hplain hpositive hrange hkind hanswer store backend).bind_of_ok ?_
    exact fun reached hpushed => CacheM.ensures_pure ⟨rfl, hpushed⟩
  · rw [hanswer] at he
    cases he

/-- The settings and the configuration of inline agents are pushed one after the other. -/
theorem ensures_pushProject {data : Project} {inlineAgent : Option InlineAgent}
    (hdata : source.answer .data ⟨project, none⟩ = .ok data)
    (hinlineAgent : source.answer .inlineAgent ⟨project, none⟩ = .ok inlineAgent) (store : Store) :
    CacheM.Ensures now store (pushProject ttls source project)
      fun result reached => result = .ok () ∧ ∃ middle : Store,
        store.Pushed now project .data data middle ∧
        middle.Pushed now project .inlineAgent inlineAgent reached := by
  unfold pushProject
  refine source.ensures_fetch_bind .data (fun other hother => ?_) fun e he => ?_
  · obtain rfl := Except.ok.inj (hdata.symm.trans hother)
    refine (ensures_refresh_pushed hplain hpositive hrange (by decide) hdata store _).bind_of_ok ?_
    intro middle hmiddle
    refine (ensures_push hplain hpositive hrange (by decide) hinlineAgent middle _).bind_of_ok ?_
    exact fun reached hreached => CacheM.ensures_pure ⟨rfl, middle, hmiddle, hreached⟩
  · rw [hdata] at he
    cases he

/-- What an activity does settles it, when nothing fails that it fetches. -/
theorem ensures_refresh_settled {activity : Activity}
    (hfetched : ∀ kind ∈ activity.kinds, ∃ value, source.answer kind ⟨project, none⟩ = .ok value)
    (store : Store) :
    CacheM.Ensures now store (refresh ttls source project activity)
      fun result reached => result = .ok () ∧
        activity.Settled source now project store reached := by
  -- three of the activities push one kind, and the last pushes two, one after the other
  have hpush : ∀ {activity : Activity} {kind : Kind} {value : kind.Value},
      activity.kinds = [kind] → source.answer kind ⟨project, none⟩ = .ok value →
      CacheM.Ensures now store (do let _ ← push ttls source kind project none)
        fun result reached => result = .ok () ∧
          activity.Settled source now project store reached := by
    intro activity kind value hkinds hanswer
    have hkind : kind ≠ .team := ne_team_of_mem_kinds (hkinds ▸ List.mem_singleton_self kind)
    refine (ensures_push hplain hpositive hrange hkind hanswer store none).bind_of_ok ?_
    intro reached hpushed
    exact CacheM.ensures_pure ⟨rfl, settled_of_pushed hkinds hanswer hpushed⟩
  cases activity with
  | project =>
    obtain ⟨data, hdata⟩ := hfetched .data (by decide)
    obtain ⟨inlineAgent, hinlineAgent⟩ := hfetched .inlineAgent (by decide)
    refine (ensures_pushProject hplain hpositive hrange hdata hinlineAgent store).mono ?_
    rintro result reached ⟨hresult, middle, hmiddle, hreached⟩
    refine ⟨hresult, ?_, ?_, hreached.mirrors⟩
    · intro kind hkind value hvalue
      simp only [kinds, List.mem_cons, List.not_mem_nil, or_false] at hkind
      rcases hkind with rfl | rfl
      · rw [hreached.kept .data (by decide) (by decide), hmiddle.stored,
          Except.ok.inj (hdata.symm.trans hvalue)]
      · rw [hreached.stored, Except.ok.inj (hinlineAgent.symm.trans hvalue)]
    · intro kind hteam hkind
      simp only [kinds, List.mem_cons, List.not_mem_nil, or_false, not_or] at hkind
      rw [hreached.kept kind hteam hkind.2, hmiddle.kept kind hteam hkind.1]
  | contentBase => exact hpush rfl (hfetched .contentBase (by decide)).choose_spec
  | agent => exact hpush rfl (hfetched .agent (by decide)).choose_spec
  | instructions => exact hpush rfl (hfetched .instructions (by decide)).choose_spec

end Refresh

/-- An observer whose activity is settled leaves the clock and the outages alone. -/
theorem perform_settled {activity : Activity} {source : Source} {event : Event} {world : World}
    (htarget : activity.target event = some project) (hplain : source.Plain)
    (hpositive : ttls.Positive) (hrange : ttls.InRange world.now) (houtages : world.outages = [])
    (hfetched : ∀ kind ∈ activity.kinds,
      ∃ value, source.answer kind ⟨project, none⟩ = .ok value) :
    ∃ reached, (activity.perform ttls source event world).Calm world.now reached ∧
      activity.Settled source world.now project world.store reached := by
  obtain ⟨_, reached, world', hrun, hcalm, rfl, hsettled⟩ :=
    ensures_refresh_settled hplain hpositive hrange hfetched world.store world ⟨rfl, houtages, rfl⟩
  refine ⟨reached, ?_, hsettled⟩
  rw [perform, htarget]
  simp only [hrun, CacheM.ending]
  exact hcalm

/-! ## Events -/

/-- The observers of a new bus that listen for an activity are the one of the activity. -/
theorem registered_subscribed {bus : Bus Observer} (hnew : bus.registrations = [])
    (activity : Activity) (round : Nat) :
    (all.foldl (fun bus a => bus.subscribe .async a.eventName (.activity a round) true)
      bus).registered .async activity.eventName
        = [⟨.async, activity.eventName, .activity activity round, true⟩] := by
  cases activity <;> simp [all, eventName, Bus.subscribe, Bus.registered, hnew]

/-- A single observer that ends well is all that happens on an event. -/
theorem notifyAsync_singleton {H W : Type} [DecidableEq H] {handlers : Handlers H W} {bus : Bus H}
    {event : Event} {r : Registration H} {state state' : W}
    (hregistered : bus.registered .async event.name = [r])
    (hperform : handlers.perform r.handler event state = (.done, state')) :
    bus.notifyAsync handlers event state = (.finished (.ok ()), state') := by
  have hturn : Bus.byDelay handlers [r] = [r] := rfl
  rw [Bus.notifyAsync, hregistered, hturn, Bus.runTogether, hperform]
  simp only [Bus.runTogether, Bus.settle, Bus.outcomeOf, List.find?_cons, decide_true,
    Option.map_some, Option.getD_some, Bus.resultOf]

/-- What the observers of activities come to when an event reaches the bus to which they have just
subscribed. -/
theorem notifyAsync_subscribed_of_run {service : Service} {bus bus' : Bus Observer} {event : Event}
    {ending : Ending} {world' : World} (hbus : service.bus = some bus)
    (hsubscribed : all.foldl (fun bus a =>
      bus.subscribe .async a.eventName (.activity a service.rounds) true) bus = bus')
    (hrun : bus'.notifyAsync service.handlers event service.world = (ending, world')) :
    ∃ service', service.subscribeActivities.2.step (.notifyAsync event)
        = (Service.endingReply ending, service') ∧ service'.world = world' := by
  have hservice : service.subscribeActivities.2
      = { service with bus := some bus', rounds := service.rounds + 1 } := by
    rw [Service.subscribeActivities, Service.withBus, hbus, ← hsubscribed]
  rw [hservice, Service.step, Service.observe, Service.withBus]
  refine ⟨{ service with bus := some bus', rounds := service.rounds + 1, world := world' }, ?_, rfl⟩
  -- handlers see the configuration and the source, and subscribing changes neither
  have hhandlers : { service with bus := some bus', rounds := service.rounds + 1 }.handlers
      = service.handlers := rfl
  simp only [hhandlers, hrun]

/-- On a new bus to which the observers of activities have subscribed, an event makes the observer
of its activity run, and no other. -/
theorem notifyAsync_subscribed {service : Service} {bus : Bus Observer} {event : Event}
    {activity : Activity} (hbus : service.bus = some bus) (hnew : bus.registrations = [])
    (hname : event.name = activity.eventName) :
    ∃ service', service.subscribeActivities.2.step (.notifyAsync event) = (.answer .done, service') ∧
      service'.world = activity.perform service.config.ttls service.source event service.world := by
  have hregistered := registered_subscribed hnew activity service.rounds
  rw [← hname] at hregistered
  exact notifyAsync_subscribed_of_run hbus rfl (notifyAsync_singleton hregistered rfl)

/-! ## Readers -/

/-- What a bundle shows that is read after an update: the source's documents of the kinds that the
update outdates, and twice the same settings of the project. After an update of a content base they
are the source's, or else the older ones that were stored before. -/
def ShownBy (source : Source) (project : String) (older : Option Project) (bundle : Bundle) :
    Activity → Prop
  | .project => source.answer .data ⟨project, none⟩ = .ok bundle.data ∧
    bundle.project = bundle.data ∧ source.answer .inlineAgent ⟨project, none⟩ = .ok bundle.inlineAgent
  | .contentBase => source.answer .contentBase ⟨project, none⟩ = .ok bundle.contentBase ∧
    bundle.project = bundle.data ∧
    (source.answer .data ⟨project, none⟩ = .ok bundle.data ∨ older = some bundle.data)
  | .agent | .instructions => True

theorem shownBy_of_supplies {activity : Activity} {source : Source} {older : Option Project}
    {backend : String} {bundle : Bundle} (h : source.Supplies project backend bundle) :
    activity.ShownBy source project older bundle := by
  cases activity with
  | project => exact ⟨h.data, h.project_eq, h.inlineAgent⟩
  | contentBase => exact ⟨h.contentBase, h.project_eq, .inl h.data⟩
  | agent => trivial
  | instructions => trivial

/-- What is stored once an activity is settled is what bundles show. -/
theorem Settled.shownBy {activity : Activity} {source : Source} {before after : Store}
    {bundle : Bundle} (h : activity.Settled source now project before after)
    (hfetched : ∀ kind ∈ activity.kinds, ∃ value, source.answer kind ⟨project, none⟩ = .ok value)
    (hshows : after.Shows now project bundle) :
    activity.ShownBy source project (before.stored? now project .data) bundle := by
  have hpushed : ∀ kind ∈ activity.kinds, ∀ value, after.stored? now project kind = some value →
      source.answer kind ⟨project, none⟩ = .ok value := by
    intro kind hkind value hvalue
    obtain ⟨answer, hanswer⟩ := hfetched kind hkind
    rw [hanswer, Option.some.inj ((h.pushed kind hkind answer hanswer).symm.trans hvalue)]
  cases activity with
  | project =>
    refine ⟨hpushed .data (by decide) _ hshows.data, hshows.project_eq, ?_⟩
    obtain ⟨answer, hanswer⟩ := hfetched .inlineAgent (by decide)
    have hstored := h.pushed .inlineAgent (by decide) answer hanswer
    unfold Store.stored? at hstored
    rw [hanswer, ← hshows.inlineAgent, Store.inlineAgent?, hstored, Option.getD_some]
  | contentBase =>
    refine ⟨hpushed .contentBase (by decide) _ hshows.contentBase, hshows.project_eq, .inr ?_⟩
    rw [← h.kept .data (by decide) (by decide)]
    exact hshows.data
  | agent => trivial
  | instructions => trivial

end Activity

/-- Whatever the store held, after an update event for a project whose fetches succeed, and as long as
nothing expires, the documents that the update outdates are returned as the source has them, without
their fetch functions being called, and a bundle that is returned shows them. -/
theorem Service.reads_after_activity {service service' : Service} {bus : Bus Observer}
    {event : Event} {activity : Activity} {reply : Reply} (hbus : service.bus = some bus)
    (hnew : bus.registrations = []) (hname : event.name = activity.eventName)
    (htarget : activity.target event = some project) (houtages : service.world.outages = [])
    (hplain : service.source.Plain) (hpositive : service.config.ttls.Positive)
    (hrange : service.config.ttls.InRange service.world.now)
    (hfetched : ∀ kind ∈ activity.kinds,
      ∃ value, service.source.answer kind ⟨project, none⟩ = .ok value)
    (hrun : service.subscribeActivities.2.step (.notifyAsync event) = (reply, service'))
    (hlasts : service'.world.store.Lasts service'.world.now later)
    (hlater : service.config.ttls.InRange later) :
    (∀ kind ∈ activity.kinds, ∀ value, service.source.answer kind ⟨project, none⟩ = .ok value →
      ∃ world, ∀ fetch, Cache.get service.config.ttls kind project none fetch
        { service'.world with now := later } = .ok value world) ∧
    ∀ requested bundle world, Cache.getBundle service.config.ttls service.source project requested
        { service'.world with now := later } = .ok bundle world →
      activity.ShownBy service.source project
        (service.world.store.stored? service.world.now project .data) bundle := by
  obtain ⟨last, hstep, hworld⟩ := Activity.notifyAsync_subscribed hbus hnew hname
  obtain ⟨-, rfl⟩ := Prod.mk.inj (hrun.symm.trans hstep)
  obtain ⟨reached, hcalm, hsettled⟩ :=
    Activity.perform_settled htarget hplain hpositive hrange houtages hfetched
  rw [← hworld] at hcalm
  obtain ⟨hnow, houtages', rfl⟩ := hcalm
  rw [← hnow] at hsettled
  constructor
  · intro kind hkind value hanswer
    refine Cache.get_of_stored (Activity.ne_team_of_mem_kinds hkind) houtages' ?_
    exact (hlasts.stored?_eq project kind).trans (hsettled.pushed kind hkind value hanswer)
  · intro requested bundle world hget
    -- the bundle is the cached one, which mirrors what is stored, or is fetched as a whole
    rcases Cache.getBundle_of_mirrors hget houtages' hlater (hlasts.mirrors hsettled.mirrors) with
      hshows | ⟨backend, hsupplies⟩
    · rw [← hnow]
      refine hsettled.shownBy hfetched (hshows.congr fun kind _ => ?_)
      exact (hlasts.stored?_eq project kind).symm
    · exact Activity.shownBy_of_supplies hsupplies

/-- The service of a single project, with a new bus, when it has read the bundle of the project and
the project was renamed at the source. -/
def Service.lone : Service where
  wording := { pattern := fun _ => "" }
  world := { now := 0, store := .lone }
  source := .sole { Project.lone with name := "new" }
  bus := some {}

/-- An update of the content base of the project. -/
def Event.contentBaseUpdate : Event :=
  let object := Json.object [("project_uuid", .string "p")]
  { id := .zero
    name := Activity.contentBase.eventName
    payload := ((∅ : Keyed Json).insert "contentbase" object).insert "action_type" (.string "U")
    occurredAt := .epoch }

theorem Service.reads_after_activity_of_lone : ∃ reply service',
    Service.lone.subscribeActivities.2.step (.notifyAsync .contentBaseUpdate) = (reply, service') ∧
    (∀ kind ∈ Activity.contentBase.kinds, ∀ value,
      Service.lone.source.answer kind ⟨"p", none⟩ = .ok value →
      ∃ world, ∀ fetch, Cache.get .default kind "p" none fetch
        { service'.world with now := 0 } = .ok value world) ∧
    ∀ requested bundle world, Cache.getBundle .default Service.lone.source "p" requested
        { service'.world with now := 0 } = .ok bundle world →
      Activity.contentBase.ShownBy Service.lone.source "p" (Store.lone.stored? 0 "p" .data)
        bundle := by
  have htarget : Activity.contentBase.target .contentBaseUpdate = some "p" := by decide +kernel
  have hplain : Service.lone.source.Plain := Source.plain_sole fun _ _ => rfl
  have hfetched : ∀ kind ∈ Activity.contentBase.kinds,
      ∃ value, Service.lone.source.answer kind ⟨"p", none⟩ = .ok value := by
    intro kind hkind
    obtain rfl := List.mem_singleton.1 hkind
    exact ⟨{ uuid := "c" }, rfl⟩
  obtain ⟨reply, service', hrun⟩ : ∃ reply service',
      Service.lone.subscribeActivities.2.step (.notifyAsync .contentBaseUpdate)
        = (reply, service') := ⟨_, _, rfl⟩
  have hnow : service'.world.now = 0 := by
    have hclock : (Service.lone.subscribeActivities.2.step
      (.notifyAsync .contentBaseUpdate)).2.world.now = 0 := by decide +kernel
    rw [hrun] at hclock
    exact hclock
  have hlasts : service'.world.store.Lasts service'.world.now 0 :=
    hnow ▸ .refl service'.world.store 0
  exact ⟨reply, service', hrun, reads_after_activity rfl rfl rfl htarget rfl hplain
    Ttls.positive_default Ttls.inRange_default hfetched hrun hlasts Ttls.inRange_default⟩

/-- The bundle that is read after an update of the content base shows the settings that were stored
before, and not the source's. -/
theorem Service.getBundle_after_contentBaseUpdate_older :
    Activity.contentBase.target .contentBaseUpdate = some "p" ∧
    ∃ bundle world, Cache.getBundle .default Service.lone.source "p" none
      (Service.lone.subscribeActivities.2.step (.notifyAsync .contentBaseUpdate)).2.world
        = .ok bundle world ∧
      Service.lone.source.answer .data ⟨"p", none⟩ = .ok { Project.lone with name := "new" } ∧
      bundle.data ≠ { Project.lone with name := "new" } := by
  refine ⟨by decide +kernel, ?_⟩
  obtain ⟨bundle, world, hrun, hdata⟩ : ∃ bundle world,
      Cache.getBundle .default Service.lone.source "p" none
        (Service.lone.subscribeActivities.2.step (.notifyAsync .contentBaseUpdate)).2.world
          = .ok bundle world ∧
      bundle.data ≠ { Project.lone with name := "new" } := by decide +kernel
  exact ⟨bundle, world, hrun, rfl, hdata⟩

end ProjectCache
