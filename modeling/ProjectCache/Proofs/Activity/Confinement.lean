/-
# ProjectCache.Proofs.Activity.Confinement — observers touch what an event concerns, and never fail.

An event concerns an activity and a project when it has the activity's name, says that something was
updated, and carries an object that names the project (`Activity.Concerns`). The places where an object
can name its project are paths through its members, looked up one after the other (`Activity.paths`);
whatever else the payload has there, of whatever type, is passed over.

An event that concerns no activity leaves the world as it is. Otherwise the observer of the activity
keeps to the keys of the project, whatever is stored there and whichever fetch fails, and when its first
fetch fails it leaves the store alone. Its failures never reach the one who notifies
(`Service.observers_confined`).
-/
import ProjectCache.Proofs.Activity.Freshness
import ProjectCache.Proofs.Cache.Region

namespace ProjectCache

/-! ## Where an object names its project -/

namespace Event

/-- The text at the end of a path through the members of objects. -/
def textAt : List String → Keyed Json → Option String
  | [], _ => none
  | [key], object => (object.find? key).bind Json.string?
  | key :: path, object => ((object.find? key).bind Json.members?).bind (textAt path)

/-- The paths at which an object can name the project that it belongs to, in the order in which they
are looked up. -/
def ownerPaths : List (List String) :=
  [["project_uuid"], ["project", "uuid"], ["content_base", "project_uuid"],
    ["content_base", "project", "uuid"]]

theorem projectOf_eq (object : Keyed Json) :
    projectOf object = ownerPaths.findSome? (textAt · object) := by
  have hown : ∀ object, ownProject object
      = (textAt ["project_uuid"] object).or (textAt ["project", "uuid"] object) := by
    intro object
    rw [ownProject, Option.orElse_eq_orElse, Option.orElse_eq_or]
    rfl
  have hbase : (objectOf object "content_base").bind ownProject
      = (textAt ["content_base", "project_uuid"] object).or
        (textAt ["content_base", "project", "uuid"] object) := by
    simp only [textAt, objectOf]
    cases (object.find? "content_base").bind Json.members? with
    | none => rfl
    | some contentBase => exact hown contentBase
  rw [projectOf, Option.orElse_eq_orElse, Option.orElse_eq_or, hown, hbase]
  simp only [ownerPaths, List.findSome?]
  cases textAt ["project_uuid"] object <;> cases textAt ["project", "uuid"] object <;>
    cases textAt ["content_base", "project_uuid"] object <;>
    cases textAt ["content_base", "project", "uuid"] object <;> rfl

theorem action_eq_update_iff (event : Event) :
    event.action = some .update ↔ event.payload.find? "action_type" = some (.string "U") := by
  have hletter : ∀ text, Action.ofCode? text = some .update ↔ text = "U" := by
    intro text
    constructor
    · intro h
      have hcode := List.find?_some h
      exact (beq_iff_eq.1 hcode).symm
    · rintro rfl
      rfl
  rw [action, actionKey]
  cases event.payload.find? "action_type" with
  | none => simp
  | some json => cases json <;> simp [Json.string?, hletter]

end Event

/-! ## What an event concerns -/

namespace Activity

/-- The paths at which the object of an activity can name the project. -/
def paths : Activity → List (List String)
  | .project => ["uuid"] :: Event.ownerPaths
  | _ => Event.ownerPaths

/-- The event tells of the update of an object that names the project. -/
structure Concerns (activity : Activity) (event : Event) (project : String) : Prop where
  name : event.name = activity.eventName
  updated : event.payload.find? "action_type" = some (.string "U")
  named : ∃ fields, event.payload.find? activity.payloadKey = some (.object fields) ∧
    activity.paths.findSome? (Event.textAt · (Keyed.ofList fields)) = some project

theorem eventName_injective {activity other : Activity}
    (h : activity.eventName = other.eventName) : activity = other := by
  cases activity <;> cases other <;> first | rfl | exact absurd h (by decide)

variable {project : String} {event : Event} {activity : Activity}

theorem owner_eq (activity : Activity) (object : Keyed Json) :
    activity.owner object = activity.paths.findSome? (Event.textAt · object) := by
  cases activity with
  | project =>
    have hitself : owner .project object
        = (Event.textAt ["uuid"] object).or (Event.projectOf object) := by
      rw [owner, Event.projectItself, Option.orElse_eq_orElse, Option.orElse_eq_or]
      rfl
    rw [hitself, Event.projectOf_eq, paths, List.findSome?]
    cases Event.textAt ["uuid"] object <;> rfl
  | _ => exact Event.projectOf_eq object

/-- Among the events with the name of an activity the observer finds a project in those that concern
it. -/
theorem target_eq_some_iff (hname : event.name = activity.eventName) :
    activity.target event = some project ↔ activity.Concerns event project := by
  unfold target
  split
  · rename_i haction
    have hupdated := event.action_eq_update_iff.1 haction
    have hobject : ∀ object, event.object activity.payloadKey = some object ↔
        ∃ fields, event.payload.find? activity.payloadKey = some (.object fields) ∧
          Keyed.ofList fields = object := by
      intro object
      rw [Event.object]
      cases event.payload.find? activity.payloadKey with
      | none => simp
      | some json => cases json <;> simp [Json.members?]
    rw [Option.bind_eq_some_iff]
    constructor
    · rintro ⟨object, hfind, howner⟩
      obtain ⟨fields, hfields, rfl⟩ := (hobject object).1 hfind
      exact ⟨hname, hupdated, fields, hfields, (activity.owner_eq _).symm.trans howner⟩
    · rintro ⟨-, -, fields, hfields, hpaths⟩
      exact ⟨_, (hobject _).2 ⟨fields, hfields, rfl⟩, (activity.owner_eq _).trans hpaths⟩
  · rename_i haction
    constructor
    · rintro ⟨⟩
    · intro hconcerns
      exact absurd (event.action_eq_update_iff.2 hconcerns.updated) haction

end Activity

/-! ## Pushing keeps to the project -/

namespace Cache

variable {project : String} {region : Region}

section InScope

variable (hscope : ∀ key, Key.InScope project key → region key)

include hscope

theorem keepsTo_read_plain {α : Type} (decode : Decoder α) (kind : Kind) :
    (read decode (Key.plain project kind)).KeepsTo region :=
  keepsTo_read decode (hscope _ (Key.plain_inScope project kind))

theorem keepsTo_rebuildBundle (ttls : Ttls) (backend : String) :
    (rebuildBundle ttls project backend).KeepsTo region := by
  unfold rebuildBundle
  -- each read either ends the building or goes on to the next one
  refine (keepsTo_read_plain hscope _ .data).bind fun data _ _ _ => ?_
  cases data with
  | none => exact CacheM.keepsTo_pure false
  | some data =>
  refine (keepsTo_read_plain hscope _ .contentBase).bind fun contentBase _ _ _ => ?_
  cases contentBase with
  | none => exact CacheM.keepsTo_pure false
  | some contentBase =>
  refine (keepsTo_read _ (hscope _ (Key.team_inScope project backend))).bind fun team _ _ _ => ?_
  cases team with
  | none => exact CacheM.keepsTo_pure false
  | some team =>
  refine (keepsTo_read_plain hscope _ .guardrails).bind fun guardrails _ _ _ => ?_
  cases guardrails with
  | none => exact CacheM.keepsTo_pure false
  | some guardrails =>
  refine (keepsTo_read_plain hscope _ .inlineAgent).bind fun inlineAgent _ _ _ => ?_
  refine (CacheM.keepsTo_set (hscope _ (Key.bundle_inScope project)) _ _).bind fun _ _ _ _ => ?_
  exact (CacheM.keepsTo_count _).bind fun _ _ _ _ => CacheM.keepsTo_pure true

theorem keepsTo_dropBundle : (dropBundle project).KeepsTo region := by
  unfold dropBundle
  refine (CacheM.keepsTo_delete (hscope _ (Key.bundle_inScope project))).bind fun _ _ _ _ => ?_
  exact CacheM.keepsTo_count _

theorem keepsTo_storedBackend : (storedBackend project).KeepsTo region :=
  (keepsTo_read_plain hscope _ .data).bind fun _ _ _ _ => CacheM.keepsTo_pure _

theorem keepsTo_repairBundle (ttls : Ttls) (backend : Option String) :
    (repairBundle ttls project backend).KeepsTo region := by
  have hdrop : (do dropBundle project; return false : CacheM Bool).KeepsTo region :=
    (keepsTo_dropBundle hscope).bind fun _ _ _ _ => CacheM.keepsTo_pure false
  have hbuild : ∀ backend, (do
      if ← rebuildBundle ttls project backend then return true
      dropBundle project
      return false : CacheM Bool).KeepsTo region := by
    intro backend
    refine (keepsTo_rebuildBundle hscope ttls backend).bind fun built _ _ _ => ?_
    cases built with
    | true => exact CacheM.keepsTo_pure true
    | false => exact hdrop
  unfold repairBundle
  cases backend with
  | some backend =>
    exact (CacheM.keepsTo_pure (some backend)).bind fun known _ _ hknown => by
      cases hknown
      exact hbuild backend
  | none =>
    refine (keepsTo_storedBackend hscope).bind fun known _ _ _ => ?_
    cases known with
    | none => exact hdrop
    | some backend => exact hbuild backend

theorem keepsTo_refresh (ttls : Ttls) (document : Document) (backend : Option String) :
    (refresh ttls project document backend).KeepsTo region := by
  unfold refresh
  cases hkey : Key.entry project document.kind backend with
  | error e => exact (CacheM.keepsTo_throw e).bind fun _ _ _ h => nomatch h
  | ok key =>
    refine (CacheM.keepsTo_pure key).bind fun stored _ _ hstored => ?_
    obtain rfl : key = stored := by
      cases hstored
      rfl
    refine (CacheM.keepsTo_set (hscope _ (Key.entry_inScope hkey)) _ _).bind fun _ _ _ _ => ?_
    refine (CacheM.keepsTo_count _).bind fun _ _ _ _ => ?_
    exact (keepsTo_repairBundle hscope ttls backend).bind fun _ _ _ _ => CacheM.keepsTo_pure ()

end InScope

end Cache

namespace Activity

variable {project : String} {ttls : Ttls} {source : Source} {event : Event} {world : World}
  {region : Region} {activity : Activity}

theorem keepsTo_push (hscope : ∀ key, Key.InScope project key → region key) (ttls : Ttls)
    (source : Source) (kind : Kind) (backend : Option String) :
    (push ttls source kind project backend).KeepsTo region := by
  unfold push
  refine (source.fetch_fetches kind _).keepsTo.bind fun value _ _ _ => ?_
  refine (Cache.keepsTo_refresh hscope ttls _ backend).bind fun _ _ _ _ => ?_
  exact CacheM.keepsTo_pure value

/-- What an activity does keeps to the keys of the project. -/
theorem keepsTo_refresh (hscope : ∀ key, Key.InScope project key → region key) (ttls : Ttls)
    (source : Source) (activity : Activity) :
    (refresh ttls source project activity).KeepsTo region := by
  have hpush : ∀ kind backend,
      (do let _ ← push ttls source kind project backend : CacheM Unit).KeepsTo region :=
    fun kind backend => (keepsTo_push hscope ttls source kind backend).bind
      fun _ _ _ _ => CacheM.keepsTo_pure ()
  cases activity with
  | project =>
    refine (source.fetch_fetches .data _).keepsTo.bind fun data _ _ _ => ?_
    refine (Cache.keepsTo_refresh hscope ttls _ _).bind fun _ _ _ _ => ?_
    exact hpush .inlineAgent _
  | contentBase => exact hpush .contentBase none
  | agent => exact hpush .agent none
  | instructions => exact hpush .instructions none

/-! ## Observers -/

theorem perform_of_target_eq_none (h : activity.target event = none) (world : World) :
    activity.perform ttls source event world = world := by
  rw [perform, h]

/-- Whatever comes of it, only the keys of the project change. -/
theorem perform_agreesOn (htarget : activity.target event = some project)
    (houtages : world.outages = []) :
    world.store.AgreesOn (¬ Key.InScope project ·)
      (activity.perform ttls source event world).store := by
  have hkeeps : (refresh ttls source project activity).KeepsTo (Key.InScope project) :=
    keepsTo_refresh (fun _ hkey => hkey) ttls source activity
  obtain ⟨_, _, -, hends, -, -, houtside⟩ := hkeeps world.now world.store world.store (.refl _ _)
  obtain ⟨result, reached, world', hrun, hcalm, rfl, rfl⟩ := hends world ⟨rfl, houtages, rfl⟩
  rw [perform, htarget]
  cases result <;> simp only [hrun, CacheM.ending, World.record, hcalm.store_eq] <;> exact houtside

/-- A first fetch that fails ends what an activity does. -/
theorem refresh_of_failing {kind : Kind} {e : Error} (hkind : activity.kinds.head? = some kind)
    (hanswer : source.answer kind ⟨project, none⟩ = .error e) (world : World) :
    refresh ttls source project activity world = .error e (world.record (.fetched kind)) := by
  have hfetch : ∀ {β : Type} (f : kind.Value → CacheM β),
      (source.fetch kind ⟨project, none⟩ >>= f) world
        = .error e (world.record (.fetched kind)) := by
    intro β f
    rw [Source.fetch, hanswer]
    rfl
  have hpush : ∀ backend, (do let _ ← push ttls source kind project backend : CacheM Unit) world
      = .error e (world.record (.fetched kind)) := by
    intro backend
    rw [push, bind_assoc]
    exact hfetch _
  cases activity <;> obtain rfl := Option.some.inj hkind
  case project => exact hfetch _
  all_goals exact hpush none

/-- An observer whose first fetch fails leaves the store as it is. -/
theorem perform_store_of_failing {kind : Kind} {e : Error}
    (htarget : activity.target event = some project) (hkind : activity.kinds.head? = some kind)
    (hanswer : source.answer kind ⟨project, none⟩ = .error e) (world : World) :
    (activity.perform ttls source event world).store = world.store := by
  rw [perform, htarget]
  simp only [refresh_of_failing hkind hanswer]
  rfl

theorem notifyAsync_nil {H W : Type} [DecidableEq H] {bus : Bus H} {event : Event}
    (handlers : Handlers H W) (hregistered : bus.registered .async event.name = []) (state : W) :
    bus.notifyAsync handlers event state = (.finished (.ok ()), state) := by
  rw [Bus.notifyAsync, hregistered]
  rfl

/-- No observer listens for an event with another name. -/
theorem registered_subscribed_other {bus : Bus Observer} (hnew : bus.registrations = [])
    (hname : ∀ activity : Activity, event.name ≠ activity.eventName) (round : Nat) :
    (all.foldl (fun bus a => bus.subscribe .async a.eventName (.activity a round) true)
      bus).registered .async event.name = [] := by
  have hproject := (hname .project).symm
  have hcontentBase := (hname .contentBase).symm
  have hagent := (hname .agent).symm
  have hinstructions := (hname .instructions).symm
  simp only [eventName] at hproject hcontentBase hagent hinstructions
  simp [all, eventName, Bus.subscribe, Bus.registered, hnew, hproject, hcontentBase, hagent,
    hinstructions]

end Activity

/-- Whatever the event, the source and the stored documents, the observers that keep the cache fresh
report no failure. An event that concerns no activity leaves the world as it is. Otherwise only keys of
the project that is concerned change, and none when the first fetch fails. -/
theorem Service.observers_confined {service : Service} {bus : Bus Observer}
    (hbus : service.bus = some bus) (hnew : bus.registrations = []) (event : Event) : ∃ service',
    service.subscribeActivities.2.step (.notifyAsync event) = (.answer .done, service') ∧
    ((∀ (activity : Activity) project, ¬ activity.Concerns event project) →
      service'.world = service.world) ∧
    ∀ (activity : Activity) project, activity.Concerns event project →
      (service.world.outages = [] →
        service.world.store.AgreesOn (¬ Key.InScope project ·) service'.world.store) ∧
      ∀ kind e, activity.kinds.head? = some kind →
        service.source.answer kind ⟨project, none⟩ = .error e →
        service'.world.store = service.world.store := by
  by_cases hname : ∃ activity : Activity, event.name = activity.eventName
  · obtain ⟨activity, hname⟩ := hname
    obtain ⟨service', hstep, hworld⟩ := Activity.notifyAsync_subscribed hbus hnew hname
    refine ⟨service', hstep, ?_, ?_⟩ <;> rw [hworld]
    · intro hnone
      refine Activity.perform_of_target_eq_none ?_ service.world
      cases htarget : activity.target event with
      | none => rfl
      | some project =>
        exact absurd ((Activity.target_eq_some_iff hname).1 htarget) (hnone activity project)
    · intro other project hconcerns
      obtain rfl : other = activity :=
        Activity.eventName_injective (hconcerns.name.symm.trans hname)
      have htarget := (Activity.target_eq_some_iff hname).2 hconcerns
      refine ⟨Activity.perform_agreesOn htarget, ?_⟩
      intro kind e hkind hanswer
      exact Activity.perform_store_of_failing htarget hkind hanswer service.world
  · have hother : ∀ activity : Activity, event.name ≠ activity.eventName :=
      fun activity h => hname ⟨activity, h⟩
    have hnone := Activity.registered_subscribed_other hnew hother service.rounds
    obtain ⟨service', hstep, hworld⟩ := Activity.notifyAsync_subscribed_of_run hbus rfl
      (Activity.notifyAsync_nil service.handlers hnone service.world)
    refine ⟨service', hstep, fun _ => hworld, ?_⟩
    intro activity project hconcerns
    exact absurd hconcerns.name (hother activity)

/-- The update of a content base reaches an empty store, where it touches the keys of the one project
alone. -/
theorem Service.observers_confined_of_lone :
    Activity.contentBase.Concerns .contentBaseUpdate "p" ∧ ∃ service',
      { Service.lone with world := { now := 0 } }.subscribeActivities.2.step
        (.notifyAsync .contentBaseUpdate) = (.answer .done, service') ∧
      Store.empty.AgreesOn (¬ Key.InScope "p" ·) service'.world.store ∧
      service'.world.store ≠ .empty := by
  have hconcerns : Activity.contentBase.Concerns .contentBaseUpdate "p" :=
    ⟨rfl, by decide +kernel, [("project_uuid", .string "p")], by decide +kernel, by decide +kernel⟩
  have hbus : { Service.lone with world := { now := 0 } }.bus = some {} := rfl
  obtain ⟨service', hstep, -, hconfined⟩ := observers_confined hbus rfl .contentBaseUpdate
  refine ⟨hconcerns, service', hstep, (hconfined _ "p" hconcerns).1 rfl, ?_⟩
  have hchanged : ({ Service.lone with world := { now := 0 } }.subscribeActivities.2.step
      (.notifyAsync .contentBaseUpdate)).2.world.store ≠ .empty := by
    decide +kernel
  rwa [hstep] at hchanged

end ProjectCache
