/-
# ProjectCache.Proofs.Cache.Stability — a read that is repeated comes to the same.

After a read has succeeded, what it returned is stored where the next read looks for it. The next read
then only reads: the store, the clock and the outages are as they were, no fetch function is asked, and
a source is asked for nothing but what a turn looks up first (`World.Rests`). An operation that does
this and returns a value is a *replay* of the value (`CacheM.Replays`), and one replay after the other
is a replay. So a read that is repeated before anything expires returns the same, whatever the fetch
function or the source would now do (`Operation.reads_are_stable`).
-/
import ProjectCache.Proofs.Turn.Trail

namespace ProjectCache

variable {α β : Type} {ttls : Ttls} {kind : Kind} {project key backend : String}
  {requested : Option String} {source source' : Source} {world mid last : World}
  {kinds : List Kind}

namespace World

/-- From the first world to the second the store was only read and no fetch function was asked; a
source was asked for these kinds, the latest first. -/
structure Rests (world : World) (kinds : List Kind) (last : World) : Prop where
  now_eq : last.now = world.now
  outages_eq : last.outages = world.outages
  store_eq : last.store = world.store
  trace : ∃ events, last.trace = events ++ world.trace ∧
    (∀ event ∈ events, ∀ call key, event.storeCall? = some (call, key) → call = .get) ∧
    events.filterMap Happening.request? = [] ∧
    events.filterMap Happening.fetchedKind? = kinds

namespace Rests

theorem refl (world : World) : world.Rests [] world :=
  ⟨rfl, rfl, rfl, [], rfl, nofun, rfl, rfl⟩

/-- A source need not be asked again. -/
theorem trans (h : world.Rests kinds mid) (h' : mid.Rests [] last) : world.Rests kinds last where
  now_eq := h'.now_eq.trans h.now_eq
  outages_eq := h'.outages_eq.trans h.outages_eq
  store_eq := h'.store_eq.trans h.store_eq
  trace := by
    obtain ⟨events, htrace, hgets, hrequests, hfetched⟩ := h.trace
    obtain ⟨more, htrace', hgets', hrequests', hfetched'⟩ := h'.trace
    refine ⟨more ++ events, by rw [htrace', htrace, List.append_assoc], ?_, ?_, ?_⟩
    · intro event hevent
      rcases List.mem_append.1 hevent with hevent | hevent
      · exact hgets' event hevent
      · exact hgets event hevent
    · rw [List.filterMap_append, hrequests, hrequests']
      rfl
    · rw [List.filterMap_append, hfetched, hfetched', List.nil_append]

theorem hit (world : World) (key : String) : world.Rests [] (world.hit key) := by
  refine ⟨rfl, rfl, rfl, [.got key (.ok true)], rfl, ?_, rfl, rfl⟩
  intro event hevent call k hcall
  obtain rfl := List.mem_singleton.1 hevent
  obtain ⟨rfl, -⟩ := Prod.mk.inj (Option.some.inj hcall)
  rfl

/-- Apart from the cache a source may be asked, and log lines written. -/
theorem after (world : World) {events : List Happening} (hevents : ∀ event ∈ events, event.Apart)
    (hkinds : events.filterMap Happening.fetchedKind? = kinds) :
    world.Rests kinds (world.after events) := by
  refine ⟨rfl, rfl, rfl, events, rfl, ?_, Happening.filterMap_request?_of_apart hevents, hkinds⟩
  intro event hevent call k hcall
  rw [(hevents event hevent).storeCall?_eq] at hcall
  cases hcall

/-- The same documents are stored. -/
theorem document?_eq (h : world.Rests kinds last) (decode : Decoder α) (key : String) :
    last.store.document? decode last.now key = world.store.document? decode world.now key := by
  rw [h.store_eq, h.now_eq]

end Rests

end World

namespace CacheM

/-- The operation returns the value and only reads; a source is asked for these kinds. -/
def Replays (m : CacheM α) (world : World) (a : α) (kinds : List Kind) : Prop :=
  ∃ last, m world = .ok a last ∧ world.Rests kinds last

variable {m : CacheM α} {f : α → CacheM β} {a : α} {b : β}

theorem replays_pure (a : α) (world : World) : (pure a : CacheM α).Replays world a [] :=
  ⟨world, rfl, .refl world⟩

/-- What follows a replay goes on in a world at rest. -/
theorem Replays.bind (hm : m.Replays world a kinds)
    (hf : ∀ mid, world.Rests kinds mid → (f a).Replays mid b []) :
    (m >>= f).Replays world b kinds := by
  obtain ⟨mid, hrun, hrests⟩ := hm
  obtain ⟨last, hrun', hrests'⟩ := hf mid hrests
  exact ⟨last, (bind_of_ok hrun).trans hrun', hrests.trans hrests'⟩

theorem Replays.map (hm : m.Replays world a kinds) (g : α → β) :
    (g <$> m).Replays world (g a) kinds := by
  obtain ⟨last, hrun, hrests⟩ := hm
  exact ⟨last, map_of_ok hrun g, hrests⟩

/-- Log lines do not matter. -/
theorem Replays.reported {m' : CacheM α} (hm : m.Replays world a kinds) (h : m.Reports m') :
    m'.Replays world a kinds := by
  obtain ⟨last, hrun, hrests⟩ := hm
  obtain ⟨lines, hlines, hrun'⟩ := h world (.ok a) last hrun
  have hlogged : ∀ line ∈ lines, line.Apart ∧ line.fetchedKind? = none := by
    intro line hline
    obtain ⟨level, text, rfl, -⟩ := hlines line hline
    exact ⟨Happening.apart_logged level text, rfl⟩
  have hlines : last.Rests [] (last.after lines) :=
    .after last (fun line hline => (hlogged line hline).1)
      (List.filterMap_eq_nil_iff.2 fun line hline => (hlogged line hline).2)
  exact ⟨last.after lines, hrun', hrests.trans hlines⟩

end CacheM

/-! ## Replays of reads -/

theorem Source.fetch_of_answer {request : Request} {value : kind.Value}
    (hanswer : source.answer kind request = .ok value) (world : World) :
    source.fetch kind request world = .ok value (world.after [.fetched kind]) := by
  have hnote : CacheM.note (.fetched kind) world = .ok () (world.after [.fetched kind]) := rfl
  rw [fetch, CacheM.bind_of_ok hnote, hanswer]
  rfl

/-- The parts that are looked up together are looked up anew. -/
theorem Source.Resolves.replays {resolved : Source.Resolved}
    (h : source.Resolves project resolved) (world : World) :
    (source.resolve project).Replays world resolved [.inlineAgent, .contentBase, .data] := by
  refine ⟨world.after [.fetched .inlineAgent, .fetched .contentBase, .fetched .data], ?_,
    .after world ?_ rfl⟩
  · rw [resolve, CacheM.bind_of_ok (fetch_of_answer h.data world),
      CacheM.bind_of_ok (fetch_of_answer h.contentBase _),
      CacheM.bind_of_ok (fetch_of_answer h.inlineAgent _)]
    rfl
  · simp [Happening.apart_fetched]

namespace Cache

/-- A document that is stored is returned. -/
theorem replays_get (world : World) (houtages : world.outages = [])
    (hkey : Key.entry project kind requested = .ok key) {value : kind.Value}
    (hvalue : world.store.document? kind.decode world.now key = some value) (ttls : Ttls)
    (fetch : Fetch kind) : (get ttls kind project requested fetch).Replays world value [] :=
  ⟨world.hit key, get_of_document? houtages hkey hvalue ttls fetch, .hit world key⟩

/-- A bundle that is stored and serves the request is returned. -/
theorem replays_getBundle (world : World) (houtages : world.outages = []) {bundle : Bundle}
    (hbundle : world.store.document? Bundle.decode world.now (Key.bundle project) = some bundle)
    (hserves : bundle.serves requested = true) (ttls : Ttls) (source : Source) :
    (getBundle ttls source project requested).Replays world bundle [] := by
  refine ⟨world.hit (Key.bundle project), ?_, .hit world _⟩
  rw [getBundle, CacheM.bind_of_ok (read_of_document? houtages hbundle)]
  simp only [hserves]
  rfl

/-- What reading through the cache returns is stored afterwards. -/
theorem Created.held {now : Nat} {store reached : Store} {outcome : Except Error kind.Value → Prop}
    {value : kind.Value} (h : Created ttls now kind key outcome store (.ok value) reached)
    (hpositive : ttls.Positive) (hplain : ∀ value, outcome (.ok value) → kind.Plain value) :
    reached.document? kind.decode now key = some value := by
  cases h with
  | present hvalue => exact hvalue
  | created _ hfetched =>
    exact Store.document?_of_live (Store.live?_put_self (hpositive.isLive_entry now kind value) _ key)
      (Kind.decode_encode (hplain value hfetched))

/-- A bundle that is returned is stored afterwards, and serves the same request. -/
theorem Bundled.held {now : Nat} {store reached : Store} {bundle : Bundle}
    (h : Bundled ttls now source project requested store (.ok bundle) reached)
    (hpositive : ttls.Positive) (hplain : source.Plain) :
    reached.document? Bundle.decode now (Key.bundle project) = some bundle ∧
      bundle.serves requested = true := by
  cases h with
  | present hbundle hserves => exact ⟨hbundle, hserves⟩
  | @fetched _ backend _ hsupplies hbackend =>
    refine ⟨?_, ?_⟩
    · have hlive : ((store.sift Bundle.decode now (Key.bundle project)).withParts ttls now project
          backend bundle).live? now (Key.bundle project) = some (ttls.bundleEntry now bundle) := by
        rw [Store.live?, Store.find?_withParts_bundle, Option.filter_some,
          if_pos (hpositive.isLive_bundleEntry now bundle)]
      exact Store.document?_of_live hlive (Bundle.decode_encode (hsupplies.plain hplain))
    · rcases requested with _ | requested
      · rfl
      · obtain rfl : requested = backend := Option.some.inj hbackend
        simp [Bundle.serves, hsupplies.agentsBackend]

end Cache

/-- A turn whose documents are stored is read again: the parts that are looked up first are all that
the source is asked for. -/
theorem Turn.replays_load {turn : Turn} {resolved : Source.Resolved} (world : World)
    (houtages : world.outages = []) (hresolves : source.Resolves project resolved)
    (hheld : ∀ document ∈ turn.documents (kindsRead resolved),
      world.store.document? document.kind.decode world.now
        (Key.part project document.kind turn.agentsBackend) = some document.value)
    (hbackend : (turn.project.agentsBackend <|> resolved.project.agentsBackend)
      = some turn.agentsBackend)
    (hinline : resolved.inlineAgent = none → turn.inlineAgent = none) (ttls : Ttls) :
    (load ttls source project).Replays world turn [.inlineAgent, .contentBase, .data] := by
  have hread : ∀ {kind requested} {fetch : Fetch kind} {kinds mid}, world.Rests kinds mid →
      kind ∈ kindsRead resolved →
      Key.entry project kind requested = .ok (Key.part project kind turn.agentsBackend) →
      (Cache.get ttls kind project requested fetch).Replays mid (turn.part kind) [] := by
    intro kind requested fetch kinds mid hrests hkind hkey
    refine Cache.replays_get mid (hrests.outages_eq.trans houtages) hkey ?_ ttls fetch
    rw [hrests.document?_eq]
    exact hheld _ (mem_documents turn hkind)
  have hplain : ∀ {kind} {fetch : Fetch kind} {kinds mid}, world.Rests kinds mid →
      kind ∈ kindsRead resolved → kind ≠ .team →
      (Cache.get ttls kind project none fetch).Replays mid (turn.part kind) [] := by
    intro kind fetch kinds mid hrests hkind hteam
    exact hread hrests hkind (Key.entry_eq_part hteam project _ none)
  have hnamed : (Project.agentsBackend (turn.part .data) <|> resolved.project.agentsBackend)
      = some turn.agentsBackend := hbackend
  unfold load
  refine (hresolves.replays world).bind fun mid hrests => ?_
  refine (hplain hrests (mem_kindsRead (by simp [before])) (by decide)).bind fun mid hdata => ?_
  rw [hnamed]
  replace hrests := hrests.trans hdata
  refine (hplain hrests (mem_kindsRead (by simp [before])) (by decide)).bind fun mid hcontentBase => ?_
  replace hrests := hrests.trans hcontentBase
  refine (hplain hrests (mem_kindsRead (by simp [before])) (by decide)).bind fun mid hinstructions => ?_
  replace hrests := hrests.trans hinstructions
  refine (hplain hrests (mem_kindsRead (by simp [before])) (by decide)).bind fun mid hagent => ?_
  replace hrests := hrests.trans hagent
  refine (hread hrests (mem_kindsRead (by simp [before])) (Key.entry_team _ _)).bind
    fun mid hteam => ?_
  replace hrests := hrests.trans hteam
  refine (hplain hrests (mem_kindsRead (by simp [before])) (by decide)).bind fun mid hguardrails => ?_
  replace hrests := hrests.trans hguardrails
  rcases hresolved : resolved.inlineAgent with _ | inlineAgent
  · refine (CacheM.replays_pure none mid).bind fun mid _ => ?_
    rw [← hinline hresolved]
    exact CacheM.replays_pure turn mid
  · have hkind : .inlineAgent ∈ kindsRead resolved := by simp [kindsRead, hresolved]
    refine (hplain hrests hkind (by decide)).bind fun mid _ => ?_
    exact CacheM.replays_pure turn mid

/-! ## Reading again -/

section Again

variable {later : Nat} (hpositive : ttls.Positive) (houtages : world.outages = [])
  (hlasts : last.store.Lasts last.now later)

include hpositive houtages hlasts

theorem Cache.replays_get_again {fetch : Fetch kind} {value : kind.Value}
    (hplain : (fetch (requestFor kind project requested)).Fetches
      fun result => ∀ value, result = .ok value → kind.Plain value)
    (hrun : get ttls kind project requested fetch world = .ok value last) (fetch' : Fetch kind) :
    (get ttls kind project requested fetch').Replays { last with now := later } value [] := by
  rcases hkey : Key.entry project kind requested with e | key
  · rw [get, hkey] at hrun
    cases hrun
  · obtain ⟨_, ⟨hnow, hquiet, rfl⟩, hcreated⟩ :=
      (ensures_get_of_entry hkey (hplain world.now) ttls world.store).of_ending
        ⟨rfl, houtages, rfl⟩ (show _ = CacheM.ending (.ok value) last from hrun)
    have hheld := hcreated.held hpositive fun value hvalue => hvalue value rfl
    rw [← hnow] at hheld
    exact replays_get { last with now := later } hquiet hkey ((hlasts.document?_eq _ _).trans hheld) _
      fetch'

theorem Cache.replays_getBundle_again {bundle : Bundle} (hplain : source.Plain)
    (hrange : ttls.InRange world.now)
    (hrun : getBundle ttls source project requested world = .ok bundle last) (source' : Source) :
    (getBundle ttls source' project requested).Replays { last with now := later } bundle [] := by
  obtain ⟨_, ⟨hnow, hquiet, rfl⟩, hbundled⟩ :=
    (ensures_getBundle hrange world.store source project requested).of_ending
      ⟨rfl, houtages, rfl⟩ (show _ = CacheM.ending (.ok bundle) last from hrun)
  obtain ⟨hheld, hserves⟩ := hbundled.held hpositive hplain
  rw [← hnow] at hheld
  exact replays_getBundle { last with now := later } hquiet ((hlasts.document?_eq _ _).trans hheld)
    hserves _ source'

/-- The source has to answer for the parts that are looked up first, and answer the same. -/
theorem Turn.replays_prepare_again {turn : Turn} {slow : Span} (hplain : source.Plain)
    (hrange : ttls.InRange world.now)
    (hrun : prepare ttls slow source project world = .ok turn last)
    (hsame : ∀ kind ∈ [Kind.data, .contentBase, .inlineAgent],
      source'.answer kind ⟨project, none⟩ = source.answer kind ⟨project, none⟩) :
    (prepare ttls slow source' project).Replays { last with now := later } turn
      [.inlineAgent, .contentBase, .data] := by
  rcases ended_of_prepare hplain hpositive hrange houtages
    (show _ = CacheM.ending (.ok turn) last from hrun) with
    - | @⟨_, resolved, _, hresolves, htrail, hbackend, hinline⟩
  have hresolves' : source'.Resolves project resolved := by
    refine ⟨?_, ?_, ?_⟩
    · rw [hsame .data (by simp), hresolves.data]
    · rw [hsame .contentBase (by simp), hresolves.contentBase]
    · rw [hsame .inlineAgent (by simp), hresolves.inlineAgent]
  have hheld := htrail.held
  rw [← htrail.now_eq] at hheld
  have hload : (load ttls source' project).Replays { last with now := later } turn
      [.inlineAgent, .contentBase, .data] := by
    refine replays_load { last with now := later } htrail.outages_eq hresolves' ?_ hbackend hinline
      ttls
    exact fun document hdocument => (hlasts.document?_eq _ _).trans (hheld document hdocument)
  exact hload.reported (reports_prepare ttls slow source' project)

end Again

namespace Operation

/-- The second operation is the same read again. The fetch function or the source may be another one;
for a turn, the parts that are looked up first are unchanged. -/
inductive Repeats : Operation → Operation → Prop where
  | get {kind : Kind} {project : String} {backend : Option String} {fetch : Fetch kind}
      (hplain : (fetch (Cache.requestFor kind project backend)).Fetches
        fun result => ∀ value, result = .ok value → kind.Plain value) (fetch' : Fetch kind) :
      Repeats (.get kind project backend fetch) (.get kind project backend fetch')
  | getBundle {source : Source} {project : String} {backend : Option String}
      (hplain : source.Plain) (source' : Source) :
      Repeats (.getBundle source project backend) (.getBundle source' project backend)
  | turn {source source' : Source} {project : String} (hplain : source.Plain)
      (hsame : ∀ kind ∈ [Kind.data, .contentBase, .inlineAgent],
        source'.answer kind ⟨project, none⟩ = source.answer kind ⟨project, none⟩) :
      Repeats (.turn source project) (.turn source' project)

/-- What the source is asked for in any case, the latest first. -/
def lookedUp : Operation → List Kind
  | .turn _ _ => [.inlineAgent, .contentBase, .data]
  | _ => []

/-- A read that has succeeded and is repeated before anything expires returns the same again. It
stores and deletes nothing and asks no fetch function, whatever the fetch function or the source would
now do; a turn asks the source for the parts that it looks up first, and for nothing else. -/
theorem reads_are_stable {config : CacheConfig} {first again : Operation} {world world' : World}
    {answer : Answer} {later : Nat} (hrepeats : first.Repeats again)
    (hpositive : config.ttls.Positive) (hrange : config.ttls.InRange world.now)
    (houtages : world.outages = []) (hrun : first.run config world = .ok answer world')
    (hlasts : world'.store.Lasts world'.now later) :
    ∃ last, again.run config { world' with now := later } = .ok answer last ∧
      World.Rests { world' with now := later } again.lookedUp last := by
  show (again.run config).Replays { world' with now := later } answer again.lookedUp
  rcases hrepeats with ⟨hplain, fetch'⟩ | ⟨hplain, source'⟩ | ⟨hplain, hsame⟩
  · obtain ⟨value, hget, rfl⟩ := CacheM.ok_of_map hrun
    exact (Cache.replays_get_again hpositive houtages hlasts hplain hget fetch').map fun value =>
      Answer.document ⟨_, value⟩
  · obtain ⟨bundle, hget, rfl⟩ := CacheM.ok_of_map hrun
    exact (Cache.replays_getBundle_again hpositive houtages hlasts hplain hrange hget source').map
      Answer.bundle
  · obtain ⟨turn, hprepare, rfl⟩ := CacheM.ok_of_map hrun
    exact (Turn.replays_prepare_again hpositive houtages hlasts hplain hrange hprepare hsame).map
      Answer.turn

/-- A turn is read again after fetches of rosters and personalities have begun to fail. -/
theorem reads_are_stable_of_failing :
    let source := Source.sole .lone
    let source' := (source.setFailing .team true).setFailing .agent true
    ∃ answer world' last, (Operation.turn source "p").run {} { now := 0 } = .ok answer world' ∧
      (Operation.turn source' "p").run {} { world' with now := 1 } = .ok answer last ∧
      World.Rests { world' with now := 1 } [.inlineAgent, .contentBase, .data] last := by
  intro source source'
  obtain ⟨answer, world', hrun, hnow, hunexpired⟩ : ∃ answer world',
      (Operation.turn source "p").run {} { now := 0 } = .ok answer world' ∧
        world'.now ≤ 1 ∧ world'.store.Unexpired 1 := by decide +kernel
  have hrepeats : (Operation.turn source "p").Repeats (.turn source' "p") := by
    refine .turn (Source.plain_sole Project.plain_lone) ?_
    simp only [List.forall_mem_cons]
    exact ⟨rfl, rfl, rfl, nofun⟩
  obtain ⟨last, hagain, hrests⟩ := reads_are_stable hrepeats Ttls.positive_default
    Ttls.inRange_default rfl hrun (hunexpired.lasts hnow)
  exact ⟨answer, world', last, hrun, hagain, hrests⟩

end Operation

end ProjectCache
