/-
# ProjectCache.Proofs.Turn.Trail — what a turn has done when it stops.

A turn reads one document after the other and stops at the first that cannot be had. Its *trail* is
what it has done so far (`Turn.Trail`): the documents that it has read are stored, no entry that held a
document has changed, and the store was called for keys of documents alone. One read makes the trail
longer by its document, or fails and leaves it as long as it was (`Turn.Trail.read`). Hence a turn
that fails has stored what it had read before and nothing of what it would have read afterwards, and
a turn that succeeds has stored all that it returns (`Turn.Ended`, `Turn.prepare_keeps_what_was_read`).
-/
import ProjectCache.Proofs.Cache.Furnishing
import ProjectCache.Proofs.Cache.Lookup

namespace ProjectCache

variable {α β : Type} {ttls : Ttls} {kind : Kind} {project backend : String}
  {requested : Option String} {source : Source} {start mid last : World} {done : List Document}

/-! ## Calls of the store -/

/-- A call of the store, if it is one, is for the key of a document of the project, and writes only
documents of these kinds. -/
def Happening.KeepsTo (project backend : String) (written : List Kind) (event : Happening) : Prop :=
  ∀ call key, event.storeCall? = some (call, key) →
    ∃ kind, key = Key.part project kind backend ∧ call ≠ .deletePattern ∧
      (call = .set → kind ∈ written)

namespace Happening.KeepsTo

variable {written : List Kind} {event : Happening}

theorem of_apart (h : event.Apart) : event.KeepsTo project backend written := by
  intro call key hcall
  rw [h.storeCall?_eq] at hcall
  cases hcall

theorem mono {more : List Kind} (h : event.KeepsTo project backend written)
    (hmore : written ⊆ more) : event.KeepsTo project backend more := by
  intro call key hcall
  obtain ⟨kind, hkey, hpattern, hset⟩ := h call key hcall
  exact ⟨kind, hkey, hpattern, fun hcall => hmore (hset hcall)⟩

/-- The bundle is neither read nor written. -/
theorem ne_bundle (h : event.KeepsTo project backend written) (call : StoreCall) :
    event.storeCall? ≠ some (call, Key.bundle project) := by
  intro hcall
  obtain ⟨kind, hkey, -⟩ := h call (Key.bundle project) hcall
  exact Key.entry_ne_bundle (Key.entry_some project kind backend) hkey.symm

theorem got (project backend : String) (kind : Kind) (written : List Kind)
    (outcome : Except Error Bool) :
    (Happening.got (Key.part project kind backend) outcome).KeepsTo project backend written := by
  rintro _ _ ⟨⟩
  exact ⟨kind, rfl, by simp, by simp⟩

theorem deleted (project backend : String) (kind : Kind) (written : List Kind)
    (outcome : Except Error Bool) :
    (Happening.deleted (Key.part project kind backend) outcome).KeepsTo project backend written := by
  rintro _ _ ⟨⟩
  exact ⟨kind, rfl, by simp, by simp⟩

theorem stored {value : Json} {ttl : Span} {outcome : Except Error Unit} (hkind : kind ∈ written) :
    (Happening.stored (Key.part project kind backend) value ttl outcome).KeepsTo project backend
      written := by
  rintro _ _ ⟨⟩
  exact ⟨kind, rfl, by simp, fun _ => hkind⟩

/-- Clearing a key writes nothing. -/
theorem clearing (project backend : String) (kind : Kind) (written : List Kind) (world : World) :
    ∀ event ∈ world.clearing (Key.part project kind backend),
      event.KeepsTo project backend written := by
  have hdropped : Happening.dropped.KeepsTo project backend written :=
    of_apart (Happening.apart_logged _ _)
  intro event hevent
  unfold World.clearing at hevent
  split at hevent
  · simp only [List.mem_cons, List.not_mem_nil, or_false] at hevent
    rcases hevent with rfl | rfl | rfl
    · exact deleted project backend kind written _
    · exact hdropped
    · exact got project backend kind written _
  · obtain rfl := List.mem_singleton.1 hevent
    exact got project backend kind written _

end Happening.KeepsTo

namespace Turn

/-! ## The trail of a turn -/

/-- A turn that began in the first world and has come to the second has read these documents, the
latest first. -/
structure Trail (project backend : String) (start : World) (done : List Document) (world : World) :
    Prop where
  now_eq : world.now = start.now
  outages_eq : world.outages = []
  held : ∀ document ∈ done, world.store.document? document.kind.decode start.now
    (Key.part project document.kind backend) = some document.value
  spared : ∀ key, world.store.live? start.now key = start.store.live? start.now key ∨
    ∃ kind, key = Key.part project kind backend ∧
      start.store.document? kind.decode start.now key = none
  called : start.Undergoes (·.KeepsTo project backend (done.map Document.kind)) world

namespace Trail

theorem begin (project backend : String) (houtages : start.outages = []) :
    Trail project backend start [] start where
  now_eq := rfl
  outages_eq := houtages
  held _ hdocument := nomatch hdocument
  spared _ := .inl rfl
  called := .refl start

/-- What happens apart from the cache leaves the trail as it is. -/
theorem after {events : List Happening} (h : Trail project backend start done mid)
    (hevents : ∀ event ∈ events, event.Apart) :
    Trail project backend start done (mid.after events) where
  now_eq := h.now_eq
  outages_eq := h.outages_eq
  held := h.held
  spared := h.spared
  called := h.called.append events rfl fun event hevent => .of_apart (hevents event hevent)

/-- The bundle is neither read nor written. -/
theorem called_beside_bundle (h : Trail project backend start done last) :
    ∃ events, last.trace = events ++ start.trace ∧ ∀ event ∈ events,
      event.KeepsTo project backend (done.map Document.kind) ∧
        ∀ call, event.storeCall? ≠ some (call, Key.bundle project) := by
  obtain ⟨events, htrace, hevents⟩ := h.called
  exact ⟨events, htrace, fun event hevent => ⟨hevents event hevent, (hevents event hevent).ne_bundle⟩⟩

/-- A live entry stays, unless its key is that of a document and it holds none. -/
theorem live?_of_decodes (h : Trail project backend start done last) (key : String) (entry : Entry)
    (hlive : start.store.live? start.now key = some entry)
    (hdecodes : ∀ kind, key = Key.part project kind backend →
      ∃ value, kind.decode entry.value = .ok value) :
    last.store.live? start.now key = some entry := by
  rcases h.spared key with hsame | ⟨kind, hkey, hnone⟩
  · rw [hsame, hlive]
  · obtain ⟨value, hvalue⟩ := hdecodes kind hkey
    cases hnone.symm.trans (Store.document?_of_live hlive hvalue)

/-- A key without document had none when the turn began, since a turn only adds documents. -/
theorem document?_start (h : Trail project backend start done mid)
    (hmissing : mid.store.document? kind.decode start.now (Key.part project kind backend) = none) :
    start.store.document? kind.decode start.now (Key.part project kind backend) = none := by
  rcases h.spared (Key.part project kind backend) with hsame | ⟨other, hkey, hnone⟩
  · rw [← Store.document?_congr hsame kind.decode, hmissing]
  · obtain rfl := Key.kind_of_part hkey
    exact hnone

/-- Documents that were read are under other keys than one that is missing. -/
theorem ne_of_missing (h : Trail project backend start done mid) {document : Document}
    (hdocument : document ∈ done)
    (hmissing : mid.store.document? kind.decode start.now (Key.part project kind backend) = none) :
    Key.part project document.kind backend ≠ Key.part project kind backend := by
  intro heq
  obtain rfl := Key.kind_of_part heq
  cases hmissing.symm.trans (h.held document hdocument)

/-- Whatever happens to the entry of a key that holds no document, the other documents that were read
are held, and no document is harmed. -/
theorem replaced (h : Trail project backend start done mid) (more : List Document)
    (hmissing : mid.store.document? kind.decode start.now (Key.part project kind backend) = none)
    (hnow : last.now = mid.now) (houtages : last.outages = mid.outages)
    (hother : ∀ other, other ≠ Key.part project kind backend →
      last.store.live? start.now other = mid.store.live? start.now other)
    (hmore : ∀ document ∈ more, last.store.document? document.kind.decode start.now
      (Key.part project document.kind backend) = some document.value)
    (hcalled : start.Undergoes
      (·.KeepsTo project backend ((more ++ done).map Document.kind)) last) :
    Trail project backend start (more ++ done) last where
  now_eq := hnow.trans h.now_eq
  outages_eq := houtages.trans h.outages_eq
  held document hdocument := by
    rcases List.mem_append.1 hdocument with hdocument | hdocument
    · exact hmore document hdocument
    · have hsame := hother _ (h.ne_of_missing hdocument hmissing)
      rw [Store.document?_congr hsame, h.held document hdocument]
  spared key := by
    by_cases hkey : key = Key.part project kind backend
    · subst hkey
      exact .inr ⟨kind, rfl, h.document?_start hmissing⟩
    · rw [hother key hkey]
      exact h.spared key
  called := hcalled

/-- A document that was found is on the trail. -/
theorem hit {value : kind.Value} (h : Trail project backend start done mid)
    (hvalue : mid.store.document? kind.decode start.now (Key.part project kind backend)
      = some value) :
    Trail project backend start (⟨kind, value⟩ :: done) (mid.hit (Key.part project kind backend)) where
  now_eq := h.now_eq
  outages_eq := h.outages_eq
  held document hdocument := by
    rcases List.mem_cons.1 hdocument with rfl | hdocument
    · exact hvalue
    · exact h.held document hdocument
  spared := h.spared
  called := by
    have hcalled := h.called.mono fun event hevent => hevent.mono (List.subset_cons_self kind _)
    have hgot := Happening.KeepsTo.got project backend kind (kind :: done.map Document.kind)
      (.ok true)
    refine hcalled.append [_] rfl ?_
    simpa using hgot

/-- A key that is cleared held no document, neither now nor when the turn began. -/
theorem missed (h : Trail project backend start done mid)
    (hmissing : mid.store.document? kind.decode start.now (Key.part project kind backend) = none)
    (request : Request) :
    Trail project backend start done (mid.missed (Key.part project kind backend) request) := by
  have hasked : (Happening.asked request).KeepsTo project backend (done.map Document.kind) := nofun
  have hcalled : start.Undergoes (·.KeepsTo project backend (done.map Document.kind))
      (mid.missed (Key.part project kind backend) request) := by
    refine h.called.append (_ :: _) (List.cons_append ..).symm ?_
    intro event hevent
    rcases List.mem_cons.1 hevent with rfl | hevent
    · exact hasked
    · exact .clearing project backend kind _ mid event hevent
  refine h.replaced [] hmissing rfl rfl ?_ nofun hcalled
  intro other hother
  simp [World.missed, hother]

/-- A document that was stored is on the trail. -/
theorem keep {value : kind.Value} (h : Trail project backend start done mid)
    (hmissing : mid.store.document? kind.decode start.now (Key.part project kind backend) = none)
    (hpositive : 0 < (ttls.ofKind kind).nanos) (hplain : kind.Plain value) :
    Trail project backend start (⟨kind, value⟩ :: done)
      (mid.keep ttls kind (Key.part project kind backend) value) := by
  have hcalled : start.Undergoes (·.KeepsTo project backend (kind :: done.map Document.kind))
      (mid.keep ttls kind (Key.part project kind backend) value) := by
    have hcalled := h.called.mono fun event hevent => hevent.mono (List.subset_cons_self kind _)
    refine hcalled.append [_] rfl ?_
    simpa using Happening.KeepsTo.stored List.mem_cons_self
  refine h.replaced [⟨kind, value⟩] hmissing rfl rfl ?_ ?_ hcalled
  · intro other hother
    simp [World.keep, hother.symm]
  · intro document hdocument
    obtain rfl := List.mem_singleton.1 hdocument
    have hlive := Store.live?_put_self (Entry.isLive_of_pos hpositive (kind.encode value) start.now)
      mid.store (Key.part project kind backend)
    rw [World.keep, h.now_eq]
    exact Store.document?_of_live hlive (Kind.decode_encode hplain)

/-- A read that comes to a document adds it to the trail, and one that fails adds nothing. -/
theorem lookup {request : Request} {fetch : Fetch kind} {outcome : Except Error kind.Value → Prop}
    {result : Except Error kind.Value} (h : Trail project backend start done mid)
    (hpositive : 0 < (ttls.ofKind kind).nanos)
    (hplain : ∀ value, outcome (.ok value) → kind.Plain value)
    (hlookup : Cache.Lookup ttls kind (Key.part project kind backend) request fetch outcome mid result
      last) :
    (∃ value, result = .ok value ∧ Trail project backend start (⟨kind, value⟩ :: done) last) ∨
      ∃ e, result = .error e ∧ outcome (.error e) ∧ Trail project backend start done last := by
  have hnow := h.now_eq
  rcases hlookup with hvalue | ⟨hmissing, -, hevents, houtcome⟩ | ⟨hmissing, -, hevents, houtcome⟩
  · rw [hnow] at hvalue
    exact .inl ⟨_, rfl, h.hit hvalue⟩
  · rw [hnow] at hmissing
    exact .inr ⟨_, rfl, houtcome, (h.missed hmissing request).after hevents⟩
  · rw [hnow] at hmissing
    have hcleared : (mid.missed (Key.part project kind backend) request).store.document? kind.decode
        start.now (Key.part project kind backend) = none := Store.document?_drop_self ..
    exact .inl ⟨_, rfl, ((h.missed hmissing request).after hevents).keep hcleared hpositive
      (hplain _ houtcome)⟩

section Reads

variable (hplain : source.Plain) (hpositive : ttls.Positive) (hrange : ttls.InRange start.now)

include hplain hpositive hrange

/-- A read comes to a document, or the source fails. -/
theorem obtained {fetch : Fetch kind} {result : Except Error kind.Value}
    (h : Trail project backend start done mid)
    (hkey : Key.entry project kind requested = .ok (Key.part project kind backend))
    (hfetch : (fetch (Cache.requestFor kind project requested)).Inquires
      (· = source.answer kind (Cache.requestFor kind project (some backend))))
    (hrun : Cache.get ttls kind project requested fetch mid = CacheM.ending result last) :
    (∃ value, result = .ok value ∧ Trail project backend start (⟨kind, value⟩ :: done) last) ∨
    ∃ e, result = .error e ∧
      source.answer kind (Cache.requestFor kind project (some backend)) = .error e ∧
      Trail project backend start done last := by
  have hmid : mid.now + (ttls.ofKind kind).nanos < Store.clockEnd := h.now_eq ▸ hrange.ofKind kind
  have hlookup := Cache.lookup_of_get hkey hfetch hmid h.outages_eq hrun
  have hanswers : ∀ value,
      .ok value = source.answer kind (Cache.requestFor kind project (some backend)) →
        kind.Plain value :=
    fun value hvalue => hplain kind _ value hvalue.symm
  rcases h.lookup (hpositive.ofKind kind) hanswers hlookup with hread | ⟨e, rfl, hanswer, htrail⟩
  · exact .inl hread
  · exact .inr ⟨e, rfl, hanswer.symm, htrail⟩

/-- What follows a read is carried out with its document on the trail, and left out when the source
fails. -/
theorem read {f : kind.Value → CacheM β} {fetch : Fetch kind} {result : Except Error β}
    (h : Trail project backend start done mid)
    (hkey : Key.entry project kind requested = .ok (Key.part project kind backend))
    (hfetch : (fetch (Cache.requestFor kind project requested)).Inquires
      (· = source.answer kind (Cache.requestFor kind project (some backend))))
    (hrun : (Cache.get ttls kind project requested fetch >>= f) mid = CacheM.ending result last) :
    (∃ value next, Trail project backend start (⟨kind, value⟩ :: done) next ∧
      f value next = CacheM.ending result last) ∨
    ∃ e, result = .error e ∧
      source.answer kind (Cache.requestFor kind project (some backend)) = .error e ∧
      Trail project backend start done last := by
  rcases CacheM.ending_of_bind hrun with ⟨value, next, hget, hrun⟩ | ⟨e, hget, rfl⟩
  · rcases h.obtained hplain hpositive hrange hkey hfetch
      (show _ = CacheM.ending (.ok value) next from hget) with ⟨_, ⟨⟩, htrail⟩ | ⟨_, ⟨⟩, -⟩
    exact .inl ⟨value, next, htrail, hrun⟩
  · rcases h.obtained hplain hpositive hrange hkey hfetch
      (show _ = CacheM.ending (.error e) last from hget) with ⟨_, ⟨⟩, -⟩ | ⟨_, ⟨⟩, hanswer, htrail⟩
    exact .inr ⟨e, rfl, hanswer, htrail⟩

/-- The settings are read first, when no backend is known yet. Their key is the same for every backend,
so that they are on the trail of whichever one they name. -/
theorem settings {resolved : Source.Resolved} {f : Project → CacheM β} {result : Except Error β}
    (h : ∀ backend, Trail project backend start [] mid)
    (hresolves : source.Resolves project resolved)
    (hrun : (Cache.get ttls .data project none (fun _ => pure resolved.project) >>= f) mid
      = CacheM.ending result last) :
    ∃ data next, (∀ backend, Trail project backend start [⟨.data, data⟩] next) ∧
      f data next = CacheM.ending result last := by
  have hkey : ∀ backend, Key.entry project .data none = .ok (Key.part project .data backend) :=
    fun _ => rfl
  have hfetch : (pure resolved.project : CacheM Project).Inquires
      (· = source.answer .data ⟨project, none⟩) := CacheM.inquires_pure hresolves.data.symm
  rcases CacheM.ending_of_bind hrun with ⟨data, next, hget, hrun⟩ | ⟨e, hget, rfl⟩
  · refine ⟨data, next, fun backend => ?_, hrun⟩
    rcases (h backend).obtained hplain hpositive hrange (hkey backend) hfetch
      (show _ = CacheM.ending (.ok data) next from hget) with ⟨_, ⟨⟩, htrail⟩ | ⟨_, ⟨⟩, -⟩
    exact htrail
  · rcases (h "").obtained hplain hpositive hrange (hkey "") hfetch
      (show _ = CacheM.ending (.error e) last from hget) with ⟨_, ⟨⟩, -⟩ | ⟨_, ⟨⟩, hanswer, -⟩
    cases hanswer.symm.trans hresolves.data

end Reads

end Trail

/-! ## How a turn ends -/

/-- The backend is the one that the settings name that were read, or else those of the source. -/
def Backed (source : Source) (project : String) (done : List Document) (backend : String) : Prop :=
  ∃ data loaded, ⟨.data, data⟩ ∈ done ∧ source.answer .data ⟨project, none⟩ = .ok loaded ∧
    (Project.agentsBackend data <|> loaded.agentsBackend) = some backend

/-- A turn that has read these documents fails with the error. -/
inductive Halts (source : Source) (project backend : String) : List Document → Error → Prop where
  /-- Something that is looked up first cannot be had, and nothing is read. -/
  | resolve {kind : Kind} {e : Error} (hkind : kind ∈ [.data, .contentBase, .inlineAgent])
      (hanswer : source.answer kind ⟨project, none⟩ = .error e) :
      Halts source project backend [] e
  /-- Neither the settings that were read nor those of the source name a backend. -/
  | noBackend {data loaded : Project} (hanswer : source.answer .data ⟨project, none⟩ = .ok loaded)
      (hnone : (data.agentsBackend <|> loaded.agentsBackend) = none) :
      Halts source project backend [⟨.data, data⟩] (.configuration (.noBackendForTurn project))
  /-- A document is missing and cannot be fetched. -/
  | read {kind : Kind} {done : List Document} {e : Error}
      (hkind : kind ∈ [.instructions, .agent, .team, .guardrails])
      (hdone : done.map Document.kind = before kind) (hbackend : Backed source project done backend)
      (hanswer : source.answer kind (Cache.requestFor kind project (some backend)) = .error e) :
      Halts source project backend done e

/-- The documents of a turn of these kinds. -/
def documents (turn : Turn) (kinds : List Kind) : List Document :=
  kinds.map fun kind => ⟨kind, turn.part kind⟩

/-- The kinds that a turn reads, the latest first. Inline agents are left out when the source has
none. -/
def kindsRead (resolved : Source.Resolved) : List Kind :=
  if resolved.inlineAgent.isSome then .inlineAgent :: before .inlineAgent else before .inlineAgent

theorem mem_documents {kinds : List Kind} (turn : Turn) (hkind : kind ∈ kinds) :
    ⟨kind, turn.part kind⟩ ∈ turn.documents kinds :=
  List.mem_map_of_mem hkind

theorem mem_kindsRead {resolved : Source.Resolved} (hkind : kind ∈ before .inlineAgent) :
    kind ∈ kindsRead resolved := by
  unfold kindsRead
  split
  · exact List.mem_cons_of_mem _ hkind
  · exact hkind

/-- The ways in which a turn can end, with what it has done. -/
inductive Ended (source : Source) (project : String) (start : World) :
    Except Error Turn → World → Prop where
  | halted {backend : String} {done : List Document} {e : Error} {last : World}
      (htrail : Trail project backend start done last) (hhalts : Halts source project backend done e) :
      Ended source project start (.error e) last
  | completed {turn : Turn} {resolved : Source.Resolved} {last : World}
      (hresolves : source.Resolves project resolved)
      (htrail : Trail project turn.agentsBackend start (turn.documents (kindsRead resolved)) last)
      (hbackend : (turn.project.agentsBackend <|> resolved.project.agentsBackend)
        = some turn.agentsBackend)
      (hinline : resolved.inlineAgent = none → turn.inlineAgent = none) :
      Ended source project start (.ok turn) last

theorem Ended.after {result : Except Error Turn} {events : List Happening}
    (h : Ended source project start result last) (hevents : ∀ event ∈ events, event.Apart) :
    Ended source project start result (last.after events) := by
  rcases h with ⟨htrail, hhalts⟩ | ⟨hresolves, htrail, hbackend, hinline⟩
  · exact .halted (htrail.after hevents) hhalts
  · exact .completed hresolves (htrail.after hevents) hbackend hinline

/-- What a source looks up together are its answers, or one of them is a failure. -/
theorem resolve_inquires (source : Source) (project : String) :
    (source.resolve project).Inquires fun result =>
      (∃ resolved, result = .ok resolved ∧ source.Resolves project resolved) ∨
      ∃ e, result = .error e ∧ ∃ kind ∈ [Kind.data, .contentBase, .inlineAgent],
        source.answer kind ⟨project, none⟩ = .error e := by
  unfold Source.resolve
  refine source.inquires_fetch_bind .data _ (fun data hdata => ?_) fun e he => ?_
  · refine source.inquires_fetch_bind .contentBase _ (fun contentBase hcontentBase => ?_) fun e he => ?_
    · refine source.inquires_fetch_bind .inlineAgent _ (fun inlineAgent hinline => ?_) fun e he => ?_
      · exact CacheM.inquires_pure (.inl ⟨_, rfl, hdata, hcontentBase, hinline⟩)
      · exact .inr ⟨e, rfl, .inlineAgent, by simp, he⟩
    · exact .inr ⟨e, rfl, .contentBase, by simp, he⟩
  · exact .inr ⟨e, rfl, .data, by simp, he⟩

section Ends

variable {result : Except Error Turn} (hplain : source.Plain) (hpositive : ttls.Positive)
  (hrange : ttls.InRange start.now)

include hplain hpositive hrange

/-- A read that asks the source goes on with its document, or ends the turn. -/
theorem Trail.fetch {f : kind.Value → CacheM Turn} (h : Trail project backend start done mid)
    (hkind : kind ∈ [.instructions, .agent, .team, .guardrails])
    (hdone : done.map Document.kind = before kind) (hbacked : Backed source project done backend)
    (hkey : Key.entry project kind requested = .ok (Key.part project kind backend))
    (hrequest : Cache.requestFor kind project requested
      = Cache.requestFor kind project (some backend))
    (hrun : (Cache.get ttls kind project requested (source.fetch kind) >>= f) mid
      = CacheM.ending result last) :
    (∃ value next, Trail project backend start (⟨kind, value⟩ :: done) next ∧
      f value next = CacheM.ending result last) ∨
    Ended source project start result last := by
  have hfetch : (source.fetch kind (Cache.requestFor kind project requested)).Inquires
      (· = source.answer kind (Cache.requestFor kind project (some backend))) := by
    rw [hrequest]
    exact source.fetch_inquires kind _
  rcases h.read hplain hpositive hrange hkey hfetch hrun with hread | ⟨e, rfl, hanswer, htrail⟩
  · exact .inl hread
  · exact .inr (.halted htrail (.read hkind hdone hbacked hanswer))

/-- Reading the documents of a turn ends in one of these ways. -/
theorem ended_of_load (houtages : start.outages = [])
    (hrun : load ttls source project start = CacheM.ending result last) :
    Ended source project start result last := by
  unfold load at hrun
  obtain ⟨resolution, events, hresolve, hevents, hresolution⟩ := resolve_inquires source project start
  have htrail : ∀ backend, Trail project backend start [] (start.after events) :=
    fun backend => (Trail.begin project backend houtages).after hevents
  rcases hresolution with ⟨resolved, rfl, hresolves⟩ | ⟨e, rfl, kind, hkind, hanswer⟩
  rotate_left
  · rw [CacheM.bind_of_error hresolve] at hrun
    obtain ⟨rfl, rfl⟩ :=
      CacheM.ending_inj (show CacheM.ending (.error e) _ = CacheM.ending result last from hrun)
    exact .halted (htrail "") (.resolve hkind hanswer)
  rw [CacheM.bind_of_ok hresolve] at hrun
  obtain ⟨data, next, htrail, hrun⟩ :=
    Trail.settings hplain hpositive hrange htrail hresolves hrun
  rcases hnamed : Project.agentsBackend data <|> resolved.project.agentsBackend with _ | backend
  · rw [hnamed] at hrun
    obtain ⟨rfl, rfl⟩ :=
      CacheM.ending_inj (show CacheM.ending (.error _) _ = CacheM.ending result last from hrun)
    exact .halted (htrail "") (.noBackend hresolves.data hnamed)
  rw [hnamed] at hrun
  have hbacked : ∀ {done}, ⟨.data, data⟩ ∈ done → Backed source project done backend :=
    fun hdata => ⟨data, resolved.project, hdata, hresolves.data, hnamed⟩
  have hkeyless : ∀ kind, kind ≠ .team →
      Key.entry project kind none = .ok (Key.part project kind backend) :=
    fun _ hkind => Key.entry_eq_part hkind project backend none
  rcases (htrail backend).read hplain hpositive hrange (hkeyless .contentBase (by decide))
    (CacheM.inquires_pure hresolves.contentBase.symm) hrun with
    ⟨contentBase, next, htrail, hrun⟩ | ⟨e, -, hanswer, -⟩
  rotate_left
  · cases hanswer.symm.trans hresolves.contentBase
  rcases htrail.fetch hplain hpositive hrange (by simp) rfl (hbacked (by simp))
    (hkeyless .instructions (by decide)) rfl hrun with
    ⟨instructions, next, htrail, hrun⟩ | hended
  rotate_left
  · exact hended
  rcases htrail.fetch hplain hpositive hrange (by simp) rfl (hbacked (by simp))
    (hkeyless .agent (by decide)) rfl hrun with ⟨agent, next, htrail, hrun⟩ | hended
  rotate_left
  · exact hended
  rcases htrail.fetch hplain hpositive hrange (by simp) rfl (hbacked (by simp))
    (Key.entry_team project backend) rfl hrun with ⟨team, next, htrail, hrun⟩ | hended
  rotate_left
  · exact hended
  rcases htrail.fetch hplain hpositive hrange (by simp) rfl (hbacked (by simp))
    (hkeyless .guardrails (by decide)) rfl hrun with ⟨guardrails, next, htrail, hrun⟩ | hended
  rotate_left
  · exact hended
  rcases hinline : resolved.inlineAgent with _ | inlineAgent
  · rw [hinline] at hrun
    obtain ⟨rfl, rfl⟩ :=
      CacheM.ending_inj (show CacheM.ending (.ok _) next = CacheM.ending result last from hrun)
    refine .completed hresolves ?_ hnamed fun _ => rfl
    rw [kindsRead, hinline]
    exact htrail
  · rw [hinline] at hrun
    have hanswer := hresolves.inlineAgent
    rw [hinline] at hanswer
    rcases htrail.read hplain hpositive hrange (hkeyless .inlineAgent (by decide))
      (CacheM.inquires_pure hanswer.symm) hrun with
      ⟨found, next, htrail, hrun⟩ | ⟨e, -, hfailed, -⟩
    · obtain ⟨rfl, rfl⟩ :=
        CacheM.ending_inj (show CacheM.ending (.ok _) next = CacheM.ending result last from hrun)
      refine .completed hresolves ?_ hnamed fun hnone => ?_
      · rw [kindsRead, hinline]
        exact htrail
      · cases hnone.symm.trans hinline
    · cases hfailed.symm.trans hanswer

/-- A turn ends as the reading of its documents does; the log lines that it adds change nothing. -/
theorem ended_of_prepare {slow : Span} (houtages : start.outages = [])
    (hrun : prepare ttls slow source project start = CacheM.ending result last) :
    Ended source project start result last := by
  obtain ⟨loaded, read, hload⟩ := CacheM.ending_surjective (load ttls source project start)
  obtain ⟨lines, hlines, hprepare⟩ := reports_prepare ttls slow source project start loaded read hload
  obtain ⟨rfl, rfl⟩ := CacheM.ending_inj (hrun.symm.trans hprepare)
  refine (ended_of_load hplain hpositive hrange houtages hload).after ?_
  intro line hline
  obtain ⟨level, text, rfl, -⟩ := hlines line hline
  exact Happening.apart_logged level text

end Ends

/-- Whatever the store holds, a turn neither reads nor writes the bundle and leaves every document as it
is, and what it has read before it stops is stored. When it fails, it fails as the source does or for
want of a backend, with the documents read before that step and nothing written for later ones. When it
succeeds, the backend is that of its settings or else that of the source, the roster is the one stored
for this backend, and there are no inline agents when the source has none. -/
theorem prepare_keeps_what_was_read {slow : Span} {world world' : World} {result : Except Error Turn}
    (hplain : source.Plain) (hpositive : ttls.Positive) (hrange : ttls.InRange world.now)
    (houtages : world.outages = [])
    (hrun : prepare ttls slow source project world = CacheM.ending result world') :
    ∃ backend done,
      (∃ events, world'.trace = events ++ world.trace ∧ ∀ event ∈ events,
        event.KeepsTo project backend (done.map Document.kind) ∧
          ∀ call, event.storeCall? ≠ some (call, Key.bundle project)) ∧
      (∀ key entry, world.store.live? world.now key = some entry →
        (∀ kind, key = Key.part project kind backend → ∃ value, kind.decode entry.value = .ok value) →
          world'.store.live? world.now key = some entry) ∧
      (∀ document ∈ done, world'.store.document? document.kind.decode world.now
        (Key.part project document.kind backend) = some document.value) ∧
      (∀ e, result = .error e → Halts source project backend done e) ∧
      ∀ turn, result = .ok turn →
        backend = turn.agentsBackend ∧ (∀ kind ∈ before .inlineAgent, ⟨kind, turn.part kind⟩ ∈ done) ∧
        (∃ loaded, source.answer .data ⟨project, none⟩ = .ok loaded ∧
          (turn.project.agentsBackend <|> loaded.agentsBackend) = some turn.agentsBackend) ∧
        world'.store.document? (Kind.decode .team) world.now (Key.team project turn.agentsBackend)
          = some turn.team ∧
        (source.answer .inlineAgent ⟨project, none⟩ = .ok none → turn.inlineAgent = none) := by
  rcases ended_of_prepare hplain hpositive hrange houtages hrun with
    ⟨htrail, hhalts⟩ | @⟨turn, resolved, _, hresolves, htrail, hbackend, hinline⟩
  · refine ⟨_, _, htrail.called_beside_bundle, htrail.live?_of_decodes, htrail.held, ?_, ?_⟩
    · rintro _ ⟨⟩
      exact hhalts
    · rintro _ ⟨⟩
  · refine ⟨_, _, htrail.called_beside_bundle, htrail.live?_of_decodes, htrail.held, ?_, ?_⟩
    · rintro _ ⟨⟩
    · intro returned hreturned
      obtain rfl := Except.ok.inj hreturned
      have hread : ∀ kind ∈ before .inlineAgent,
          ⟨kind, turn.part kind⟩ ∈ turn.documents (kindsRead resolved) :=
        fun kind hkind => mem_documents turn (mem_kindsRead hkind)
      have hteam := htrail.held ⟨.team, turn.team⟩ (hread .team (by simp [before]))
      refine ⟨rfl, hread, ⟨resolved.project, hresolves.data, hbackend⟩, hteam, ?_⟩
      intro hnone
      exact hinline (Except.ok.inj (hresolves.inlineAgent.symm.trans hnone))

/-- The roster cannot be fetched: the absence of a personality that was cached stays, and what was read
before is stored. -/
theorem prepare_keeps_what_was_read_of_failing :
    let source := (Source.sole .lone).setFailing .team true
    let world : World := { now := 0, store := (∅ : Store).put (Key.plain "p" .agent) ⟨.null, 1⟩ }
    ∃ e world' backend done,
      prepare .default slowThreshold source "p" world = .error e world' ∧
      Halts source "p" backend done e ∧
      (∀ document ∈ done, world'.store.document? document.kind.decode 0
        (Key.part "p" document.kind backend) = some document.value) ∧
      world'.store.live? 0 (Key.plain "p" .agent) = some ⟨.null, 1⟩ := by
  intro source world
  obtain ⟨result, world', hrun, hfailed⟩ : ∃ result world',
      prepare .default slowThreshold source "p" world = CacheM.ending result world' ∧
        result.isOk = false := by decide +kernel
  have hplain : source.Plain := (Source.plain_sole Project.plain_lone).setFailing .team
  obtain ⟨backend, done, -, hspared, hheld, hhalts, -⟩ :=
    prepare_keeps_what_was_read hplain Ttls.positive_default Ttls.inRange_default rfl hrun
  rcases result with e | turn
  · refine ⟨e, world', backend, done, hrun, hhalts e rfl, hheld, ?_⟩
    refine hspared (Key.plain "p" .agent) ⟨.null, 1⟩ (by decide +kernel) ?_
    intro kind hkey
    obtain rfl : .agent = kind :=
      Key.kind_of_part (show Key.part "p" .agent backend = Key.part "p" kind backend from hkey)
    exact ⟨none, rfl⟩
  · cases hfailed

end Turn

end ProjectCache
