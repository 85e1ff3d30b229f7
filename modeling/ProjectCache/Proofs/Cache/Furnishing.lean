/-
# ProjectCache.Proofs.Cache.Furnishing — what an operation brings into a cache from outside.

A cache makes no documents. An operation furnishes one under a key (`Operation.Furnishes`) when it is
given the document, or fetches it at its own clock reading because the cache has none there or because
it was told to. One operation renews a store with nothing but what it furnishes, and each document that
it reads for its caller was stored under its key or is furnished by the operation itself
(`Operation.ensures_run_renewed`). For a turn, which reads seven documents one after the other and stops
at the first that cannot be had, this takes a record of the reads so far (`Turn.Progress`).
-/
import ProjectCache.Proofs.Cache.Provenance
import ProjectCache.Proofs.Cache.Renewal

namespace ProjectCache

variable {now : Nat} {project key backend : String} {requested : Option String} {ttls : Ttls}
  {kind : Kind} {store mid reached : Store} {source : Source}

/-! ## The reads of a turn -/

/-- The source looks these parts up together. -/
structure Source.Resolves (source : Source) (project : String) (resolved : Source.Resolved) :
    Prop where
  data : source.answer .data ⟨project, none⟩ = .ok resolved.project
  contentBase : source.answer .contentBase ⟨project, none⟩ = .ok resolved.contentBase
  inlineAgent : source.answer .inlineAgent ⟨project, none⟩ = .ok resolved.inlineAgent

/-- What comes of a request is the answer of the source, or a failure. -/
def Source.Answers (source : Source) (kind : Kind) (request : Request)
    (result : Except Error kind.Value) : Prop :=
  ∀ value, result = .ok value → source.answer kind request = .ok value

/-- A source that is asked for a document fetches its answer. -/
theorem Source.fetch_answers (source : Source) (kind : Kind) (request : Request) :
    (source.fetch kind request).Fetches (source.Answers kind request) := by
  intro now store
  refine (source.fetch_fetches kind request now store).mono ?_
  rintro result _ ⟨rfl, hreached⟩
  exact ⟨fun value hvalue => hvalue, hreached⟩

/-- An answer may be kept and handed out later. -/
theorem Source.pure_answers {request : Request} {value : kind.Value}
    (h : source.answer kind request = .ok value) :
    (pure value : CacheM kind.Value).Fetches (source.Answers kind request) :=
  CacheM.fetches_pure h

/-- The document of a kind among the parts that were looked up together. -/
def Source.Resolved.part (resolved : Source.Resolved) : (kind : Kind) → Option kind.Value
  | .data => some resolved.project
  | .contentBase => some resolved.contentBase
  | .inlineAgent => some resolved.inlineAgent
  | .team | .guardrails | .instructions | .agent => none

/-- A part that was looked up is the answer of the source. -/
theorem Source.Resolves.answer {resolved : Source.Resolved} {value : kind.Value}
    (h : source.Resolves project resolved) (hpart : resolved.part kind = some value)
    (backend : Option String) :
    source.answer kind (Cache.requestFor kind project backend) = .ok value := by
  cases kind with
  | data => exact Option.some.inj hpart ▸ h.data
  | contentBase => exact Option.some.inj hpart ▸ h.contentBase
  | inlineAgent => exact Option.some.inj hpart ▸ h.inlineAgent
  | team => cases hpart
  | guardrails => cases hpart
  | instructions => cases hpart
  | agent => cases hpart

namespace Turn

/-- The document of a kind in a turn. -/
def part (turn : Turn) : (kind : Kind) → kind.Value
  | .data => turn.project
  | .contentBase => turn.contentBase
  | .team => turn.team
  | .guardrails => turn.guardrails
  | .inlineAgent => turn.inlineAgent
  | .instructions => turn.instructions
  | .agent => turn.agent

/-- The kinds that a turn reads before a kind, the latest first. -/
def before : Kind → List Kind
  | .data => []
  | .contentBase => [.data]
  | .instructions => [.contentBase, .data]
  | .agent => [.instructions, .contentBase, .data]
  | .team => [.agent, .instructions, .contentBase, .data]
  | .guardrails => [.team, .agent, .instructions, .contentBase, .data]
  | .inlineAgent => [.guardrails, .team, .agent, .instructions, .contentBase, .data]

theorem not_mem_before (kind : Kind) : kind ∉ before kind := by
  cases kind <;> decide

end Turn

/-- A turn that reads the kind comes to a document: one is stored, or the source answers with one and
it can be stored. -/
def Store.Obtains (store : Store) (ttls : Ttls) (now : Nat) (source : Source)
    (project backend : String) (kind : Kind) : Prop :=
  (store.document? kind.decode now (Key.part project kind backend)).isSome ∨
    (∃ value, source.answer kind (Cache.requestFor kind project (some backend)) = .ok value) ∧
      now + (ttls.ofKind kind).nanos < Store.clockEnd

/-! ## Furnishing -/

/-- The operation, in a cache with this store, brings the document under the key from outside: it is
given the document, or fetches it at this clock reading. -/
inductive Operation.Furnishes (ttls : Ttls) (store : Store) (now : Nat) :
    String → Document → Operation → Prop where
  /-- A read finds nothing, and fetches. -/
  | get {kind : Kind} {project key : String} {backend : Option String} {fetch : Fetch kind}
      {value : kind.Value} (hkey : Key.entry project kind backend = .ok key)
      (hmissing : store.document? kind.decode now key = none)
      (hfetched : ∃ asked answered : World, asked.now = now ∧
        fetch (Cache.requestFor kind project backend) asked = .ok value answered) :
      Furnishes ttls store now key ⟨kind, value⟩ (.get kind project backend fetch)
  /-- A refresh fetches whatever the cache has. -/
  | refreshWith {kind : Kind} {project key : String} {backend : Option String} {fetch : Fetch kind}
      {value : kind.Value} (hkey : Key.entry project kind backend = .ok key)
      (hfetched : ∃ asked answered : World, asked.now = now ∧
        fetch (Cache.requestFor kind project backend) asked = .ok value answered) :
      Furnishes ttls store now key ⟨kind, value⟩ (.refreshWith kind project backend fetch)
  /-- A document is pushed. -/
  | refresh {project key : String} {document : Document} {backend : Option String}
      (hkey : Key.entry project document.kind backend = .ok key) :
      Furnishes ttls store now key document (.refresh project document backend)
  /-- No bundle serves a request, and the documents of one are fetched. -/
  | getBundle {source : Source} {project backend : String} {requested : Option String}
      {bundle : Bundle} {kind : Kind} {value : kind.Value}
      (hmiss : ∀ bundle, store.document? Bundle.decode now (Key.bundle project) = some bundle →
        bundle.serves requested = false)
      (hbundle : source.Supplies project backend bundle)
      (hbackend : (requested <|> bundle.data.agentsBackend) = some backend)
      (hpart : bundle.part kind = some value) :
      Furnishes ttls store now (Key.part project kind backend) ⟨kind, value⟩
        (.getBundle source project requested)
  /-- A turn looks up some documents before it reads. -/
  | turnResolved {source : Source} {project : String} {resolved : Source.Resolved} {kind : Kind}
      {value : kind.Value} (hresolved : source.Resolves project resolved)
      (hpart : resolved.part kind = some value) :
      Furnishes ttls store now (Key.plain project kind) ⟨kind, value⟩ (.turn source project)
  /-- A turn that has come that far finds nothing, and fetches. -/
  | turnRead {source : Source} {project backend : String} {resolved : Source.Resolved} {kind : Kind}
      {value : kind.Value} (hresolved : source.Resolves project resolved)
      (hbackend : store.turnBackend now project resolved.project = some backend)
      (hkind : kind ∈ [.instructions, .agent, .team, .guardrails])
      (hbefore : ∀ earlier ∈ Turn.before kind,
        store.Obtains ttls now source project backend earlier)
      (hmissing : store.document? kind.decode now (Key.part project kind backend) = none)
      (hfetched : source.answer kind (Cache.requestFor kind project (some backend)) = .ok value) :
      Furnishes ttls store now (Key.part project kind backend) ⟨kind, value⟩ (.turn source project)

/-- What the operation delivers to the cache. -/
def Operation.delivery (operation : Operation) (ttls : Ttls) (store : Store) (now : Nat) : Delivery :=
  fun key document => operation.Furnishes ttls store now key document

namespace Turn

/-- A turn has read these kinds: the store is renewed, keys of other documents and of the bundle hold
what they held, and a document was obtained of each kind. -/
structure Progress (ttls : Ttls) (now : Nat) (source : Source) (project backend : String)
    (store : Store) (seen : List Kind) (reached : Store) : Prop where
  renewed : ':' ∉ project.toList →
    store.Renewed ttls now ((Operation.turn source project).delivery ttls store now) reached
  untouched : ∀ kind, kind ∉ seen →
    reached.live? now (Key.part project kind backend)
      = store.live? now (Key.part project kind backend)
  bundle : reached.live? now (Key.bundle project) = store.live? now (Key.bundle project)
  obtained : ∀ kind ∈ seen, store.Obtains ttls now source project backend kind

theorem Progress.start (ttls : Ttls) (now : Nat) (source : Source) (project backend : String)
    (store : Store) : Progress ttls now source project backend store [] store where
  renewed _ := .refl store ttls now _
  untouched _ _ := rfl
  bundle := rfl
  obtained _ hkind := nomatch hkind

/-- The document was stored under its key, or the turn furnishes it. -/
def Accounted (ttls : Ttls) (now : Nat) (source : Source) (project backend : String)
    (store : Store) (kind : Kind) (value : kind.Value) : Prop :=
  store.document? kind.decode now (Key.part project kind backend) = some value ∨
    (Operation.turn source project).Furnishes ttls store now (Key.part project kind backend)
      ⟨kind, value⟩

/-- What a read of a turn may fetch, the turn furnishes. -/
def Supplied (ttls : Ttls) (now : Nat) (source : Source) (project backend : String)
    (store : Store) (kind : Kind) : Prop :=
  store.document? kind.decode now (Key.part project kind backend) = none →
    ∀ value, source.answer kind (Cache.requestFor kind project (some backend)) = .ok value →
      (Operation.turn source project).Furnishes ttls store now (Key.part project kind backend)
        ⟨kind, value⟩

/-- The turn furnishes what it has looked up. -/
theorem supplied_of_resolves {resolved : Source.Resolved} {value : kind.Value}
    (hresolves : source.Resolves project resolved) (hpart : resolved.part kind = some value)
    (ttls : Ttls) (now : Nat) (backend : String) (store : Store) :
    Supplied ttls now source project backend store kind := by
  intro _ found hfound
  obtain rfl : value = found :=
    Except.ok.inj ((hresolves.answer hpart (some backend)).symm.trans hfound)
  have hkind : kind ≠ .team := by
    rintro rfl
    cases hpart
  have hkey : Key.part project kind backend = Key.plain project kind :=
    Except.ok.inj ((Key.entry_some project kind backend).symm.trans
      (Key.entry_of_ne_team hkind project (some backend)))
  rw [hkey]
  exact .turnResolved hresolves hpart

/-- The next read renews the store, and when it comes to a document the turn has read one kind more. -/
theorem Progress.created (kind : Kind) {result : Except Error kind.Value} (hplain : source.Plain)
    (h : Progress ttls now source project backend store (before kind) mid)
    (hsupplied : Supplied ttls now source project backend store kind)
    (hcreated : Cache.Created ttls now kind (Key.part project kind backend)
      (source.Answers kind (Cache.requestFor kind project (some backend))) mid result reached) :
    (':' ∉ project.toList →
        store.Renewed ttls now ((Operation.turn source project).delivery ttls store now) reached) ∧
      ∀ value, result = .ok value → Accounted ttls now source project backend store kind value ∧
        Progress ttls now source project backend store (kind :: before kind) reached := by
  have hkey := Key.entry_some project kind backend
  -- the key was not read before, so what the read finds is what was there at the start
  have hsame : mid.document? kind.decode now (Key.part project kind backend)
      = store.document? kind.decode now (Key.part project kind backend) :=
    Store.document?_congr (h.untouched kind (not_mem_before kind)) kind.decode
  have hrenewed : ':' ∉ project.toList →
      store.Renewed ttls now ((Operation.turn source project).delivery ttls store now) reached :=
    fun hproject => (h.renewed hproject).trans (hcreated.renewed hproject hkey
      (fun value hvalue => hplain kind _ value (hvalue value rfl))
      (fun hmissing value hvalue => hsupplied (hsame ▸ hmissing) value (hvalue value rfl)))
  refine ⟨hrenewed, ?_⟩
  intro value hvalue
  subst hvalue
  have haccounted : Accounted ttls now source project backend store kind value ∧
      store.Obtains ttls now source project backend kind := by
    cases hcreated with
    | present hpresent =>
      rw [hsame] at hpresent
      exact ⟨.inl hpresent, .inl (Option.isSome_of_eq_some hpresent)⟩
    | created hmissing hfetched hrange =>
      have hanswer := hfetched value rfl
      exact ⟨.inr (hsupplied (hsame ▸ hmissing) value hanswer), .inr ⟨⟨value, hanswer⟩, hrange⟩⟩
  refine ⟨haccounted.1, hrenewed, ?_, ?_, ?_⟩
  · intro other hother
    rw [List.mem_cons, not_or] at hother
    have hne : Key.part project other backend ≠ Key.part project kind backend := by
      intro heq
      exact hother.1 (Key.kind_of_part heq)
    exact (hcreated.live?_of_ne hne).trans (h.untouched other hother.2)
  · exact (hcreated.live?_of_ne (Key.entry_ne_bundle hkey).symm).trans h.bundle
  · intro other hother
    rcases List.mem_cons.1 hother with rfl | hother
    · exact haccounted.2
    · exact h.obtained other hother

/-- What follows a read is carried out with a document that is accounted for. -/
theorem Progress.read {β : Type} (kind : Kind) {fetch : Fetch kind} {f : kind.Value → CacheM β}
    {goal : Except Error β → Store → Prop} (hplain : source.Plain)
    (h : Progress ttls now source project backend store (before kind) mid)
    (hkey : Key.entry project kind requested = .ok (Key.part project kind backend))
    (hfetch : (fetch (Cache.requestFor kind project requested)).Fetches
      (source.Answers kind (Cache.requestFor kind project (some backend))))
    (hsupplied : Supplied ttls now source project backend store kind)
    (hf : ∀ value reached, Accounted ttls now source project backend store kind value →
      Progress ttls now source project backend store (kind :: before kind) reached →
        CacheM.Ensures now reached (f value) goal)
    (hfailed : ∀ e reached, (':' ∉ project.toList →
      store.Renewed ttls now ((Operation.turn source project).delivery ttls store now) reached) →
        goal (.error e) reached) :
    CacheM.Ensures now mid (Cache.get ttls kind project requested fetch >>= f) goal := by
  refine (Cache.ensures_get_of_entry hkey (hfetch now) ttls mid).bind ?_ ?_
  · intro value reached hcreated
    obtain ⟨-, hok⟩ := h.created kind hplain hsupplied hcreated
    obtain ⟨haccounted, hprogress⟩ := hok value rfl
    exact hf value reached haccounted hprogress
  · intro e reached hcreated
    exact hfailed e reached (h.created kind hplain hsupplied hcreated).1

/-- The documents of a turn are accounted for, its backend is named by the settings that were read or
else by those of the source, and the bundle was not touched. -/
structure Loaded (ttls : Ttls) (now : Nat) (source : Source) (project : String) (store : Store)
    (turn : Turn) (reached : Store) : Prop where
  accounted : ∀ kind,
    Accounted ttls now source project turn.agentsBackend store kind (turn.part kind)
  backend : ∃ resolved, source.Resolves project resolved ∧
    (turn.project.agentsBackend <|> resolved.project.agentsBackend) = some turn.agentsBackend
  bundle : reached.live? now (Key.bundle project) = store.live? now (Key.bundle project)

/-- The settings are read first, when no backend is known yet. Their key is the same for every backend,
so that the read counts for whichever one they name. -/
theorem ensures_get_settings {resolved : Source.Resolved} (hplain : source.Plain)
    (hresolves : source.Resolves project resolved) (ttls : Ttls) (now : Nat) (store : Store) :
    CacheM.Ensures now store (Cache.get ttls .data project none fun _ => pure resolved.project)
      fun result reached =>
        (':' ∉ project.toList →
          store.Renewed ttls now ((Operation.turn source project).delivery ttls store now) reached) ∧
        ∀ data, result = .ok data →
          store.turnBackend now project resolved.project
              = (Project.agentsBackend data <|> resolved.project.agentsBackend) ∧
            ∀ backend, Accounted ttls now source project backend store .data data ∧
              Progress ttls now source project backend store [.data] reached := by
  have hkey : Key.entry project .data none = .ok (Key.plain project .data) :=
    Key.entry_of_ne_team (by decide) project none
  have hget : CacheM.Ensures now store (Cache.get ttls .data project none fun _ => pure resolved.project)
      (Cache.Created ttls now .data (Key.plain project .data) (source.Answers .data ⟨project, none⟩)
        store) := by
    refine Cache.ensures_get_of_entry hkey ?_ ttls store
    exact Source.pure_answers hresolves.data now
  refine hget.mono ?_
  intro result reached hcreated
  have hread := fun backend => (Progress.start ttls now source project backend store).created .data
    hplain (supplied_of_resolves hresolves rfl ttls now backend store) hcreated
  refine ⟨(hread "").1, ?_⟩
  intro data hdata
  subst hdata
  refine ⟨?_, fun backend => (hread backend).2 data rfl⟩
  rw [Store.turnBackend]
  cases hcreated with
  | present hvalue =>
    rw [hvalue]
    rfl
  | created hmissing hfetched =>
    -- what was fetched is what the source had been asked for
    obtain rfl := Except.ok.inj (hresolves.data.symm.trans (hfetched data rfl))
    rw [hmissing]
    rfl

/-- Reading the documents of a turn renews the store with what the turn furnishes, and accounts for
each document. -/
theorem ensures_load_renewed (hplain : source.Plain) (ttls : Ttls) (now : Nat) (project : String)
    (store : Store) :
    CacheM.Ensures now store (load ttls source project) fun result reached =>
      (':' ∉ project.toList →
        store.Renewed ttls now ((Operation.turn source project).delivery ttls store now) reached) ∧
      ∀ turn, result = .ok turn → Loaded ttls now source project store turn reached := by
  have hfailed : ∀ (e : Error) (reached : Store), (':' ∉ project.toList →
      store.Renewed ttls now ((Operation.turn source project).delivery ttls store now) reached) →
        (':' ∉ project.toList →
          store.Renewed ttls now ((Operation.turn source project).delivery ttls store now) reached) ∧
        ∀ turn, Except.error e = Except.ok turn →
          Loaded ttls now source project store turn reached :=
    fun e reached hreached => ⟨hreached, fun turn hturn => by cases hturn⟩
  unfold load
  refine (resolve_fetches source project now store).bind ?_ fun e _ hreached => ?_
  rotate_left
  · rw [hreached.2]
    exact hfailed e store fun _ => .refl store ttls now _
  rintro resolved _ ⟨hanswers, hresolve⟩
  rw [hresolve]
  obtain ⟨hdata, hcontentBase, hinlineAgent⟩ := hanswers resolved rfl
  have hresolves : source.Resolves project resolved := ⟨hdata, hcontentBase, hinlineAgent⟩
  have hresolved : ∀ kind {value}, resolved.part kind = some value → ∀ backend,
      Supplied ttls now source project backend store kind :=
    fun kind _ hpart backend => supplied_of_resolves hresolves hpart ttls now backend store
  have hkeyless : ∀ kind, kind ≠ .team → Key.entry project kind none = .ok (Key.plain project kind) :=
    fun kind hkind => Key.entry_of_ne_team hkind project none
  refine (ensures_get_settings hplain hresolves ttls now store).bind ?_
    fun e reached hread => hfailed e reached hread.1
  rintro data afterData ⟨hrenewed, hdata⟩
  obtain ⟨hnamed, hdata⟩ := hdata data rfl
  cases hbackend : Project.agentsBackend data <|> resolved.project.agentsBackend with
  | none => exact CacheM.ensures_throw (hfailed _ _ hrenewed)
  | some backend =>
    obtain ⟨haccountedData, hprogress⟩ := hdata backend
    have hread : ∀ kind ∈ [Kind.instructions, .agent, .team, .guardrails],
        ∀ {seen mid}, seen = before kind → Progress ttls now source project backend store seen mid →
          Supplied ttls now source project backend store kind := by
      rintro kind hkind _ _ rfl hmid hmissing value hvalue
      exact .turnRead hresolves (hnamed.trans hbackend) hkind hmid.obtained hmissing hvalue
    refine hprogress.read .contentBase hplain (hkeyless .contentBase (by decide))
      (Source.pure_answers hcontentBase) (hresolved .contentBase rfl backend)
      (fun contentBase _ haccountedContentBase hprogress => ?_) hfailed
    refine hprogress.read .instructions hplain (hkeyless .instructions (by decide))
      (source.fetch_answers .instructions _) (hread .instructions (by decide) rfl hprogress)
      (fun instructions _ haccountedInstructions hprogress => ?_) hfailed
    refine hprogress.read .agent hplain (hkeyless .agent (by decide))
      (source.fetch_answers .agent _) (hread .agent (by decide) rfl hprogress)
      (fun agent _ haccountedAgent hprogress => ?_) hfailed
    refine hprogress.read .team hplain (Key.entry_team project backend)
      (source.fetch_answers .team _) (hread .team (by decide) rfl hprogress)
      (fun team _ haccountedTeam hprogress => ?_) hfailed
    refine hprogress.read .guardrails hplain (hkeyless .guardrails (by decide))
      (source.fetch_answers .guardrails _) (hread .guardrails (by decide) rfl hprogress)
      (fun guardrails _ haccountedGuardrails hprogress => ?_) hfailed
    have hloaded : ∀ inlineAgent reached,
        Accounted ttls now source project backend store .inlineAgent inlineAgent →
        reached.live? now (Key.bundle project) = store.live? now (Key.bundle project) →
          Loaded ttls now source project store ⟨data, contentBase, team, guardrails, inlineAgent,
            backend, instructions, agent⟩ reached := by
      intro inlineAgent reached haccounted hbundle
      refine ⟨?_, ⟨resolved, hresolves, hbackend⟩, hbundle⟩
      intro kind
      cases kind <;> assumption
    cases hinline : resolved.inlineAgent with
    | none =>
      refine CacheM.ensures_pure ⟨hprogress.renewed, ?_⟩
      rintro _ ⟨⟩
      exact hloaded none _ (.inr (.turnResolved hresolves (congrArg some hinline))) hprogress.bundle
    | some inlineAgent =>
      rw [hinline] at hinlineAgent
      refine hprogress.read .inlineAgent hplain (hkeyless .inlineAgent (by decide))
        (Source.pure_answers hinlineAgent) (hresolved .inlineAgent rfl backend)
        (fun _ _ haccounted hprogress => ?_) hfailed
      refine CacheM.ensures_pure ⟨hprogress.renewed, ?_⟩
      rintro _ ⟨⟩
      exact hloaded _ _ haccounted hprogress.bundle

end Turn

/-! ## One operation -/

namespace Operation

/-- The operation reads a document for its caller, under this key, and the answer has it. -/
inductive Reads : Operation → Answer → String → Document → Prop where
  | get {kind : Kind} {project key : String} {backend : Option String} {fetch : Fetch kind}
      {value : kind.Value} (hkey : Key.entry project kind backend = .ok key) :
      Reads (.get kind project backend fetch) (.document ⟨kind, value⟩) key ⟨kind, value⟩
  | turn {source : Source} {project key : String} {turn : Turn} {kind : Kind} {value : kind.Value}
      (hkey : Key.part project kind turn.agentsBackend = key) (hvalue : turn.part kind = value) :
      Reads (.turn source project) (.turn turn) key ⟨kind, value⟩

/-- What a tidy operation reads is under the key of a document of a project. -/
theorem Reads.entry {operation : Operation} {answer : Answer} {document : Document}
    (h : operation.Reads answer key document) (htidy : operation.Tidy) :
    ∃ project backend, ':' ∉ project.toList ∧
      Key.entry project document.kind backend = .ok key := by
  cases h with
  | @get kind project _ backend _ _ hkey => exact ⟨project, backend, htidy.1, hkey⟩
  | @turn source project _ turn kind _ hkey =>
    exact ⟨project, some turn.agentsBackend, htidy.1, hkey ▸ Key.entry_some project kind _⟩

/-- The operation renews the store with what it furnishes, and what it reads for its caller was stored
or is furnished. -/
def Renews (operation : Operation) (ttls : Ttls) (store : Store) (now : Nat)
    (result : Except Error Answer) (reached : Store) : Prop :=
  store.Renewed ttls now (operation.delivery ttls store now) reached ∧
    ∀ answer key document, result = .ok answer → operation.Reads answer key document →
      store.document? document.kind.decode now key = some document.value ∨
        operation.Furnishes ttls store now key document

theorem renews_of_reads {α : Type} {operation : Operation} {result : Except Error α}
    {g : α → Answer}
    (h : store.Renewed ttls now (operation.delivery ttls store now) reached)
    (hreads : ∀ a key document, result = .ok a → operation.Reads (g a) key document →
      store.document? document.kind.decode now key = some document.value ∨
        operation.Furnishes ttls store now key document) :
    operation.Renews ttls store now (result.map g) reached := by
  refine ⟨h, ?_⟩
  intro answer key document hanswer hdocument
  cases result with
  | error e => cases hanswer
  | ok a =>
    obtain rfl := Except.ok.inj hanswer
    exact hreads a key document rfl hdocument

/-- Other operations read nothing for their callers. -/
theorem renews_of_silent {α : Type} {operation : Operation} {result : Except Error α}
    {g : α → Answer} (hsilent : ∀ {a key document}, ¬ operation.Reads (g a) key document)
    (h : store.Renewed ttls now (operation.delivery ttls store now) reached) :
    operation.Renews ttls store now (result.map g) reached :=
  renews_of_reads h fun _ _ _ _ hreads => absurd hreads hsilent

/-- The documents of a bundle that is fetched are delivered for its backend. -/
theorem delivery_getBundle (ttls : Ttls) (now : Nat) (store : Store) (source : Source)
    (project : String) (requested : Option String)
    (hmiss : ∀ bundle, store.document? Bundle.decode now (Key.bundle project) = some bundle →
      bundle.serves requested = false)
    (bundle : Bundle) (backend : String) (kind : Kind) (value : kind.Value)
    (hbundle : source.Supplies project backend bundle)
    (hbackend : (requested <|> bundle.data.agentsBackend) = some backend)
    (hpart : bundle.part kind = some value) :
    (Operation.getBundle source project requested).delivery ttls store now
      (Key.part project kind backend) ⟨kind, value⟩ :=
  Furnishes.getBundle hmiss hbundle hbackend hpart

/-- A read through the cache furnishes what it fetches. -/
theorem ensures_get_renewed {project : String} {backend : Option String} {fetch : Fetch kind}
    (hproject : ':' ∉ project.toList)
    (hfetch : (fetch (Cache.requestFor kind project backend)).Fetches
      fun result => ∀ value, result = .ok value → kind.Plain value)
    (config : CacheConfig) (now : Nat) (store : Store) :
    CacheM.Ensures now store ((Operation.get kind project backend fetch).run config)
      ((Operation.get kind project backend fetch).Renews config.ttls store now) := by
  cases hkey : Key.entry project kind backend with
  | error e =>
    refine CacheM.Ensures.map ((Cache.ensures_get hfetch config.ttls now store).mono ?_)
    rintro result _ (⟨key, hentry, -⟩ | ⟨⟨e', -, rfl⟩, rfl⟩)
    · cases hkey.symm.trans hentry
    · exact renews_of_reads (.refl _ config.ttls now _) nofun
  | ok key =>
    refine CacheM.Ensures.map ((Cache.ensures_get_of_entry hkey (hfetch.attained_at now)
      config.ttls store).mono ?_)
    intro result reached hcreated
    have hfurnish : store.document? kind.decode now key = none → ∀ value,
        (∃ asked answered : World, asked.now = now ∧
          fetch (Cache.requestFor kind project backend) asked = .ok value answered) →
        (Operation.get kind project backend fetch).Furnishes config.ttls store now key
          ⟨kind, value⟩ :=
      fun hmissing value hfetched => .get hkey hmissing hfetched
    refine renews_of_reads (hcreated.renewed hproject hkey (fun value hvalue => hvalue.1 value rfl)
      fun hmissing value hvalue => hfurnish hmissing value hvalue.2) ?_
    rintro value key' document hvalue hreads
    cases hreads with
    | get hkey' =>
      obtain rfl := Except.ok.inj (hkey.symm.trans hkey')
      subst hvalue
      cases hcreated with
      | present hpresent => exact .inl hpresent
      | created hmissing hfetched => exact .inr (hfurnish hmissing _ hfetched.2)

/-- A value that is stored for a workflow is under no key of a project. -/
theorem ensures_setWorkflow_renewed (config : CacheConfig) (now : Nat) (store : Store)
    (id dataType : String) (value : Json) :
    CacheM.Ensures now store ((Operation.setWorkflow id dataType value).run config)
      ((Operation.setWorkflow id dataType value).Renews config.ttls store now) := by
  have hput : ∀ entry, store.Renewed config.ttls now
      ((Operation.setWorkflow id dataType value).delivery config.ttls store now)
      (store.put (Key.workflow id dataType) entry) :=
    .put_foreign fun project => Key.not_inScope_workflow project id dataType
  have hset : CacheM.Ensures now store
      (CacheM.set (Key.workflow id dataType) value config.workflowTtl) fun _ reached =>
        store.Renewed config.ttls now
          ((Operation.setWorkflow id dataType value).delivery config.ttls store now) reached :=
    CacheM.ensures_set (fun _ => hput _) fun _ => .refl store config.ttls now _
  refine CacheM.Ensures.map (hset.mono ?_)
  exact fun result reached hreached => renews_of_silent nofun hreached

/-- Every operation renews the store with what it furnishes. -/
theorem ensures_run_renewed {operation : Operation} (htidy : operation.Tidy) (config : CacheConfig)
    (now : Nat) (store : Store) :
    CacheM.Ensures now store (operation.run config)
      (operation.Renews config.ttls store now) := by
  cases operation with
  | get kind project backend fetch => exact ensures_get_renewed htidy.1 htidy.2 config now store
  | getBundle source project requested =>
    have hread := Cache.ensures_getBundle_renewed htidy.1 htidy.2
      (delivery_getBundle config.ttls now store source project requested) config.ttls
    refine CacheM.Ensures.map (hread.mono ?_)
    exact fun result reached hreached => renews_of_silent nofun hreached.1
  | turn source project =>
    refine CacheM.Ensures.map ((Turn.ensures_prepare (Turn.ensures_load_renewed htidy.2
      config.ttls now project store) config.slow).mono ?_)
    rintro result reached ⟨hreached, hloaded⟩
    refine renews_of_reads (hreached htidy.1) ?_
    rintro turn key document hturn hreads
    cases hreads with
    | turn hkey hvalue =>
      subst hkey hvalue
      exact (hloaded turn hturn).accounted _
  | invalidate kind project backend =>
    refine CacheM.Ensures.map ((Cache.ensures_invalidate config.ttls now store kind project
      backend).mono ?_)
    exact fun result reached hinvalidated => renews_of_silent nofun (hinvalidated.renewed htidy)
  | invalidateProject project =>
    refine CacheM.Ensures.map ((CacheM.yields_count _).bind
      ((ensures_deletePattern_remainder now store _).mono ?_))
    exact fun result reached hreached => renews_of_silent nofun (.of_remainder hreached)
  | refresh project document backend =>
    refine CacheM.Ensures.map ((Cache.ensures_refresh config.ttls now store project document
      backend).mono ?_)
    exact fun result reached hrefreshed => renews_of_silent nofun
      (hrefreshed.renewed htidy.1 htidy.2 fun key hkey => .refresh hkey)
  | refreshWith kind project backend fetch =>
    refine CacheM.Ensures.map ((Cache.ensures_refreshWith_at (htidy.2.attained_at now) config.ttls
      store).mono ?_)
    exact fun result reached hrefetched => renews_of_silent nofun
      (hrefetched.renewed htidy.1 (fun value hvalue => hvalue.1 value rfl)
        fun key hkey value hvalue => .refreshWith hkey hvalue.2)
  | rebuildBundle project backend =>
    refine CacheM.Ensures.map ((Cache.ensures_rebuildBundle config.ttls now store project
      backend).mono ?_)
    exact fun result reached hrebuilt => renews_of_silent nofun (hrebuilt.renewed htidy)
  | setWorkflow id dataType value =>
    exact ensures_setWorkflow_renewed config now store id dataType value
  | getWorkflow form id dataType =>
    refine CacheM.Ensures.map ((ensures_workflowGet now store form id dataType).mono ?_)
    exact fun result reached hreached => renews_of_silent nofun (.of_remainder hreached)
  | clearWorkflow id =>
    refine CacheM.Ensures.map ((ensures_deletePattern_remainder now store _).mono ?_)
    exact fun result reached hreached => renews_of_silent nofun (.of_remainder hreached)

end Operation

end ProjectCache
