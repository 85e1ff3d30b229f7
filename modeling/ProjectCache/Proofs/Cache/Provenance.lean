/-
# ProjectCache.Proofs.Cache.Provenance — rosters never cross backends.

A roster is supplied for a backend of a project when it is pushed for the two, or when an operation
fetches it for them because the cache has none (`Operation.Supplies`). By induction on a history of
operations, every roster in the store, and in the bundle that the backends share, was supplied by one
of them (`History.sourced`). So a roster that an operation returns for a backend was supplied by an
operation of the history, or by this one. Time passes as it likes, entries expire, fetches fail, and
workflows may be kept in the same store.
-/
import ProjectCache.Cache.Operation
import ProjectCache.Proofs.Cache.Supply
import ProjectCache.Proofs.Turn

namespace ProjectCache

variable {now : Nat} {project : String} {backend requested : Option String} {ttls : Ttls}
  {kind : Kind} {store reached : Store} {supply : Supply}

/-! ## Turns -/

/-- The backend of a turn, when the source has these settings for the project: the one that the
settings in the cache name, or else the one that the source's do. -/
def Store.turnBackend (store : Store) (now : Nat) (project : String) (settings : Project) :
    Option String :=
  Project.agentsBackend
      ((store.document? (Kind.decode .data) now (Key.plain project .data)).getD settings)
    <|> settings.agentsBackend

namespace Turn

/-- A document that is no roster is read before the rest; rosters are where they were. -/
theorem ensures_get_bind_sourced {β : Type} {goal : Except Error β → Store → Prop}
    {fetch : Fetch kind} {outcome : Except Error kind.Value → Prop} {f : kind.Value → CacheM β}
    (hkind : kind ≠ .team) (hproject : ':' ∉ project.toList)
    (hfetch : (fetch (Cache.requestFor kind project none)).Fetches outcome)
    (hplain : ∀ value, outcome (.ok value) → kind.Plain value) (h : store.Sourced now supply)
    (hf : ∀ value reached,
      (store.document? kind.decode now (Key.plain project kind) = some value ∨
        store.document? kind.decode now (Key.plain project kind) = none ∧ outcome (.ok value)) →
      reached.Sourced now supply →
      (∀ b, reached.live? now (Key.team project b) = store.live? now (Key.team project b)) →
        CacheM.Ensures now reached (f value) goal)
    (hfailed : ∀ e reached, reached.Sourced now supply → goal (.error e) reached) :
    CacheM.Ensures now store (Cache.get ttls kind project none fetch >>= f) goal := by
  have hkey := Key.entry_of_ne_team hkind project none
  have hcreated : CacheM.Ensures now store (Cache.get ttls kind project none fetch)
      (Cache.Created ttls now kind (Key.plain project kind) outcome store) := by
    refine (Cache.ensures_get hfetch ttls now store).mono ?_
    rintro result reached (⟨key, hentry, hreached⟩ | ⟨⟨e, he, -⟩, -⟩)
    · obtain rfl := Except.ok.inj (hkey.symm.trans hentry)
      exact hreached
    · rw [hkey] at he
      cases he
  have hsourced : ∀ {result reached},
      Cache.Created ttls now kind (Key.plain project kind) outcome store result reached →
        reached.Sourced now supply :=
    fun hreached => (hreached.sourced hproject hkey hplain
      (fun _ _ _ => Supply.covers_of_ne_team hkind) h).1
  refine hcreated.bind ?_ fun e reached hreached => hfailed e reached (hsourced hreached)
  intro value reached hreached
  refine hf value reached ?_ (hsourced hreached) fun b => ?_
  · cases hreached with
    | present hvalue => exact .inl hvalue
    | created hmissing hfetched => exact .inr ⟨hmissing, hfetched⟩
  · cases hreached with
    | present => rfl
    | created => rw [Store.live?_put, if_neg (Key.plain_ne_team project b kind)]

/-- The roster of a turn was supplied for its backend. -/
theorem ensures_load_sourced {source : Source} (hproject : ':' ∉ project.toList)
    (hplain : source.Plain)
    (hsupply : ∀ settings backend team, source.answer .data ⟨project, none⟩ = .ok settings →
      store.turnBackend now project settings = some backend →
      store.document? (Kind.decode .team) now (Key.team project backend) = none →
      source.answer .team ⟨project, some backend⟩ = .ok team → supply project backend team)
    (h : store.Sourced now supply) (ttls : Ttls) :
    CacheM.Ensures now store (load ttls source project) fun result reached =>
      reached.Sourced now supply ∧
        ∀ turn, result = .ok turn → supply project turn.agentsBackend turn.team := by
  have hfailed : ∀ (e : Error) (reached : Store), reached.Sourced now supply →
      reached.Sourced now supply ∧ ∀ turn : Turn, Except.error e = Except.ok turn →
        supply project turn.agentsBackend turn.team :=
    fun e reached hreached => ⟨hreached, fun turn hturn => nomatch hturn⟩
  have hsource : ∀ kind, (source.fetch kind ⟨project, none⟩).Fetches
      fun result => ∀ value, result = .ok value → kind.Plain value :=
    fun kind => fetches_source hplain kind _
  unfold load
  refine (resolve_fetches source project now store).bind ?_ fun e _ hreached => ?_
  rotate_left
  · exact hfailed e _ (hreached.2 ▸ h)
  rintro resolved _ ⟨hanswers, hresolve⟩
  rw [hresolve]
  obtain ⟨hdata, hcontentBase, hinlineAgent⟩ := hanswers resolved rfl
  have hresolved : (pure resolved.project : CacheM Project).Fetches
      fun result => ∀ value, result = .ok value → value = resolved.project :=
    CacheM.fetches_pure rfl
  refine ensures_get_bind_sourced nofun hproject hresolved ?_ h
    (fun data afterData hvalue h hdataFrame => ?_) hfailed
  · exact fun value hvalue => hvalue value rfl ▸ hplain .data _ _ hdata
  have hnamed : store.turnBackend now project resolved.project
      = (Project.agentsBackend data <|> resolved.project.agentsBackend) := by
    rw [Store.turnBackend]
    rcases hvalue with hvalue | ⟨hmissing, hvalue⟩
    · rw [hvalue]
      rfl
    · obtain rfl := hvalue data rfl
      rw [hmissing]
      rfl
  cases hbackend : Project.agentsBackend data <|> resolved.project.agentsBackend with
  | none => exact CacheM.ensures_throw (hfailed _ _ h)
  | some backend =>
    refine ensures_get_bind_sourced nofun hproject
      (CacheM.fetches_pure (hplain .contentBase _ _ hcontentBase)) (fun v hv => hv v rfl) h
      (fun contentBase afterContentBase _ h hcontentBaseFrame => ?_) hfailed
    refine ensures_get_bind_sourced nofun hproject (hsource .instructions)
      (fun v hv => hv v rfl) h (fun instructions afterInstructions _ h hinstructionsFrame => ?_) hfailed
    refine ensures_get_bind_sourced nofun hproject (hsource .agent) (fun v hv => hv v rfl) h
      (fun agent afterAgent _ h hagentFrame => ?_) hfailed
    -- what was read so far is under other keys, so a roster that is missing now was missing before
    have hmissing : afterAgent.document? (Kind.decode .team) now (Key.team project backend)
        = store.document? (Kind.decode .team) now (Key.team project backend) := by
      refine Store.document?_congr ?_ _
      rw [hagentFrame, hinstructionsFrame, hcontentBaseFrame, hdataFrame]
    refine (Cache.ensures_get_sourced hproject
      (source.fetch_fetches .team ⟨project, some backend⟩) (fun v hv => hplain .team _ v hv.symm)
      ?_ h ttls).bind ?_ fun e _ hreached => hfailed e _ hreached.1
    · rintro key hkey hnone team hteam b _ ⟨⟩ ⟨⟩
      obtain rfl := Except.ok.inj hkey
      exact hsupply _ backend team hdata (hnamed.trans hbackend) (hmissing ▸ hnone) hteam.symm
    rintro team afterTeam ⟨h, hcovers⟩
    have hteam := Supply.covers_team.1 (hcovers team rfl)
    refine ensures_get_bind_sourced nofun hproject (hsource .guardrails) (fun v hv => hv v rfl) h
      (fun guardrails afterGuardrails _ h _ => ?_) hfailed
    cases hinline : resolved.inlineAgent with
    | none =>
      refine CacheM.ensures_pure ⟨h, ?_⟩
      rintro _ ⟨⟩
      exact hteam
    | some inlineAgent =>
      rw [hinline] at hinlineAgent
      refine ensures_get_bind_sourced nofun hproject
        (CacheM.fetches_pure (hplain .inlineAgent _ _ hinlineAgent)) (fun v hv => hv v rfl) h
        (fun _ last _ h _ => ?_) hfailed
      refine CacheM.ensures_pure ⟨h, ?_⟩
      rintro _ ⟨⟩
      exact hteam

end Turn

/-! ## Operations -/

namespace Operation

/-- What callers owe: identifiers of projects have no colon, and documents that are fetched or pushed
are plain. Fetch functions may fail. -/
def Tidy : Operation → Prop
  | .get kind project backend fetch | .refreshWith kind project backend fetch =>
    ':' ∉ project.toList ∧ (fetch (Cache.requestFor kind project backend)).Fetches
      fun result => ∀ value, result = .ok value → kind.Plain value
  | .getBundle source project _ | .turn source project => ':' ∉ project.toList ∧ source.Plain
  | .refresh project document _ => ':' ∉ project.toList ∧ document.kind.Plain document.value
  | .invalidate _ project _ | .invalidateProject project | .rebuildBundle project _ =>
    ':' ∉ project.toList
  | .setWorkflow .. | .getWorkflow .. | .clearWorkflow .. => True

/-- The operation, in a cache with this store, supplies the roster for the backend of the project: it
pushes the roster, or fetches it for the two since there is none to read. -/
inductive Supplies (store : Store) (now : Nat) (project backend : String) (team : List TeamMember) :
    Operation → Prop where
  | get {fetch : Fetch .team}
      (hmissing : store.document? (Kind.decode .team) now (Key.team project backend) = none)
      (hfetched : ∃ asked answered, fetch ⟨project, some backend⟩ asked = .ok team answered) :
      Supplies store now project backend team (.get .team project (some backend) fetch)
  | refreshWith {fetch : Fetch .team}
      (hfetched : ∃ asked answered, fetch ⟨project, some backend⟩ asked = .ok team answered) :
      Supplies store now project backend team (.refreshWith .team project (some backend) fetch)
  | refresh : Supplies store now project backend team (.refresh project ⟨.team, team⟩ (some backend))
  | getBundle {source : Source} {requested : Option String} {bundle : Bundle}
      (hmiss : ∀ bundle, store.document? Bundle.decode now (Key.bundle project) = some bundle →
        bundle.serves requested = false)
      (hbundle : source.Supplies project backend bundle)
      (hbackend : (requested <|> bundle.data.agentsBackend) = some backend)
      (hteam : bundle.team = team) :
      Supplies store now project backend team (.getBundle source project requested)
  | turn {source : Source} {settings : Project}
      (hsettings : source.answer .data ⟨project, none⟩ = .ok settings)
      (hbackend : store.turnBackend now project settings = some backend)
      (hmissing : store.document? (Kind.decode .team) now (Key.team project backend) = none)
      (hfetched : source.answer .team ⟨project, some backend⟩ = .ok team) :
      Supplies store now project backend team (.turn source project)

/-- The operation returns the roster for the backend of the project: it is asked for the roster, for a
bundle of the backend, or for a turn, and the answer has the roster in it. -/
inductive Returns (project backend : String) : Operation → Answer → List TeamMember → Prop where
  | get {fetch : Fetch .team} (team : List TeamMember) :
      Returns project backend (.get .team project (some backend) fetch) (.document ⟨.team, team⟩) team
  | getBundle {source : Source} {requested : Option String} {bundle : Bundle}
      (hbackend : requested = some backend ∨ bundle.agentsBackend = some backend) :
      Returns project backend (.getBundle source project requested) (.bundle bundle) bundle.team
  | turn {source : Source} {turn : Turn} (hbackend : turn.agentsBackend = backend) :
      Returns project backend (.turn source project) (.turn turn) turn.team

/-- Reading the value of a workflow at most drops it. -/
theorem ensures_workflowGet (now : Nat) (store : Store) (form : Decoder Json) (id dataType : String) :
    CacheM.Ensures now store (Workflow.get form id dataType) fun _ reached =>
      store.Remainder now reached now := by
  have hread : store.Remainder now
      (if (store.live? now (Key.workflow id dataType)).isSome then store
        else store.drop (Key.workflow id dataType)) now := by
    split
    · exact .refl store now
    · exact .drop store now _
  unfold Workflow.get
  refine (CacheM.yields_get _).bind ?_
  cases (store.live? now (Key.workflow id dataType)).map Entry.value with
  | none => exact CacheM.ensures_pure hread
  | some raw =>
    cases hform : form raw with
    | ok value =>
      simp only [hform]
      exact CacheM.ensures_pure hread
    | error e =>
      simp only [hform]
      exact CacheM.ensures_throw hread

/-- Deleting the entries that a pattern matches only takes entries away. -/
theorem ensures_deletePattern_remainder (now : Nat) (store : Store) (pattern : String) :
    CacheM.Ensures now store (CacheM.deletePattern pattern) fun _ reached =>
      store.Remainder now reached now := by
  refine (CacheM.ensures_deletePattern pattern).mono ?_
  rintro _ _ (⟨tokens, -, -, rfl⟩ | ⟨-, rfl⟩)
  · exact .without store now tokens
  · exact .refl _ now

/-- A store that is sourced, and an answer whose rosters were supplied. -/
theorem sourced_and_returned {α : Type} {operation : Operation} {result : Except Error α}
    {g : α → Answer} (h : reached.Sourced now supply)
    (hreturned : ∀ a project backend team, result = .ok a →
      operation.Returns project backend (g a) team → supply project backend team) :
    reached.Sourced now supply ∧ ∀ answer project backend team, result.map g = .ok answer →
      operation.Returns project backend answer team → supply project backend team := by
  refine ⟨h, ?_⟩
  intro answer project backend team hanswer hreturns
  cases result with
  | error e => cases hanswer
  | ok a =>
    obtain rfl := Except.ok.inj hanswer
    exact hreturned a project backend team rfl hreturns

/-- Other answers have no roster in them. -/
theorem sourced_and_silent {α : Type} {operation : Operation} {result : Except Error α}
    {g : α → Answer}
    (hsilent : ∀ a project backend team, ¬ operation.Returns project backend (g a) team)
    (h : reached.Sourced now supply) :
    reached.Sourced now supply ∧ ∀ answer project backend team, result.map g = .ok answer →
      operation.Returns project backend answer team → supply project backend team :=
  sourced_and_returned h fun a project backend team _ hreturns =>
    absurd hreturns (hsilent a project backend team)

/-- One operation keeps the store sourced by what was supplied before and what it supplies itself, and
each roster that it returns was supplied. -/
theorem ensures_run_sourced {operation : Operation} (htidy : operation.Tidy)
    (h : store.Sourced now supply)
    (hsupply : ∀ project backend team, operation.Supplies store now project backend team →
      supply project backend team)
    (config : CacheConfig) :
    CacheM.Ensures now store (operation.run config) fun result reached =>
      reached.Sourced now supply ∧ ∀ answer project backend team, result = .ok answer →
        operation.Returns project backend answer team → supply project backend team := by
  cases operation with
  | get kind project backend fetch =>
    refine CacheM.Ensures.map ((Cache.ensures_get_sourced htidy.1 htidy.2.attained
      (fun value hvalue => hvalue.1 value rfl) ?_ h config.ttls).mono ?_)
    · rintro key hkey hmissing value ⟨-, asked, answered, hfetched⟩ b team rfl ⟨⟩
      obtain rfl := Except.ok.inj hkey
      exact hsupply _ _ _ (.get hmissing ⟨asked, answered, hfetched⟩)
    · rintro result reached ⟨hreached, hcovers⟩
      refine sourced_and_returned hreached ?_
      rintro value p b team hvalue hreturns
      cases hreturns with
      | get => exact Supply.covers_team.1 (hcovers _ hvalue)
  | getBundle source project requested =>
    have hfetch : (∀ bundle, store.document? Bundle.decode now (Key.bundle project) = some bundle →
        bundle.serves requested = false) →
          ∀ bundle backend, source.Supplies project backend bundle →
            (requested <|> bundle.data.agentsBackend) = some backend →
              supply project backend bundle.team :=
      fun hmiss bundle backend hbundle hbackend =>
        hsupply _ _ _ (.getBundle hmiss hbundle hbackend rfl)
    refine CacheM.Ensures.map (((Cache.ensures_getBundle_sourced htidy.1 htidy.2 hfetch h
      config.ttls).and (Cache.ensures_getBundle_backend config.ttls now store source project
        requested)).mono ?_)
    rintro result reached ⟨⟨hreached, hteam⟩, hnamed⟩
    refine sourced_and_returned hreached ?_
    rintro bundle p b team hbundle hreturns
    cases hreturns with
    | getBundle hbackend =>
      exact hteam bundle b hbundle (hbackend.elim (hnamed bundle b hbundle) id)
  | turn source project =>
    refine CacheM.Ensures.map ((Turn.ensures_prepare (Turn.ensures_load_sourced htidy.1 htidy.2
      ?_ h config.ttls) config.slow).mono ?_)
    · exact fun settings backend team hsettings hbackend hmissing hfetched =>
        hsupply _ _ _ (.turn hsettings hbackend hmissing hfetched)
    · rintro result reached ⟨hreached, hteam⟩
      refine sourced_and_returned hreached ?_
      rintro turn p b team hturn hreturns
      cases hreturns with
      | turn hbackend => exact hbackend ▸ hteam turn hturn
  | invalidate kind project backend =>
    refine CacheM.Ensures.map ((Cache.ensures_invalidate config.ttls now store kind project
      backend).mono ?_)
    exact fun result reached hinvalidated => sourced_and_silent nofun (hinvalidated.sourced htidy h)
  | invalidateProject project =>
    refine CacheM.Ensures.map ((CacheM.yields_count _).bind
      ((ensures_deletePattern_remainder now store _).mono ?_))
    exact fun result reached hreached => sourced_and_silent nofun (h.of_remainder hreached)
  | refresh project document backend =>
    refine CacheM.Ensures.map ((Cache.ensures_refresh config.ttls now store project document
      backend).mono ?_)
    refine fun result reached hrefreshed =>
      sourced_and_silent nofun (hrefreshed.sourced htidy.1 htidy.2 ?_ h)
    rintro b team rfl rfl
    exact hsupply _ _ _ .refresh
  | refreshWith kind project backend fetch =>
    refine CacheM.Ensures.map ((Cache.ensures_refreshWith htidy.2.attained config.ttls now
      store).mono ?_)
    refine fun result reached hrefetched => sourced_and_silent nofun (hrefetched.sourced htidy.1
      (fun value hvalue => hvalue.1 value rfl) ?_ h)
    rintro value ⟨-, asked, answered, hfetched⟩ b team rfl ⟨⟩
    exact hsupply _ _ _ (.refreshWith ⟨asked, answered, hfetched⟩)
  | rebuildBundle project backend =>
    refine CacheM.Ensures.map ((Cache.ensures_rebuildBundle config.ttls now store project
      backend).mono ?_)
    exact fun result reached hrebuilt => sourced_and_silent nofun (hrebuilt.sourced htidy h)
  | setWorkflow id dataType value =>
    refine CacheM.Ensures.map (CacheM.ensures_set (fun _ => sourced_and_silent nofun ?_) fun _ =>
      sourced_and_silent nofun h)
    exact h.put_foreign (fun project => Key.not_inScope_workflow project id dataType) _
  | getWorkflow form id dataType =>
    refine CacheM.Ensures.map ((ensures_workflowGet now store form id dataType).mono ?_)
    exact fun result reached hreached => sourced_and_silent nofun (h.of_remainder hreached)
  | clearWorkflow id =>
    refine CacheM.Ensures.map ((ensures_deletePattern_remainder now store _).mono ?_)
    exact fun result reached hreached => sourced_and_silent nofun (h.of_remainder hreached)

end Operation

/-! ## Histories -/

/-- The operations that were carried out, the latest first and each with the world in which it began,
and the world that they lead to. A history starts with an empty store, time passes between operations,
and operations may fail. -/
inductive History (config : CacheConfig) : List (World × Operation) → World → Prop where
  | start (now : Nat) : History config [] { now }
  | wait {past : List (World × Operation)} {world : World} {later : Nat}
      (hpast : History config past world) (hle : world.now ≤ later) :
      History config past { world with now := later }
  | step {past : List (World × Operation)} {world world' : World} {operation : Operation}
      {result : Except Error Answer} (hpast : History config past world) (htidy : operation.Tidy)
      (hrun : operation.run config world = CacheM.ending result world') :
      History config ((world, operation) :: past) world'

/-- One of these operations has supplied the roster. -/
def SuppliedIn (steps : List (World × Operation)) : Supply := fun project backend team =>
  ∃ step ∈ steps, step.2.Supplies step.1.store step.1.now project backend team

namespace History

variable {config : CacheConfig} {past : List (World × Operation)} {world world' : World}

/-- The next operation of a history keeps the store sourced, and the rosters that it returns were
supplied by then. -/
theorem of_run {operation : Operation} {result : Except Error Answer}
    (houtages : world.outages = []) (hsourced : world.store.Sourced world.now (SuppliedIn past))
    (htidy : operation.Tidy) (hrun : operation.run config world = CacheM.ending result world') :
    world'.outages = [] ∧
      world'.store.Sourced world'.now (SuppliedIn ((world, operation) :: past)) ∧
      ∀ answer project backend team, result = .ok answer →
        operation.Returns project backend answer team →
          SuppliedIn ((world, operation) :: past) project backend team := by
  have hgrown : world.store.Sourced world.now (SuppliedIn ((world, operation) :: past)) := by
    refine hsourced.mono ?_
    rintro project backend team ⟨earlier, hearlier, hsupplies⟩
    exact ⟨earlier, .tail _ hearlier, hsupplies⟩
  obtain ⟨reached, hcalm, hreached, hreturns⟩ :=
    (Operation.ensures_run_sourced htidy hgrown
      (fun project backend team hsupplies => ⟨_, .head _, hsupplies⟩) config).of_ending
      ⟨rfl, houtages, rfl⟩ hrun
  obtain ⟨hnow, houtages', rfl⟩ := hcalm
  exact ⟨houtages', hnow ▸ hreached, hreturns⟩

/-- Whatever a history does, the rosters in its store were supplied by its operations. -/
theorem sourced (h : History config past world) :
    world.outages = [] ∧ world.store.Sourced world.now (SuppliedIn past) := by
  -- by induction on the history: an operation adds to the supply what it puts into the store
  induction h with
  | start now => exact ⟨rfl, .empty now _⟩
  | @wait past world later _ hle ih =>
    obtain ⟨houtages, hsourced⟩ := ih
    exact ⟨houtages, hsourced.of_remainder (.of_le world.store hle)⟩
  | step _ htidy hrun ih =>
    obtain ⟨houtages', hsourced', -⟩ := of_run ih.1 ih.2 htidy hrun
    exact ⟨houtages', hsourced'⟩

end History

/-- Every roster that is returned for a backend of a project, by itself, in a bundle or for a turn, was
supplied for just that project and backend by an operation of the history or by the one that returns
it. And a bundle that is asked for by its backend names that backend, whatever is in the store. -/
theorem rosters_stay_with_backend (config : CacheConfig) :
    (∀ past world operation answer world' project backend team, History config past world →
      operation.Tidy → operation.run config world = .ok answer world' →
      operation.Returns project backend answer team →
        SuppliedIn ((world, operation) :: past) project backend team) ∧
    ∀ (world : World) source project backend bundle world', world.outages = [] →
      Operation.run config (.getBundle source project (some backend)) world
        = .ok (.bundle bundle) world' → bundle.agentsBackend = some backend := by
  constructor
  · intro past world operation answer world' project backend team hpast htidy hrun hreturns
    obtain ⟨houtages, hsourced⟩ := hpast.sourced
    obtain ⟨-, -, hsupplied⟩ := History.of_run houtages hsourced htidy
      (show operation.run config world = CacheM.ending (.ok answer) world' from hrun)
    exact hsupplied answer project backend team rfl hreturns
  · intro world source project backend bundle world' houtages hrun
    have hbackend : CacheM.Ensures world.now world.store
        (Operation.run config (.getBundle source project (some backend)))
        fun result _ => ∀ found, result = .ok (.bundle found) →
          found.agentsBackend = some backend := by
      refine CacheM.Ensures.map ((Cache.ensures_getBundle_backend config.ttls world.now world.store
        source project (some backend)).mono ?_)
      intro result _ hnamed found hfound
      cases result with
      | error e => cases hfound
      | ok bundle =>
        obtain rfl := Answer.bundle.inj (Except.ok.inj hfound)
        exact hnamed bundle backend rfl rfl
    obtain ⟨_, -, hnamed⟩ := hbackend.of_ending ⟨rfl, houtages, rfl⟩
      (show _ = CacheM.ending (.ok (.bundle bundle)) world' from hrun)
    exact hnamed bundle rfl

/-- A bundle that is there for another backend is no answer, and the roster is fetched. -/
theorem rosters_stay_with_backend_of_other : ∃ past world bundle world',
    History {} past world ∧
    (world.store.document? Bundle.decode 0 (Key.bundle "p")).map Bundle.agentsBackend
      = some (some "b") ∧
    Operation.Tidy (.getBundle (.sole .lone) "p" (some "c")) ∧
    Operation.run {} (.getBundle (.sole .lone) "p" (some "c")) world = .ok (.bundle bundle) world' ∧
    bundle.agentsBackend = some "c" ∧
    SuppliedIn ((world, .getBundle (.sole .lone) "p" (some "c")) :: past) "p" "c" bundle.team := by
  obtain ⟨first, world, hfirst, houtages, hthere, bundle, world', hbundle, -⟩ : ∃ first world,
      Cache.getBundle .default (.sole .lone) "p" (some "b") { now := 0 } = .ok first world ∧
      world.outages = [] ∧
      (world.store.document? Bundle.decode 0 (Key.bundle "p")).map Bundle.agentsBackend
        = some (some "b") ∧
      ∃ bundle world', Cache.getBundle .default (.sole .lone) "p" (some "c") world
        = .ok bundle world' ∧ bundle.team = [] := by decide +kernel
  have htidy : ∀ backend, Operation.Tidy (.getBundle (.sole .lone) "p" backend) :=
    fun _ => ⟨by decide, Source.plain_sole Project.plain_lone⟩
  have hend : Operation.run {} (.getBundle (.sole .lone) "p" (some "b")) { now := 0 }
      = CacheM.ending (.ok (.bundle first)) world := CacheM.map_of_ok hfirst Answer.bundle
  have hrun : Operation.run {} (.getBundle (.sole .lone) "p" (some "c")) world
      = .ok (.bundle bundle) world' := CacheM.map_of_ok hbundle Answer.bundle
  have hpast := History.step (.start 0) (htidy (some "b")) hend
  exact ⟨_, world, bundle, world', hpast, hthere, htidy _, hrun,
    (rosters_stay_with_backend {}).2 world _ "p" "c" bundle world' houtages hrun,
    (rosters_stay_with_backend {}).1 _ world _ _ world' "p" "c" _ hpast (htidy _) hrun
      (.getBundle (.inl rfl))⟩

end ProjectCache
