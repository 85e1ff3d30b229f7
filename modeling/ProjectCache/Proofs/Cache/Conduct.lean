/-
# ProjectCache.Proofs.Cache.Conduct — what operations on a project are made of.

Operations on a project conduct themselves alike. They read the documents and the bundle of the
project, delete what is in its scope, remove its rosters or all of it by pattern, fetch, count, and
leave notes; and whatever they store is a document under its key, for the time to live of its kind, or
the bundle under its own. `Cache.Conduct` lists these steps, with what is known of the values that they
return, and `Operation.conduct_run` goes through all operations once and for all. What holds of every
step, and of one thing done after the other, then holds of every operation by induction on its conduct.
-/
import ProjectCache.Cache.Operation
import ProjectCache.Proofs.Cache.Outcomes

namespace ProjectCache

/-- What is agreed on with callers: the times to live, which documents may be stored, and which fetches
may be made. -/
structure Terms where
  /-- The times to live. -/
  ttls : Ttls
  /-- The documents that may be stored. -/
  Good : (kind : Kind) → kind.Value → Prop
  /-- The fetches that may be made. -/
  Fetchable : (kind : Kind) → CacheM kind.Value → Prop
  good_of_decode : ∀ {kind : Kind} {json : Json} {value : kind.Value},
    kind.decode json = .ok value → Good kind value
  good_of_fetch : ∀ {kind : Kind} {m : CacheM kind.Value} {value : kind.Value} {world world' : World},
    Fetchable kind m → m world = .ok value world' → Good kind value

/-- Each document of the bundle may be stored. -/
structure Terms.GoodBundle (terms : Terms) (bundle : Bundle) : Prop where
  data : terms.Good .data bundle.data
  project : terms.Good .data bundle.project
  contentBase : terms.Good .contentBase bundle.contentBase
  team : terms.Good .team bundle.team
  guardrails : terms.Good .guardrails bundle.guardrails
  inlineAgent : terms.Good .inlineAgent bundle.inlineAgent

/-- The source answers with documents that may be stored. -/
def Terms.GoodSource (terms : Terms) (source : Source) : Prop :=
  ∀ kind request value, source.answer kind request = .ok value → terms.Good kind value

/-- The warning when a document in the store does not decode. -/
def Happening.dropped : Happening := .logged .warn "Dropping cache entry that no longer decodes"

variable {α β : Type} {terms : Terms} {project : String} {kind : Kind} {backend : Option String}
  {key : String} {source : Source}

/-- The second operation is the first with log lines behind it, none of which is that warning. -/
def CacheM.Reports (m m' : CacheM α) : Prop :=
  ∀ world result world', m world = ending result world' → ∃ lines : List Happening,
    (∀ line ∈ lines, ∃ level text, line = .logged level text ∧ line ≠ .dropped) ∧
      m' world = ending result { world' with trace := lines ++ world'.trace }

namespace Cache

/-- The operation is put together from these steps, and what it returns satisfies the condition. -/
inductive Conduct (terms : Terms) (project : String) :
    {α : Type} → CacheM α → (α → Prop) → Prop where
  | value {α : Type} {returns : α → Prop} {a : α} (h : returns a) :
      Conduct terms project (pure a) returns
  | failure {α : Type} {returns : α → Prop} (e : Error) :
      Conduct terms project (throw e : CacheM α) returns
  | counted (change : Counters → Counters) :
      Conduct terms project (CacheM.count change) fun _ => True
  | asked (request : Request) :
      Conduct terms project (CacheM.note (.asked request)) fun _ => True
  | fetched (kind : Kind) :
      Conduct terms project (CacheM.note (.fetched kind)) fun _ => True
  /-- A function that callers hand over. What it does is not known here. -/
  | fetch {kind : Kind} {m : CacheM kind.Value} (h : terms.Fetchable kind m) :
      Conduct terms project m (terms.Good kind)
  /-- What is found has been decoded. -/
  | read {kind : Kind} {backend : Option String} {key : String}
      (hkey : Key.entry project kind backend = .ok key) :
      Conduct terms project (Cache.read kind.decode key) fun found =>
        ∀ value, found = some value → terms.Good kind value
  | readBundle :
      Conduct terms project (Cache.read Bundle.decode (Key.bundle project)) fun _ => True
  | write {kind : Kind} {backend : Option String} {key : String} {value : kind.Value}
      (hkey : Key.entry project kind backend = .ok key) (hgood : terms.Good kind value) :
      Conduct terms project (CacheM.set key (kind.encode value) (terms.ttls.ofKind kind))
        fun _ => True
  | writeBundle {bundle : Bundle} (hgood : terms.GoodBundle bundle) :
      Conduct terms project (Cache.writeBundle terms.ttls project bundle) fun _ => True
  | delete {key : String} (hkey : Key.InScope project key) :
      Conduct terms project (CacheM.delete key) fun _ => True
  | deleteRosters :
      Conduct terms project (CacheM.deletePattern (Key.teamPattern project)) fun _ => True
  | deleteAll :
      Conduct terms project (CacheM.deletePattern (Key.projectPattern project)) fun _ => True
  | andThen {α β : Type} {m : CacheM α} {f : α → CacheM β} {mid : α → Prop} {returns : β → Prop}
      (hm : Conduct terms project m mid) (hf : ∀ a, mid a → Conduct terms project (f a) returns) :
      Conduct terms project (m >>= f) returns
  /-- The same with log lines behind it, also when it fails. -/
  | reported {α : Type} {m m' : CacheM α} {returns : α → Prop}
      (hm : Conduct terms project m returns) (h : m.Reports m') :
      Conduct terms project m' returns

/-! ## Putting steps together -/

section Rules

variable {m : CacheM α} {f : α → CacheM β} {returns : β → Prop}

/-- What follows does not depend on what is known of the value before. -/
theorem Conduct.andAlways {mid : α → Prop} (hm : Conduct terms project m mid)
    (hf : ∀ a, Conduct terms project (f a) returns) : Conduct terms project (m >>= f) returns :=
  hm.andThen fun a _ => hf a

/-- What follows depends on whether something has been found. -/
theorem Conduct.andOption {γ : Type} {m : CacheM (Option γ)} {f : Option γ → CacheM β}
    {mid : Option γ → Prop} (hm : Conduct terms project m mid)
    (hnone : Conduct terms project (f none) returns)
    (hsome : ∀ c, mid (some c) → Conduct terms project (f (some c)) returns) :
    Conduct terms project (m >>= f) returns :=
  hm.andThen fun
    | none, _ => hnone
    | some c, hc => hsome c hc

theorem Conduct.map {mid : α → Prop} (hm : Conduct terms project m mid) {g : α → β}
    (hg : ∀ a, mid a → returns (g a)) : Conduct terms project (g <$> m) returns := by
  show Conduct terms project (m >>= fun a => pure (g a)) returns
  exact hm.andThen fun a ha => .value (hg a ha)

theorem conduct_ofExcept_bind {result : Except Error α}
    (hf : ∀ a, result = .ok a → Conduct terms project (f a) returns) :
    Conduct terms project (CacheM.ofExcept result >>= f) returns := by
  have hresult : Conduct terms project (CacheM.ofExcept result) fun a => result = .ok a := by
    cases result with
    | ok a => exact .value rfl
    | error e => exact .failure e
  exact hresult.andThen hf

end Rules

/-! ## What is returned -/

/-- What a read returns has been decoded. -/
theorem decode_of_read {decode : Decoder α} {world world' : World} {value : α}
    (h : read decode key world = .ok (some value) world') : ∃ raw, decode raw = .ok value := by
  unfold read at h
  obtain ⟨found, middle, -, hfound⟩ := CacheM.ok_of_bind h
  cases found with
  | none => cases hfound
  | some raw =>
    cases hraw : decode raw with
    | ok other =>
      simp only [hraw] at hfound
      cases hfound
      exact ⟨raw, hraw⟩
    | error e =>
      simp only [hraw] at hfound
      obtain ⟨_, _, -, hlogged⟩ := CacheM.ok_of_bind hfound
      obtain ⟨_, _, -, hdeleted⟩ := CacheM.ok_of_bind hlogged
      cases hdeleted

/-- The condition holds of what is returned, from whatever world. -/
theorem Conduct.returns {m : CacheM α} {returns : α → Prop} (h : Conduct terms project m returns)
    {a : α} {world world' : World} (hrun : m world = .ok a world') : returns a := by
  -- by induction on the conduct: values are what they are, fetched, or decoded
  induction h generalizing world world' with
  | value h => cases hrun; exact h
  | failure => cases hrun
  | counted | asked | fetched | readBundle | writeBundle | write | delete | deleteRosters | deleteAll =>
    trivial
  | fetch h => exact terms.good_of_fetch h hrun
  | read =>
    rintro value rfl
    obtain ⟨raw, hraw⟩ := decode_of_read hrun
    exact terms.good_of_decode hraw
  | andThen _ _ ihm ihf =>
    obtain ⟨b, middle, hfirst, hsecond⟩ := CacheM.ok_of_bind hrun
    exact ihf b (ihm hfirst) hsecond
  | @reported _ m _ _ _ h ih =>
    obtain ⟨result, last, hlast⟩ := CacheM.ending_surjective (m world)
    obtain ⟨lines, -, hlines⟩ := h world result last hlast
    obtain ⟨rfl, -⟩ :=
      CacheM.ending_inj (hlines.symm.trans (show _ = CacheM.ending (.ok a) world' from hrun))
    exact ih hlast

/-! ## Reading and fetching -/

theorem conduct_getOrCreate (hkey : Key.entry project kind backend = .ok key) {request : Request}
    {fetch : Fetch kind} (hfetch : Conduct terms project (fetch request) (terms.Good kind)) :
    Conduct terms project (getOrCreate terms.ttls kind key request fetch) (terms.Good kind) := by
  unfold getOrCreate
  refine (Conduct.read hkey).andOption ?_ fun value hvalue => ?_
  · refine (Conduct.counted _).andAlways fun _ => (Conduct.asked request).andAlways fun _ => ?_
    refine hfetch.andThen fun value hvalue => ?_
    exact (Conduct.write hkey hvalue).andAlways fun _ => .value hvalue
  · exact (Conduct.counted _).andAlways fun _ => .value (hvalue value rfl)

theorem conduct_get {fetch : Fetch kind}
    (hfetch : Conduct terms project (fetch (requestFor kind project backend)) (terms.Good kind)) :
    Conduct terms project (get terms.ttls kind project backend fetch) (terms.Good kind) := by
  unfold get
  exact conduct_ofExcept_bind fun key hkey => conduct_getOrCreate hkey hfetch

theorem conduct_fetch (hsource : terms.GoodSource source) (kind : Kind) (request : Request) :
    Conduct terms project (source.fetch kind request) (terms.Good kind) := by
  refine (Conduct.fetched kind).andAlways fun _ => ?_
  cases hanswer : source.answer kind request with
  | ok value => exact .value (hsource kind request value hanswer)
  | error e => exact .failure e

/-! ## Bundles -/

theorem conduct_dropBundle : Conduct terms project (dropBundle project) fun _ => True :=
  (Conduct.delete (Key.bundle_inScope project)).andAlways fun _ => .counted _

theorem conduct_rebuildBundle (backend : String) :
    Conduct terms project (rebuildBundle terms.ttls project backend) fun _ => True := by
  have hplain : ∀ kind, kind ≠ .team → Conduct terms project
      (read kind.decode (Key.plain project kind)) fun found =>
        ∀ value, found = some value → terms.Good kind value :=
    fun kind hkind => .read (Key.entry_of_ne_team hkind project none)
  have hteam : Conduct terms project (read (Kind.decode .team) (Key.team project backend))
      fun found => ∀ value, found = some value → terms.Good .team value :=
    .read (Key.entry_team project backend)
  unfold rebuildBundle
  -- the first document that is missing ends the building
  refine (hplain .data nofun).andOption (.value trivial) fun data hdata => ?_
  refine (hplain .contentBase nofun).andOption (.value trivial) fun contentBase hcontentBase => ?_
  refine hteam.andOption (.value trivial) fun team hteam => ?_
  refine (hplain .guardrails nofun).andOption (.value trivial) fun guardrails hguardrails => ?_
  refine (hplain .inlineAgent nofun).andThen fun inlineAgent hinlineAgent => ?_
  have hnull : Kind.decode .inlineAgent .null = .ok none := rfl
  have hgood : terms.Good .inlineAgent (inlineAgent.getD none) := by
    cases inlineAgent with
    | some inlineAgent => exact hinlineAgent inlineAgent rfl
    | none => exact terms.good_of_decode hnull
  refine (Conduct.writeBundle ⟨hdata _ rfl, hdata _ rfl, hcontentBase _ rfl, hteam _ rfl,
    hguardrails _ rfl, hgood⟩).andAlways fun _ => ?_
  exact (Conduct.counted _).andAlways fun _ => .value trivial

theorem conduct_repairBundle (requested : Option String) :
    Conduct terms project (repairBundle terms.ttls project requested) fun _ => True := by
  have hdrop : Conduct terms project (do dropBundle project; return false) fun _ => True :=
    conduct_dropBundle.andAlways fun _ => .value trivial
  have hknown : ∀ backend, Conduct terms project
      (do
        if ← rebuildBundle terms.ttls project backend then return true
        dropBundle project
        return false) fun _ => True := by
    intro backend
    refine (conduct_rebuildBundle backend).andAlways fun built => ?_
    cases built with
    | true => exact .value trivial
    | false => exact hdrop
  unfold repairBundle
  cases requested with
  | some backend => exact hknown backend
  | none =>
    have hkey : Key.entry project .data none = .ok (Key.plain project .data) := rfl
    have hread : Conduct terms project (read (Kind.decode .data) (Key.plain project .data))
        fun found => ∀ value, found = some value → terms.Good .data value := .read hkey
    have hstored : Conduct terms project (storedBackend project) fun _ => True :=
      hread.andAlways fun _ => .value trivial
    exact hstored.andOption hdrop fun backend _ => hknown backend

theorem conduct_fetchBundle (hsource : terms.GoodSource source) {data : Project}
    (hdata : terms.Good .data data) (backend : String) :
    Conduct terms project (fetchBundle source project data backend) terms.GoodBundle := by
  unfold fetchBundle
  refine (conduct_fetch hsource .contentBase _).andThen fun contentBase hcontentBase => ?_
  refine (conduct_fetch hsource .team _).andThen fun team hteam => ?_
  refine (conduct_fetch hsource .guardrails _).andThen fun guardrails hguardrails => ?_
  refine (conduct_fetch hsource .inlineAgent _).andThen fun inlineAgent hinlineAgent => ?_
  exact .value ⟨hdata, hdata, hcontentBase, hteam, hguardrails, hinlineAgent⟩

theorem conduct_writeParts {bundle : Bundle} (hgood : terms.GoodBundle bundle) (backend : String) :
    Conduct terms project (writeParts terms.ttls project backend bundle) fun _ => True := by
  have hplain : ∀ kind (value : kind.Value), kind ≠ .team → terms.Good kind value →
      Conduct terms project
        (CacheM.set (Key.plain project kind) (kind.encode value) (terms.ttls.ofKind kind))
        fun _ => True :=
    fun kind _ hkind hvalue => .write (Key.entry_of_ne_team hkind project none) hvalue
  have hteam : Conduct terms project (CacheM.set (Key.team project backend)
      (Kind.encode .team bundle.team) (terms.ttls.ofKind .team)) fun _ => True :=
    .write (Key.entry_team project backend) hgood.team
  unfold writeParts
  refine (Conduct.writeBundle hgood).andAlways fun _ => ?_
  refine (hplain .data _ nofun hgood.data).andAlways fun _ => ?_
  refine (hplain .contentBase _ nofun hgood.contentBase).andAlways fun _ => ?_
  refine hteam.andAlways fun _ => ?_
  refine (hplain .guardrails _ nofun hgood.guardrails).andAlways fun _ => ?_
  have hinlineAgent := hgood.inlineAgent
  cases hinline : bundle.inlineAgent with
  | none => exact .value trivial
  | some inlineAgent =>
    rw [hinline] at hinlineAgent
    exact hplain .inlineAgent _ nofun hinlineAgent

theorem conduct_getBundle (hsource : terms.GoodSource source) (requested : Option String) :
    Conduct terms project (getBundle terms.ttls source project requested) fun _ => True := by
  have hmiss : Conduct terms project (supplyBundle terms.ttls source project requested)
      fun _ => True := by
    unfold supplyBundle
    refine (Conduct.counted _).andAlways fun _ => ?_
    refine (conduct_fetch hsource .data _).andThen fun data hdata => ?_
    cases requested <|> Project.agentsBackend data with
    | none => exact .failure _
    | some backend =>
      refine (conduct_fetchBundle hsource hdata backend).andThen fun bundle hbundle => ?_
      exact (conduct_writeParts hbundle backend).andAlways fun _ => .value trivial
  unfold getBundle
  refine Conduct.readBundle.andOption hmiss fun bundle _ => ?_
  cases hserves : bundle.serves requested with
  | true =>
    simp only [hserves, if_true]
    exact (Conduct.counted _).andAlways fun _ => .value trivial
  | false =>
    simp only [hserves, if_neg Bool.false_ne_true]
    exact hmiss

/-! ## Invalidating and refreshing -/

theorem conduct_invalidate (kind : Kind) (backend : Option String) :
    Conduct terms project (invalidate terms.ttls kind project backend) fun _ => True := by
  unfold invalidate
  refine (Conduct.counted _).andAlways fun _ => ?_
  split
  · exact Conduct.deleteRosters.andAlways fun _ => conduct_dropBundle
  · refine conduct_ofExcept_bind fun key hkey => ?_
    refine (Conduct.delete (Key.entry_inScope hkey)).andAlways fun _ => ?_
    exact (conduct_repairBundle backend).andAlways fun _ => .value trivial

theorem conduct_invalidateProject :
    Conduct terms project (invalidateProject project) fun _ => True :=
  (Conduct.counted _).andAlways fun _ => .deleteAll

theorem conduct_refresh {document : Document} (hgood : terms.Good document.kind document.value)
    (backend : Option String) :
    Conduct terms project (refresh terms.ttls project document backend) fun _ => True := by
  unfold refresh
  refine conduct_ofExcept_bind fun key hkey => ?_
  refine (Conduct.write hkey hgood).andAlways fun _ => (Conduct.counted _).andAlways fun _ => ?_
  exact (conduct_repairBundle backend).andAlways fun _ => .value trivial

theorem conduct_refreshWith {fetch : Fetch kind}
    (hfetch : terms.Fetchable kind (fetch (requestFor kind project backend))) :
    Conduct terms project (refreshWith terms.ttls kind project backend fetch) (terms.Good kind) := by
  unfold refreshWith
  refine conduct_ofExcept_bind fun key hkey => ?_
  refine (Conduct.delete (Key.entry_inScope hkey)).andAlways fun _ => ?_
  refine (Conduct.counted _).andAlways fun _ => ?_
  refine (conduct_getOrCreate hkey (.fetch hfetch)).andThen fun value hvalue => ?_
  exact (conduct_repairBundle _).andAlways fun _ => .value hvalue

end Cache

/-! ## Turns -/

namespace Turn

theorem conduct_resolve (hsource : terms.GoodSource source) :
    Cache.Conduct terms project (source.resolve project) fun resolved =>
      terms.Good .data resolved.project ∧ terms.Good .contentBase resolved.contentBase ∧
        terms.Good .inlineAgent resolved.inlineAgent := by
  unfold Source.resolve
  refine (Cache.conduct_fetch hsource .data _).andThen fun data hdata => ?_
  refine (Cache.conduct_fetch hsource .contentBase _).andThen fun contentBase hcontentBase => ?_
  refine (Cache.conduct_fetch hsource .inlineAgent _).andThen fun inlineAgent hinlineAgent => ?_
  exact .value ⟨hdata, hcontentBase, hinlineAgent⟩

theorem conduct_load (hsource : terms.GoodSource source) :
    Cache.Conduct terms project (load terms.ttls source project) fun _ => True := by
  unfold load
  refine (conduct_resolve hsource).andThen ?_
  rintro resolved ⟨hdata, hcontentBase, hinlineAgent⟩
  refine (Cache.conduct_get (.value hdata)).andAlways fun data => ?_
  cases Project.agentsBackend data <|> resolved.project.agentsBackend with
  | none => exact .failure _
  | some backend =>
    refine (Cache.conduct_get (.value hcontentBase)).andAlways fun contentBase => ?_
    refine (Cache.conduct_get (Cache.conduct_fetch hsource _ _)).andAlways fun instructions => ?_
    refine (Cache.conduct_get (Cache.conduct_fetch hsource _ _)).andAlways fun agent => ?_
    refine (Cache.conduct_get (Cache.conduct_fetch hsource _ _)).andAlways fun team => ?_
    refine (Cache.conduct_get (Cache.conduct_fetch hsource _ _)).andAlways fun guardrails => ?_
    cases hinline : resolved.inlineAgent with
    | none => exact .value trivial
    | some inlineAgent =>
      rw [hinline] at hinlineAgent
      exact (Cache.conduct_get (.value hinlineAgent)).andAlways fun _ => .value trivial

/-- A turn is the reading of its documents, and log lines. -/
theorem reports_prepare (ttls : Ttls) (slow : Span) (source : Source) (project : String) :
    (load ttls source project).Reports (prepare ttls slow source project) := by
  have hslow : ∀ world, ∃ lines : List Happening,
      (∀ line ∈ lines, ∃ level text, line = .logged level text ∧ line ≠ .dropped) ∧
        noteDuration slow world = { world with trace := lines ++ world.trace } := by
    intro world
    unfold noteDuration
    split
    · refine ⟨[.logged .warn "Slow pre-generation call"], ?_, rfl⟩
      simp [Happening.dropped]
    · exact ⟨[], nofun, rfl⟩
  intro world result world' hrun
  rw [prepare, hrun]
  cases result with
  | ok turn =>
    obtain ⟨lines, hlines, heq⟩ := hslow world'
    exact ⟨lines, hlines, congrArg _ heq⟩
  | error e =>
    obtain ⟨lines, hlines, heq⟩ :=
      hslow (world'.record (.logged .error "Pre-generation data failed"))
    refine ⟨lines ++ [.logged .error "Pre-generation data failed"], ?_, ?_⟩
    · intro line hline
      rcases List.mem_append.1 hline with hline | hline
      · exact hlines line hline
      · obtain rfl := List.mem_singleton.1 hline
        exact ⟨_, _, rfl, by simp [Happening.dropped]⟩
    · rw [List.append_assoc]
      exact congrArg _ heq

end Turn

/-! ## Operations -/

/-- What an operation is on. -/
inductive Owner where
  | project (uuid : String)
  | workflow (id : String)
  deriving DecidableEq

namespace Operation

/-- What the operation is on. -/
def owner : Operation → Owner
  | .get _ project _ _ | .getBundle _ project _ | .turn _ project | .invalidate _ project _
  | .invalidateProject project | .refresh project _ _ | .refreshWith _ project _ _
  | .rebuildBundle project _ => .project project
  | .setWorkflow id _ _ | .getWorkflow _ id _ | .clearWorkflow id => .workflow id

/-- What callers hand over with the operation is within the terms. -/
def Keeps (terms : Terms) : Operation → Prop
  | .get kind project backend fetch | .refreshWith kind project backend fetch =>
    terms.Fetchable kind (fetch (Cache.requestFor kind project backend))
  | .getBundle source _ _ | .turn source _ => terms.GoodSource source
  | .refresh _ document _ => terms.Good document.kind document.value
  | _ => True

/-- Operations on a project are made of steps on the project. -/
theorem conduct_run {operation : Operation} {config : CacheConfig}
    (howner : operation.owner = .project project) (httls : config.ttls = terms.ttls)
    (hkeeps : operation.Keeps terms) :
    Cache.Conduct terms project (operation.run config) fun _ => True := by
  unfold run
  rw [httls]
  cases operation <;> cases howner
  case get => exact (Cache.conduct_get (.fetch hkeeps)).map fun _ _ => trivial
  case getBundle => exact (Cache.conduct_getBundle hkeeps _).map fun _ _ => trivial
  case turn =>
    exact ((Turn.conduct_load hkeeps).reported (Turn.reports_prepare _ _ _ _)).map
      fun _ _ => trivial
  case invalidate => exact (Cache.conduct_invalidate _ _).map fun _ _ => trivial
  case invalidateProject => exact Cache.conduct_invalidateProject.map fun _ _ => trivial
  case refresh => exact (Cache.conduct_refresh hkeeps _).map fun _ _ => trivial
  case refreshWith => exact (Cache.conduct_refreshWith hkeeps).map fun _ _ => trivial
  case rebuildBundle => exact (Cache.conduct_rebuildBundle _).map fun _ _ => trivial

end Operation

end ProjectCache
