/-
# ProjectCache.Proofs.Cache.Separation — owners who share a store do not notice each other.

When each operation of a history either keeps to a region of keys or keeps out of it, the latter can be
left out of the history: the others come to the same results, and the region ends with the same entries
(`TimedOperation.undisturbed`). That separates projects from each other when their identifiers are plain
text for keys and patterns (`TimedOperation.projects_apart`). And it separates projects from workflows,
whatever their identifiers (`TimedOperation.projects_workflows_apart`): a pattern matches only what
begins with the text before the identifier, which has no special character.
-/
import ProjectCache.Proofs.Cache.Isolation
import ProjectCache.Proofs.Cache.Region

namespace ProjectCache

/-- An operation, and the reading of the clock at which it is carried out. -/
structure TimedOperation where
  /-- The reading of the clock. -/
  now : Nat
  /-- The operation. -/
  operation : Operation

variable {region : Region} {project : String} {history : List TimedOperation} {world : World}
  {config : CacheConfig}

namespace TimedOperation

/-! ## Histories -/

/-- What an operation comes to, and the world that it leaves, also when it fails. -/
def perform (config : CacheConfig) (timed : TimedOperation) (world : World) :
    Except Error Answer × World :=
  match timed.operation.run config { world with now := timed.now } with
  | .ok answer world' => (.ok answer, world')
  | .error e world' => (.error e, world')

/-- Carries operations out one after the other, and lists beside each what it comes to. -/
def replay (config : CacheConfig) :
    List TimedOperation → World → List (TimedOperation × Except Error Answer) × World
  | [], world => ([], world)
  | timed :: history, world =>
    let (result, middle) := timed.perform config world
    let (results, last) := replay config history middle
    ((timed, result) :: results, last)

/-- The operations inside come to the same when the others are left out, and under the keys of the
region the same entries are left, dead ones included. -/
structure Undisturbed (config : CacheConfig) (region : Region) (inside : TimedOperation → Bool)
    (history : List TimedOperation) (world : World) : Prop where
  results : (replay config history world).1.filter (fun entry => inside entry.1)
    = (replay config (history.filter inside) world).1
  entries : (replay config history world).2.store.AgreesOn region
    (replay config (history.filter inside) world).2.store

theorem perform_of_endsIn {timed : TimedOperation} {result : Except Error Answer} {reached : Store}
    (h : CacheM.EndsIn timed.now world.store (timed.operation.run config) result reached)
    (houtages : world.outages = []) :
    ∃ world', timed.perform config world = (result, world') ∧ world'.Calm timed.now reached := by
  obtain ⟨result, _, world', hrun, hcalm, rfl, rfl⟩ :=
    h { world with now := timed.now } ⟨rfl, houtages, rfl⟩
  refine ⟨world', ?_, hcalm⟩
  rw [perform, hrun]
  cases result <;> rfl

theorem replay_cons {timed : TimedOperation} {result : Except Error Answer} {middle : World}
    (h : timed.perform config world = (result, middle)) (history : List TimedOperation) :
    replay config (timed :: history) world
      = ((timed, result) :: (replay config history middle).1, (replay config history middle).2) := by
  rw [replay, h]

/-- Two worlds that agree on the region are carried through a history, the second without the
operations outside. -/
theorem replay_filter {inside : TimedOperation → Bool} {other : World}
    (hinside : ∀ timed ∈ history, inside timed = true →
      (timed.operation.run config).KeepsTo region)
    (houtside : ∀ timed ∈ history, inside timed = false →
      (timed.operation.run config).KeepsTo (¬ region ·))
    (houtages : world.outages = []) (houtages' : other.outages = [])
    (hagrees : world.store.AgreesOn region other.store) :
    (replay config history world).1.filter (fun entry => inside entry.1)
        = (replay config (history.filter inside) other).1 ∧
      (replay config history world).2.store.AgreesOn region
        (replay config (history.filter inside) other).2.store := by
  -- by induction on the history; that the worlds agree on the region is the invariant
  induction history generalizing world other with
  | nil => exact ⟨rfl, hagrees⟩
  | cons timed history ih =>
    have ih' := fun {world other : World} => @ih world other
      (fun t ht => hinside t (.tail _ ht)) (fun t ht => houtside t (.tail _ ht))
    cases hside : inside timed with
    | true =>
      obtain ⟨result, reached, reached', hends, hends', hreached, -⟩ :=
        hinside timed (.head _) hside timed.now _ _ hagrees
      obtain ⟨middle, hmiddle, hcalm⟩ := perform_of_endsIn hends houtages
      obtain ⟨middle', hmiddle', hcalm'⟩ := perform_of_endsIn hends' houtages'
      obtain ⟨hresults, hentries⟩ := ih' hcalm.outages_eq hcalm'.outages_eq
        (hcalm.store_eq ▸ hcalm'.store_eq ▸ hreached)
      rw [List.filter_cons_of_pos hside, replay_cons hmiddle, replay_cons hmiddle']
      refine ⟨?_, hentries⟩
      simp only [List.filter_cons, hside, hresults, if_true]
    | false =>
      obtain ⟨result, reached, -, hends, -, -, hkept⟩ :=
        houtside timed (.head _) hside timed.now _ _ (.refl world.store _)
      obtain ⟨middle, hmiddle, hcalm⟩ := perform_of_endsIn hends houtages
      have hmiddleAgrees : middle.store.AgreesOn region other.store := by
        intro key hkey
        rw [hcalm.store_eq, ← hkept key (not_not_intro hkey), hagrees key hkey]
      obtain ⟨hresults, hentries⟩ := ih' hcalm.outages_eq houtages' hmiddleAgrees
      rw [List.filter_cons_of_neg (Bool.eq_false_iff.1 hside), replay_cons hmiddle]
      refine ⟨?_, hentries⟩
      simp only [List.filter_cons, hside, hresults, if_neg Bool.false_ne_true]

/-- Operations whose owners have all that belongs to them outside of the region do not disturb those
whose owners have it inside. -/
theorem undisturbed {inside : TimedOperation → Bool}
    (hsettled : ∀ timed ∈ history, timed.operation.Settled)
    (hinside : ∀ timed ∈ history, inside timed = true → region.Has timed.operation.owner)
    (houtside : ∀ timed ∈ history, inside timed = false →
      Region.Has (¬ region ·) timed.operation.owner)
    (houtages : world.outages = []) : Undisturbed config region inside history world := by
  have hkeeps : ∀ timed ∈ history, ∀ region : Region, region.Has timed.operation.owner →
      (timed.operation.run config).KeepsTo region :=
    fun timed htimed _ hregion => Operation.keepsTo_run (hsettled timed htimed) hregion config
  obtain ⟨hresults, hentries⟩ := replay_filter
    (fun timed htimed hside => hkeeps timed htimed _ (hinside timed htimed hside))
    (fun timed htimed hside => hkeeps timed htimed _ (houtside timed htimed hside))
    houtages houtages (.refl world.store region)
  exact ⟨hresults, hentries⟩

end TimedOperation

/-! ## Regions of owners -/

namespace Region

theorem HasProject.mono {larger : Region} (h : region.HasProject project)
    (hle : ∀ key, region key → larger key) : larger.HasProject project where
  scope key hkey := hle key (h.scope key hkey)
  documents tokens htokens key hkey := hle key (h.documents tokens htokens key hkey)
  rosters tokens htokens key hkey := hle key (h.rosters tokens htokens key hkey)

theorem HasWorkflow.mono {larger : Region} {id : String} (h : region.HasWorkflow id)
    (hle : ∀ key, region key → larger key) : larger.HasWorkflow id where
  states dataType := hle _ (h.states dataType)
  all tokens htokens key hkey := hle key (h.all tokens htokens key hkey)

/-- The scope of a regular project has what belongs to it. -/
theorem hasProject_inScope (h : Key.Regular project) :
    HasProject (Key.InScope project) project where
  scope _ hkey := hkey
  documents _ htokens _ hkey :=
    have ⟨rest, hrest, _⟩ := (h.accepts_projectPattern htokens).1 hkey
    ⟨rest, hrest⟩
  rosters _ htokens _ hkey := h.inScope_of_teamPattern htokens hkey

/-- The keys that begin with a text. -/
def under (front : String) : Region := fun key => ∃ rest, key = front ++ rest

/-- Whatever the identifier is, the pattern of a sweep matches only what begins with the text before
the identifier. -/
theorem spans_under (sweep : Sweep) (id : String) : (under sweep.front).Spans (sweep.pattern id) := by
  intro tokens htokens key hkey
  obtain ⟨ts, -, rfl⟩ := sweep.ofText_eq_ok htokens
  obtain ⟨middle, rest, rfl, -⟩ := Glob.acceptsText_splice.1 hkey
  refine ⟨middle ++ sweep.tail ++ rest, ?_⟩
  simp only [String.append_assoc]

theorem hasProject_under (project : String) : (under "project:").HasProject project where
  scope key hkey := by
    obtain ⟨rest, rfl⟩ := hkey
    refine ⟨project ++ ":" ++ rest, ?_⟩
    simp only [Key.scope, String.append_assoc]
  documents := spans_under .project project
  rosters := spans_under .rosters project

theorem hasWorkflow_under (id : String) : (under "workflow:").HasWorkflow id where
  states dataType := by
    refine ⟨id ++ ":" ++ dataType, ?_⟩
    simp only [Key.workflow, String.append_assoc]
  all := spans_under .workflow id

/-- No key is of a project and of a workflow. -/
theorem not_under_workflow {key : String} (h : under "project:" key) : ¬ under "workflow:" key := by
  rintro ⟨rest', h'⟩
  obtain ⟨rest, rfl⟩ := h
  have hlist := congrArg String.toList h'
  simp [String.toList_append] at hlist

end Region

/-! ## Separation -/

/-- When a regular project is invalidated, none of its keys is live afterwards, but for keys with a
newline. -/
theorem Cache.ensures_invalidateProject_flushed (h : Key.Regular project) (now : Nat)
    (store : Store) :
    CacheM.Ensures now store (invalidateProject project) fun result reached =>
      (∃ removed, result = .ok removed) ∧ ∀ key later, Key.InScope project key →
        '\n' ∉ key.toList → reached.live? later key = none := by
  refine (ensures_invalidateProject now store project).mono ?_
  rintro _ _ (⟨tokens, htokens, rfl, rfl⟩ | ⟨⟨fault, e, hfault, -⟩, -⟩)
  · refine ⟨⟨_, rfl⟩, ?_⟩
    rintro _ later ⟨rest, rfl⟩ hnewline
    have hrest : ∀ c ∈ rest.toList, c ≠ '\n' := by
      rintro c hc rfl
      rw [String.toList_append] at hnewline
      exact hnewline (List.mem_append_right _ hc)
    rw [Store.live?_without, if_pos ((h.accepts_projectPattern htokens).2 ⟨rest, rfl, hrest⟩)]
  · have hread := Sweep.project.ofText_eq_error hfault
    rw [Glob.ofText_ordinary fun c hc => (h c hc).2] at hread
    cases hread

namespace TimedOperation

/-- The operations on other projects can be left out of a history, as long as all identifiers are
plain text for keys and patterns: the operations on a project come to the same, and the same entries
are left in its scope. And when the project is invalidated, nothing of it is live afterwards, but for
keys with a newline. -/
theorem projects_apart (hproject : Key.Regular project) (houtages : world.outages = [])
    (howners : ∀ timed ∈ history, ∃ other,
      timed.operation.owner = .project other ∧ Key.Regular other)
    (hsettled : ∀ timed ∈ history, timed.operation.Settled) :
    Undisturbed config (Key.InScope project) (·.operation.owner = .project project) history world ∧
    ∀ world : World, world.outages = [] → ∃ removed last,
      Operation.run config (.invalidateProject project) world = .ok (.count removed) last ∧
      ∀ key later, Key.InScope project key → '\n' ∉ key.toList →
        last.store.live? later key = none := by
  constructor
  · refine undisturbed hsettled (fun timed _ hside => ?_) (fun timed htimed hside => ?_) houtages
    · rw [of_decide_eq_true hside]
      exact Region.hasProject_inScope hproject
    · obtain ⟨other, hother, hregular⟩ := howners timed htimed
      have hne : other ≠ project := by
        rintro rfl
        exact of_decide_eq_false hside hother
      rw [hother]
      refine (Region.hasProject_inScope hregular).mono fun key hkey hkey' => hne ?_
      exact Key.eq_of_inScope hregular.colon_not_mem hproject.colon_not_mem hkey hkey'
  · intro world houtages
    obtain ⟨_, _, last, hrun, hcalm, ⟨removed, rfl⟩, hflushed⟩ :=
      Cache.ensures_invalidateProject_flushed hproject world.now world.store world
        ⟨rfl, houtages, rfl⟩
    exact ⟨removed, last, CacheM.map_of_ok hrun Answer.count, hcalm.store_eq ▸ hflushed⟩

/-- Operations on two projects, the identifier of one of which begins with that of the other. -/
def neighbours : List TimedOperation :=
  [⟨0, .getBundle (.sole .lone) "p" none⟩,
    ⟨1, .getBundle (.sole { Project.lone with uuid := "pq" }) "pq" none⟩,
    ⟨2, .invalidateProject "pq"⟩, ⟨3, .turn (.sole .lone) "p"⟩]

/-- The two projects are apart. -/
theorem projects_apart_of_neighbours : Key.Regular "p" ∧
    (∀ timed ∈ neighbours, ∃ other,
      timed.operation.owner = .project other ∧ Key.Regular other) ∧
    (∀ timed ∈ neighbours, timed.operation.Settled) ∧
    (neighbours.filter (·.operation.owner = .project "p")).length = 2 ∧
    Undisturbed {} (Key.InScope "p") (·.operation.owner = .project "p") neighbours { now := 0 } ∧
    ∀ world : World, world.outages = [] → ∃ removed last,
      Operation.run {} (.invalidateProject "p") world = .ok (.count removed) last ∧
      ∀ key later, Key.InScope "p" key → '\n' ∉ key.toList → last.store.live? later key = none := by
  have hregular : ∀ {project : String},
      project.toList.all (fun c => c ≠ ':' ∧ Glob.isOrdinary c) = true → Key.Regular project :=
    fun hall c hc => of_decide_eq_true (List.all_eq_true.1 hall c hc)
  have howners : ∀ timed ∈ neighbours, ∃ other,
      timed.operation.owner = .project other ∧ Key.Regular other := by
    intro timed htimed
    simp only [neighbours, List.mem_cons, List.not_mem_nil, or_false] at htimed
    rcases htimed with rfl | rfl | rfl | rfl
    · exact ⟨"p", rfl, hregular (by decide)⟩
    · exact ⟨"pq", rfl, hregular (by decide)⟩
    · exact ⟨"pq", rfl, hregular (by decide)⟩
    · exact ⟨"p", rfl, hregular (by decide)⟩
  have hsettled : ∀ timed ∈ neighbours, timed.operation.Settled := by
    intro timed htimed
    simp only [neighbours, List.mem_cons, List.not_mem_nil, or_false] at htimed
    rcases htimed with rfl | rfl | rfl | rfl <;> trivial
  exact ⟨hregular (by decide), howners, hsettled, by decide,
    projects_apart (hregular (by decide)) rfl howners hsettled⟩

/-! ## Projects and workflows -/

/-- Is the operation on a workflow? -/
def onWorkflow (timed : TimedOperation) : Bool :=
  match timed.operation.owner with
  | .project _ => false
  | .workflow _ => true

theorem has_of_onWorkflow {timed : TimedOperation} (h : timed.onWorkflow = true) :
    (Region.under "workflow:").Has timed.operation.owner ∧
      Region.Has (¬ Region.under "project:" ·) timed.operation.owner := by
  unfold onWorkflow at h
  cases howner : timed.operation.owner with
  | project uuid => simp [howner] at h
  | workflow id =>
    exact ⟨Region.hasWorkflow_under id,
      (Region.hasWorkflow_under id).mono fun _ hkey hother => Region.not_under_workflow hother hkey⟩

theorem has_of_not_onWorkflow {timed : TimedOperation} (h : timed.onWorkflow = false) :
    (Region.under "project:").Has timed.operation.owner ∧
      Region.Has (¬ Region.under "workflow:" ·) timed.operation.owner := by
  unfold onWorkflow at h
  cases howner : timed.operation.owner with
  | project uuid =>
    exact ⟨Region.hasProject_under uuid,
      (Region.hasProject_under uuid).mono fun _ => Region.not_under_workflow⟩
  | workflow id => simp [howner] at h

/-- Whatever the identifiers are, the operations on projects can be left out of a history, and the
operations on workflows come to the same and leave the same entries; and the other way round. -/
theorem projects_workflows_apart (houtages : world.outages = [])
    (hsettled : ∀ timed ∈ history, timed.operation.Settled) :
    Undisturbed config (.under "workflow:") onWorkflow history world ∧
    Undisturbed config (.under "project:") (fun timed => ! timed.onWorkflow) history world := by
  constructor
  · exact undisturbed hsettled (fun _ _ hside => (has_of_onWorkflow hside).1)
      (fun _ _ hside => (has_of_not_onWorkflow hside).2) houtages
  · refine undisturbed hsettled (fun timed _ hside => ?_) (fun timed _ hside => ?_) houtages
    · exact (has_of_not_onWorkflow (by simpa using hside)).1
    · exact (has_of_onWorkflow (by simpa using hside)).2

/-- Operations on projects and workflows, with identifiers that are patterns. -/
def patterned : List TimedOperation :=
  [⟨0, .setWorkflow "a:*" "state" .null⟩, ⟨1, .get .data "[a]*" none fun _ => pure .lone⟩,
    ⟨2, .invalidateProject "*"⟩, ⟨3, .getWorkflow (fun json => .ok json) "a:*" "state"⟩,
    ⟨4, .clearWorkflow "["⟩]

/-- Projects and workflows are apart, although the first are all removed by a pattern. -/
theorem projects_workflows_apart_of_patterned :
    (∀ timed ∈ patterned, timed.operation.Settled) ∧
    Undisturbed {} (.under "workflow:") onWorkflow patterned { now := 0 } ∧
    Undisturbed {} (.under "project:") (fun timed => ! timed.onWorkflow) patterned { now := 0 } := by
  have hsettled : ∀ timed ∈ patterned, timed.operation.Settled := by
    intro timed htimed
    simp only [patterned, List.mem_cons, List.not_mem_nil, or_false] at htimed
    rcases htimed with rfl | rfl | rfl | rfl | rfl
    · trivial
    · exact ⟨.ok .lone, fun _ _ => CacheM.yields_pure _⟩
    · trivial
    · trivial
    · trivial
  exact ⟨hsettled, projects_workflows_apart rfl hsettled⟩

end TimedOperation

end ProjectCache
