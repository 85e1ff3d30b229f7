/-
# ProjectCache.Proofs.Cache.Sweep — what goes when all that belongs to an identifier is removed.

The documents of a project, its rosters and the state of a workflow are removed by a pattern into which
the identifier is spliced as it is. So a sweep removes the keys that have in the place of the
identifier what the identifier matches as a pattern, and no newline behind (`Sweep.Takes`), and it
fails when the identifier is no pattern. That is the namespace of the identifier (`Sweep.Covers`) only
as far as the two agree on the keys that are stored (`Sweep.removes_iff`): always for an identifier of
ordinary characters, unless a key of its namespace has a newline in it. An identifier with a bracket in
it flushes others (`Sweep.removes_others`).
-/
import ProjectCache.Cache.Operation
import ProjectCache.Proofs.Cache.Outcomes
import ProjectCache.Proofs.Glob.Splice

namespace ProjectCache

variable {now : Nat} {store reached : Store} {id key : String} {tokens : List Glob.Token}

namespace Store

/-! ## Counting what is gone -/

/-- How many of the live keys are gone in the second store. -/
def lost (store : Store) (now : Nat) (reached : Store) : Nat :=
  ((store.keys now).filter fun key => (reached.entries.find? key).isNone).length

/-- The live keys that a pattern matches are those that are gone without what it matches. -/
theorem matchCount_eq_lost (store : Store) (now : Nat) (tokens : List Glob.Token) :
    store.matchCount now tokens = store.lost now (store.without tokens) := by
  have hgone : ∀ e ∈ (store.liveEntries now).entries,
      Glob.acceptsText tokens e.1 = ((store.without tokens).entries.find? e.1).isNone := by
    rintro ⟨key, entry⟩ hmem
    have hlive := find?_liveEntries store now key ▸ Keyed.find?_eq_some_iff.2 hmem
    obtain ⟨hfind, -⟩ := Option.filter_eq_some_iff.1 hlive
    show Glob.acceptsText tokens key = ((store.without tokens).entries.find? key).isNone
    rw [find?_without, hfind]
    cases Glob.acceptsText tokens key <;> rfl
  show ((store.liveEntries now).entries.filter fun e => Glob.acceptsText tokens e.1).length
    = (((store.liveEntries now).entries.map (·.1)).filter _).length
  rw [List.filter_map, List.length_map, List.filter_congr hgone]
  rfl

end Store

/-! ## Sweeps -/

/-- The operations that remove all that belongs to an identifier. -/
inductive Sweep where
  /-- All documents of a project. -/
  | project
  /-- All rosters of a project. -/
  | rosters
  /-- All that is kept for a workflow. -/
  | workflow
  deriving DecidableEq

namespace Sweep

/-- The operation. -/
def operation (id : String) : Sweep → Operation
  | project => .invalidateProject id
  | rosters => .invalidate .team id none
  | workflow => .clearWorkflow id

/-- What the operation returns when it has removed so many live keys. -/
def answer (removed : Nat) : Sweep → Answer
  | project | workflow => .count removed
  | rosters => .done

/-- What stands before the identifier in a key. -/
def front : Sweep → String
  | project | rosters => "project:"
  | workflow => "workflow:"

/-- What stands behind the identifier in a key. -/
def tail : Sweep → String
  | project | workflow => ":"
  | rosters => ":team:"

/-- What the keys of an identifier begin with. -/
def space (sweep : Sweep) (id : String) : String := sweep.front ++ id ++ sweep.tail

/-- The key that goes as well: with the rosters of a project its bundle. -/
def bundle? (id : String) : Sweep → Option String
  | rosters => some (Key.bundle id)
  | project | workflow => none

/-- The keys that belong to an identifier. -/
def Covers (sweep : Sweep) (id key : String) : Prop :=
  (∃ rest, key = sweep.space id ++ rest) ∨ sweep.bundle? id = some key

/-- The keys that are matched when the identifier is read as a pattern. -/
def Takes (sweep : Sweep) (id : String) (tokens : List Glob.Token) (key : String) : Prop :=
  (∃ middle rest, key = sweep.front ++ middle ++ sweep.tail ++ rest ∧
    Glob.acceptsText tokens middle = true ∧ '\n' ∉ rest.toList) ∨ sweep.bundle? id = some key

/-- The operation succeeds, removes just these keys, and counts the live ones that are gone. -/
def Removes (sweep : Sweep) (config : CacheConfig) (id : String) (world : World)
    (gone : String → Prop) : Prop :=
  ∃ world', (sweep.operation id).run config world
      = .ok (sweep.answer (world.store.lost world.now world'.store)) world' ∧
    ∀ key, (gone key → world'.store.entries.find? key = none) ∧
      (¬ gone key → world'.store.entries.find? key = world.store.entries.find? key)

/-! ## Patterns of sweeps -/

/-- The pattern of a sweep. -/
def pattern (id : String) : Sweep → String
  | project => Key.projectPattern id
  | rosters => Key.teamPattern id
  | workflow => Key.workflowPattern id

theorem pattern_eq (sweep : Sweep) (id : String) :
    sweep.pattern id = sweep.space id ++ "*" := by
  have hcolon : ":*" = ":" ++ "*" := rfl
  have hteam : ":" ++ "team" ++ ":" = ":team:" := rfl
  cases sweep with
  | project => rw [pattern, Key.projectPattern, hcolon, ← String.append_assoc]; rfl
  | rosters =>
    rw [pattern, Key.teamPattern, hcolon, ← String.append_assoc]
    show "project:" ++ id ++ ":" ++ "team" ++ ":" ++ "*" = "project:" ++ id ++ ":team:" ++ "*"
    rw [← hteam]
    simp only [String.append_assoc]
  | workflow => rw [pattern, Key.workflowPattern, hcolon, ← String.append_assoc]; rfl

/-- The identifier is read as a pattern of its own. -/
theorem ofText_pattern (sweep : Sweep) (id : String) :
    Glob.ofText (sweep.pattern id) = (Glob.ofText id).map (Glob.splice sweep.front sweep.tail) := by
  have htail : ∀ c ∈ sweep.tail.toList, (Glob.isOrdinary c && c ≠ ']') = true := by
    cases sweep <;> exact List.all_eq_true.1 (by decide)
  rw [pattern_eq]
  refine Glob.ofText_splice ?_ ?_ ?_ id
  · cases sweep <;> exact List.all_eq_true.1 (by decide)
  · intro c hc
    simpa using htail c hc
  · cases sweep <;> decide

/-- What is left without the keys that a sweep takes. -/
def leaves (sweep : Sweep) (id : String) (tokens : List Glob.Token) (store : Store) : Store :=
  let swept := store.without (Glob.splice sweep.front sweep.tail tokens)
  match sweep.bundle? id with
  | some bundle => swept.drop bundle
  | none => swept

theorem find?_leaves (sweep : Sweep) (id : String) (tokens : List Glob.Token) (store : Store)
    (key : String) :
    (sweep.Takes id tokens key → (sweep.leaves id tokens store).entries.find? key = none) ∧
      (¬ sweep.Takes id tokens key →
        (sweep.leaves id tokens store).entries.find? key = store.entries.find? key) := by
  rw [Takes, ← Glob.acceptsText_splice]
  unfold leaves
  cases hbundle : sweep.bundle? id with
  | none => simp +contextual [Store.find?_without]
  | some bundle =>
    rw [Store.find?_drop, Store.find?_without]
    by_cases hkey : key = bundle
    · simp [hkey]
    · simp +contextual [hkey, Ne.symm hkey]

/-- What a sweep comes to. -/
inductive Outcome (sweep : Sweep) (id : String) (now : Nat) (store : Store) :
    Except Error Answer → Store → Prop where
  /-- The identifier is a pattern, and what it takes is gone. -/
  | swept {tokens : List Glob.Token} (htokens : Glob.ofText id = .ok tokens) :
      Outcome sweep id now store
        (.ok (sweep.answer (store.lost now (sweep.leaves id tokens store))))
        (sweep.leaves id tokens store)
  /-- The identifier is no pattern. -/
  | unreadable {fault : Glob.Fault} {e : Error} (hfault : Glob.ofText id = .error fault) :
      Outcome sweep id now store (.error e) store

theorem ofText_eq_ok (sweep : Sweep) (h : Glob.ofText (sweep.pattern id) = .ok tokens) :
    ∃ ts, Glob.ofText id = .ok ts ∧ tokens = Glob.splice sweep.front sweep.tail ts := by
  rw [ofText_pattern] at h
  cases hid : Glob.ofText id with
  | ok ts =>
    rw [hid] at h
    exact ⟨ts, rfl, (Except.ok.inj h).symm⟩
  | error fault =>
    rw [hid] at h
    cases h

theorem ofText_eq_error (sweep : Sweep) {fault : Glob.Fault}
    (h : Glob.ofText (sweep.pattern id) = .error fault) : Glob.ofText id = .error fault := by
  rw [ofText_pattern] at h
  cases hid : Glob.ofText id with
  | ok ts =>
    rw [hid] at h
    cases h
  | error other =>
    rw [hid] at h
    exact congrArg _ (Except.error.inj h)

/-- The two sweeps that are one removal by a pattern count what they remove. -/
theorem ensures_counted {sweep : Sweep} {m : CacheM Nat}
    (hanswer : ∀ n, sweep.answer n = .count n) (hbundle : sweep.bundle? id = none)
    (hm : CacheM.Ensures now store m fun result reached =>
      (∃ tokens, Glob.ofText (sweep.pattern id) = .ok tokens ∧
        result = .ok (store.matchCount now tokens) ∧ reached = store.without tokens) ∨
      (∃ fault e, Glob.ofText (sweep.pattern id) = .error fault ∧ result = .error e) ∧
        reached = store) :
    CacheM.Ensures now store (Answer.count <$> m) (sweep.Outcome id now store) := by
  refine CacheM.Ensures.map (hm.mono ?_)
  rintro _ _ (⟨tokens, htokens, rfl, rfl⟩ | ⟨⟨fault, e, hfault, rfl⟩, rfl⟩)
  · obtain ⟨ts, hid, rfl⟩ := ofText_eq_ok sweep htokens
    have hleaves : sweep.leaves id ts store
        = store.without (Glob.splice sweep.front sweep.tail ts) := by
      rw [leaves, hbundle]
    have hswept : sweep.Outcome id now store _ (sweep.leaves id ts store) := .swept hid
    rw [hleaves, hanswer, ← Store.matchCount_eq_lost] at hswept
    exact hswept
  · exact .unreadable (ofText_eq_error sweep hfault)

/-- A sweep removes what it takes, or fails when the identifier is no pattern. -/
theorem ensures_run (sweep : Sweep) (config : CacheConfig) (id : String) (now : Nat)
    (store : Store) :
    CacheM.Ensures now store ((sweep.operation id).run config) (sweep.Outcome id now store) := by
  cases sweep with
  | project => exact ensures_counted (fun _ => rfl) rfl (Cache.ensures_invalidateProject now store id)
  | workflow => exact ensures_counted (fun _ => rfl) rfl (CacheM.ensures_deletePattern _)
  | rosters =>
    refine CacheM.Ensures.map ((Cache.ensures_invalidate config.ttls now store .team id
      none).mono ?_)
    intro result reached hinvalidated
    cases hinvalidated with
    | repaired hkey => cases hkey
    | rosters _ _ htokens =>
      obtain ⟨ts, hid, rfl⟩ := ofText_eq_ok .rosters htokens
      exact .swept hid
    | unreadable _ _ hfault => exact .unreadable (ofText_eq_error .rosters hfault)

/-! ## Namespaces -/

/-- The identifier is a pattern that takes, of the stored keys, those that belong to it. -/
def Confined (sweep : Sweep) (id : String) (store : Store) : Prop :=
  ∃ tokens, Glob.ofText id = .ok tokens ∧ ∀ key entry, store.entries.find? key = some entry →
    (sweep.Takes id tokens key ↔ sweep.Covers id key)

/-- Only the keys that are stored count. -/
theorem Removes.congr {sweep : Sweep} {config : CacheConfig} {world : World}
    {gone gone' : String → Prop} (h : sweep.Removes config id world gone)
    (hsame : ∀ key entry, world.store.entries.find? key = some entry → (gone key ↔ gone' key)) :
    sweep.Removes config id world gone' := by
  obtain ⟨world', hrun, hgone⟩ := h
  refine ⟨world', hrun, fun key => ?_⟩
  cases hfind : world.store.entries.find? key with
  | some entry =>
    rw [← hsame key entry hfind, ← hfind]
    exact hgone key
  | none =>
    have hnone : world'.store.entries.find? key = none := by
      by_cases hkey : gone key
      · exact (hgone key).1 hkey
      · exact ((hgone key).2 hkey).trans hfind
    exact ⟨fun _ => hnone, fun _ => hnone⟩

/-- A stored key that is removed is removed by every description of what is. -/
theorem Removes.subset {sweep : Sweep} {config : CacheConfig} {world : World}
    {gone gone' : String → Prop} (h : sweep.Removes config id world gone)
    (h' : sweep.Removes config id world gone') {entry : Entry}
    (hfind : world.store.entries.find? key = some entry) (hkey : gone key) : gone' key := by
  obtain ⟨reached, hrun, hgone⟩ := h
  obtain ⟨reached', hrun', hgone'⟩ := h'
  obtain ⟨-, rfl⟩ : _ ∧ reached = reached' := EStateM.Result.ok.inj (hrun.symm.trans hrun')
  refine Classical.byContradiction fun hother => ?_
  have hnone := ((hgone' key).2 hother).symm.trans ((hgone key).1 hkey)
  rw [hfind] at hnone
  cases hnone

/-- What belongs to an identifier of ordinary characters is taken, but for newlines. -/
theorem takes_literals {sweep : Sweep} :
    sweep.Takes id (Glob.literals id) key ↔
      (∃ rest, key = sweep.space id ++ rest ∧ '\n' ∉ rest.toList) ∨
        sweep.bundle? id = some key := by
  rw [Takes, space]
  refine or_congr_left ⟨?_, ?_⟩
  · rintro ⟨middle, rest, hkey, hmiddle, hrest⟩
    obtain rfl := Glob.acceptsText_literals.1 hmiddle
    exact ⟨rest, hkey, hrest⟩
  · rintro ⟨rest, hkey, hrest⟩
    exact ⟨id, rest, hkey, Glob.acceptsText_literals.2 rfl, hrest⟩

/-- The bundle of a project is not among the keys of its rosters. -/
theorem bundle?_ne_space (sweep : Sweep) (id rest : String) :
    sweep.bundle? id ≠ some (sweep.space id ++ rest) := by
  cases sweep with
  | rosters =>
    intro h
    refine Key.bundle_ne_team id rest ((Option.some.inj h).trans ?_)
    have hteam : ":team:" = ":" ++ "team:" := rfl
    show "project:" ++ id ++ ":team:" ++ rest = _
    rw [hteam, Key.team_eq, Key.scope]
    simp only [String.append_assoc]
  | project =>
    intro h
    cases h
  | workflow =>
    intro h
    cases h

theorem confined_of_ordinary {sweep : Sweep} (hid : ∀ c ∈ id.toList, Glob.isOrdinary c) :
    sweep.Confined id store ↔ ∀ key entry rest, store.entries.find? key = some entry →
      key = sweep.space id ++ rest → '\n' ∉ rest.toList := by
  constructor
  · rintro ⟨tokens, htokens, hsame⟩ key entry rest hfind rfl
    obtain rfl := Except.ok.inj ((Glob.ofText_ordinary hid).symm.trans htokens)
    have htakes := (hsame _ entry hfind).2 (.inl ⟨rest, rfl⟩)
    rcases takes_literals.1 htakes with ⟨rest', hrest', hnewline⟩ | hbundle
    · rw [String.append_right_inj] at hrest'
      exact hrest' ▸ hnewline
    · exact absurd hbundle (sweep.bundle?_ne_space id rest)
  · intro hkeys
    refine ⟨_, Glob.ofText_ordinary hid, fun key entry hfind => ?_⟩
    rw [takes_literals, Covers]
    refine or_congr_left ⟨fun ⟨rest, hkey, _⟩ => ⟨rest, hkey⟩, fun ⟨rest, hkey⟩ => ?_⟩
    exact ⟨rest, hkey, hkeys key entry rest hfind hkey⟩

/-- A sweep removes what the identifier takes as a pattern, and fails without a change when it is
none. So it removes just the namespace of the identifier if and only if the pattern takes nothing else
and misses nothing among the stored keys. With an identifier of ordinary characters that is so unless a
key of its namespace has a newline behind the identifier. -/
theorem removes_iff (sweep : Sweep) (config : CacheConfig) (id : String) (world : World)
    (houtages : world.outages = []) :
    (∀ tokens, Glob.ofText id = .ok tokens →
      sweep.Removes config id world (sweep.Takes id tokens)) ∧
    (∀ fault, Glob.ofText id = .error fault → ∃ e world',
      (sweep.operation id).run config world = .error e world' ∧ world'.store = world.store) ∧
    (sweep.Removes config id world (sweep.Covers id) ↔ sweep.Confined id world.store) ∧
    ((∀ c ∈ id.toList, Glob.isOrdinary c) →
      (sweep.Confined id world.store ↔
        ∀ key entry rest, world.store.entries.find? key = some entry →
          key = sweep.space id ++ rest → '\n' ∉ rest.toList)) := by
  obtain ⟨result, reached, world', hrun, hcalm, houtcome⟩ :=
    sweep.ensures_run config id world.now world.store world ⟨rfl, houtages, rfl⟩
  have hstore : world'.store = reached := hcalm.store_eq
  have htakes : ∀ tokens, Glob.ofText id = .ok tokens →
      sweep.Removes config id world (sweep.Takes id tokens) := by
    intro tokens htokens
    cases houtcome with
    | swept htokens' =>
      obtain rfl := Except.ok.inj (htokens.symm.trans htokens')
      refine ⟨world', ?_, fun key => ?_⟩
      · rw [hstore]
        exact hrun
      · rw [hstore]
        exact sweep.find?_leaves id tokens world.store key
    | unreadable hfault => cases htokens.symm.trans hfault
  refine ⟨htakes, ?_, ⟨?_, ?_⟩, confined_of_ordinary⟩
  · intro fault hfault
    cases houtcome with
    | swept htokens => cases hfault.symm.trans htokens
    | unreadable => exact ⟨_, world', hrun, hstore⟩
  · intro hcovers
    cases houtcome with
    | swept htokens =>
      exact ⟨_, htokens, fun key entry hfind => ⟨(htakes _ htokens).subset hcovers hfind,
        hcovers.subset (htakes _ htokens) hfind⟩⟩
    | unreadable =>
      obtain ⟨last, hlast, -⟩ := hcovers
      cases hrun.symm.trans hlast
  · rintro ⟨tokens, htokens, hsame⟩
    exact (htakes tokens htokens).congr hsame

/-- All that is stored for a project is removed, and nothing else. -/
theorem removes_iff_of_lone : ∃ world : World, world = { now := 0, store := .lone } ∧
    world.outages = [] ∧ Sweep.project.Confined "p" world.store ∧
    Sweep.project.Removes {} "p" world (Sweep.project.Covers "p") := by
  have hkeys : ∀ e ∈ Store.lone.entries.entries, '\n' ∉ e.1.toList := by decide +kernel
  obtain ⟨-, -, hconfined, hordinary⟩ :=
    removes_iff .project {} "p" { now := 0, store := .lone } rfl
  have hlone := (hordinary (List.all_eq_true.1 (by decide))).2 <| by
    rintro key entry rest hfind rfl
    have hkey := hkeys _ (Keyed.find?_eq_some_iff.1 hfind)
    rw [String.toList_append, List.mem_append, not_or] at hkey
    exact hkey.2
  exact ⟨_, rfl, rfl, hlone, hconfined.2 hlone⟩

/-- The state of a workflow with a bracket in its identifier, and of another. -/
def bracketed : Store :=
  (Store.empty.put "workflow:[ab]:state" ⟨.null, 1⟩).put "workflow:a:state" ⟨.null, 1⟩

/-- The identifier with a bracket takes the state of the other workflow, and leaves its own. -/
theorem removes_others :
    (∃ last, Operation.run {} (.clearWorkflow "[ab]") { now := 0, store := bracketed }
        = .ok (.count 1) last ∧
      last.store.entries.find? "workflow:[ab]:state" = some ⟨.null, 1⟩ ∧
      last.store.entries.find? "workflow:a:state" = none) ∧
    ¬ Sweep.workflow.Removes {} "[ab]" { now := 0, store := bracketed }
      (Sweep.workflow.Covers "[ab]") := by
  obtain ⟨n, last, hclear, rfl, hown, hother⟩ : ∃ n last,
      Workflow.clear "[ab]" { now := 0, store := bracketed } = .ok n last ∧ n = 1 ∧
      last.store.entries.find? "workflow:[ab]:state" = some ⟨.null, 1⟩ ∧
      last.store.entries.find? "workflow:a:state" = none := by decide +kernel
  have hrun := CacheM.map_of_ok hclear Answer.count
  refine ⟨⟨last, hrun, hown, hother⟩, ?_⟩
  rintro ⟨world', hrun', hgone⟩
  obtain ⟨-, rfl⟩ := EStateM.Result.ok.inj (hrun.symm.trans hrun')
  have hnone := (hgone "workflow:[ab]:state").1 (.inl ⟨"state", by decide⟩)
  rw [hown] at hnone
  cases hnone

end Sweep

end ProjectCache
