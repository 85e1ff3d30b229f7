/-
# ProjectCache.Proofs.Bus — every observer of an event runs once, and the first failure is told.

Of the calls that subscribe an observer to a name in one mode the first counts, with its flag, and the
others change nothing (`Bus.registered_subscribeAll`). What observers do is seen by noting each of them
beside its outcome (`Handlers.noting`), which changes nothing else. Sync observers take turns in the order
of their registrations, up to the first that crashes; async observers all run, in some order. Whether all
is well, and else the failure that is told, depends on the outcomes alone and not on the order
(`Bus.Tells`), and a dispatch is one after the other (`Bus.observers_run_once`).
-/
import Mathlib.Data.List.Induction
import Mathlib.Data.List.Nodup
import ProjectCache.Service

namespace ProjectCache

variable {H W : Type} {handlers : Handlers H W} {bus : Bus H} {event : Event}
  {rs : List (Registration H)} {runs : List (H × Outcome)}

/-! ## Subscribing -/

/-- An element at the end is kept if nothing before it is like it. -/
theorem eraseDupsBy_concat {α : Type} (like : α → α → Bool) (as : List α) (a : α) :
    (as ++ [a]).eraseDupsBy like
      = if (as.eraseDupsBy like).any (like a) then as.eraseDupsBy like
        else as.eraseDupsBy like ++ [a] := by
  have hloop : ∀ as seen, List.eraseDupsBy.loop like (as ++ [a]) seen
      = if (List.eraseDupsBy.loop like as seen).any (like a)
        then List.eraseDupsBy.loop like as seen
        else List.eraseDupsBy.loop like as seen ++ [a] := by
    intro as
    induction as with
    | nil =>
      intro seen
      cases hseen : seen.any (like a) <;> simp [List.eraseDupsBy.loop, hseen]
    | cons b as ih =>
      intro seen
      cases hseen : seen.any (like b) <;> simp [List.eraseDupsBy.loop, hseen, ih]
  exact hloop as []

/-- Something like each element is kept. -/
theorem any_eraseDupsBy {α : Type} {like : α → α → Bool} (hlike : ∀ a, like a a = true)
    {as : List α} {a : α} (ha : a ∈ as) : (as.eraseDupsBy like).any (like a) = true := by
  induction as using List.reverseRecOn with
  | nil => cases ha
  | append_singleton as b ih =>
    rw [eraseDupsBy_concat]
    rcases List.mem_append.1 ha with ha | ha
    · split
      · exact ih ha
      · rw [List.any_append, ih ha, Bool.true_or]
    · obtain rfl := List.mem_singleton.1 ha
      split
      · assumption
      · rw [List.any_append, List.any_cons, hlike, Bool.true_or, Bool.or_true]

theorem mem_of_mem_eraseDupsBy {α : Type} {like : α → α → Bool} {as : List α} {a : α}
    (ha : a ∈ as.eraseDupsBy like) : a ∈ as := by
  induction as using List.reverseRecOn with
  | nil => cases ha
  | append_singleton as b ih =>
    rw [eraseDupsBy_concat] at ha
    split at ha
    · exact List.mem_append_left _ (ih ha)
    · rcases List.mem_append.1 ha with ha | ha
      · exact List.mem_append_left _ (ih ha)
      · exact List.mem_append_right _ ha

namespace Bus

section Subscribing

variable [DecidableEq H]

/-- Subscribes observers one after the other. -/
def subscribeAll (bus : Bus H) (calls : List (Registration H)) : Bus H :=
  calls.foldl (fun bus r => bus.subscribe r.mode r.event r.handler r.isolated) bus

/-- Have two registrations the same observer? -/
def sameHandler (r s : Registration H) : Bool := r.handler = s.handler

theorem registered_subscribe (bus : Bus H) (r : Registration H) (mode : Mode) (name : String) :
    (bus.subscribe r.mode r.event r.handler r.isolated).registered mode name
      = if (r.mode = mode ∧ r.event = name) ∧ ¬ (bus.registered mode name).any (sameHandler r)
        then bus.registered mode name ++ [r] else bus.registered mode name := by
  have hsame : ∀ rs : List (Registration H),
      rs.any (fun s => s.handler = r.handler) = rs.any (sameHandler r) :=
    fun rs => congrArg rs.any (funext fun s => decide_eq_decide.2 eq_comm)
  have hother : ∀ bus' : Bus H, bus'.registrations = bus.registrations ++ [r] →
      bus'.registered mode name = if r.mode = mode ∧ r.event = name
        then bus.registered mode name ++ [r] else bus.registered mode name := by
    intro bus' h
    by_cases hname : r.mode = mode ∧ r.event = name <;> simp [registered, h, hname]
  unfold subscribe
  rw [hsame]
  by_cases hname : r.mode = mode ∧ r.event = name
  · obtain ⟨rfl, rfl⟩ := hname
    cases hknown : (bus.registered r.mode r.event).any (sameHandler r) with
    | true => simp
    | false => simpa using hother { bus with registrations := bus.registrations ++ [r] } rfl
  · cases (bus.registered r.mode r.event).any (sameHandler r) with
    | true => simp [hname]
    | false => simpa [hname] using hother { bus with registrations := bus.registrations ++ [r] } rfl

/-- The observers of a name are those of the calls, each with the first call for it. -/
theorem registered_subscribeAll (hnew : bus.registrations = []) (calls : List (Registration H))
    (mode : Mode) (name : String) :
    (bus.subscribeAll calls).registered mode name
      = (calls.filter fun r => r.mode = mode ∧ r.event = name).eraseDupsBy sameHandler := by
  -- by induction on the calls from the last one on, since a subscription looks at those before
  induction calls using List.reverseRecOn with
  | nil =>
    rw [subscribeAll, List.foldl_nil, registered, hnew]
    rfl
  | append_singleton calls r ih =>
    have hlast : bus.subscribeAll (calls ++ [r])
        = (bus.subscribeAll calls).subscribe r.mode r.event r.handler r.isolated := by
      rw [subscribeAll, List.foldl_append]
      rfl
    rw [hlast, registered_subscribe, ih, List.filter_append]
    by_cases hname : r.mode = mode ∧ r.event = name
    · simp only [List.filter_cons, List.filter_nil, hname, and_self, decide_true, if_true, true_and,
        eraseDupsBy_concat, ite_not]
    · simp only [List.filter_cons, List.filter_nil, hname, decide_false, if_neg Bool.false_ne_true,
        List.append_nil, false_and, if_false]

theorem mem_of_registered (hnew : bus.registrations = []) {calls : List (Registration H)}
    {mode : Mode} {name : String} {r : Registration H}
    (hr : r ∈ (bus.subscribeAll calls).registered mode name) : r ∈ calls ∧ r.mode = mode := by
  rw [registered_subscribeAll hnew] at hr
  obtain ⟨hmem, hname⟩ := List.mem_filter.1 (mem_of_mem_eraseDupsBy hr)
  exact ⟨hmem, (of_decide_eq_true hname).1⟩

/-- No observer is registered twice for a name. -/
theorem nodup_registered (hnew : bus.registrations = []) (calls : List (Registration H))
    (mode : Mode) (name : String) :
    (((bus.subscribeAll calls).registered mode name).map (·.handler)).Nodup := by
  rw [registered_subscribeAll hnew]
  generalize calls.filter _ = matching
  induction matching using List.reverseRecOn with
  | nil => exact List.nodup_nil
  | append_singleton matching r ih =>
    rw [eraseDupsBy_concat]
    split
    · exact ih
    · rename_i hknown
      rw [List.map_append, List.map_singleton, List.nodup_append]
      refine ⟨ih, List.pairwise_singleton _ _, ?_⟩
      rintro _ hmem _ hlast rfl
      obtain ⟨s, hs, hhandler⟩ := List.mem_map.1 hmem
      rw [List.mem_singleton] at hlast
      exact hknown (List.any_eq_true.2 ⟨s, hs, decide_eq_true (hlast.symm.trans hhandler.symm)⟩)

/-- The observer of each call is registered. -/
theorem exists_registered (hnew : bus.registrations = []) {calls : List (Registration H)}
    {r : Registration H} (hr : r ∈ calls) :
    ∃ s ∈ (bus.subscribeAll calls).registered r.mode r.event, s.handler = r.handler := by
  have hmem : r ∈ calls.filter fun s => s.mode = r.mode ∧ s.event = r.event :=
    List.mem_filter.2 ⟨hr, decide_eq_true ⟨rfl, rfl⟩⟩
  have hsame : ∀ s : Registration H, sameHandler s s = true := fun s => decide_eq_true rfl
  have hknown := any_eraseDupsBy hsame hmem
  rw [← registered_subscribeAll hnew, List.any_eq_true] at hknown
  obtain ⟨s, hs, hhandler⟩ := hknown
  exact ⟨s, hs, (of_decide_eq_true hhandler).symm⟩

/-- A call that has been made changes nothing when it is made again, with whatever flag. -/
theorem subscribe_again (hnew : bus.registrations = []) {calls : List (Registration H)}
    {r : Registration H} (hr : r ∈ calls) (isolated : Bool) :
    (bus.subscribeAll calls).subscribe r.mode r.event r.handler isolated
      = bus.subscribeAll calls := by
  obtain ⟨s, hs, hhandler⟩ := exists_registered hnew hr
  exact if_pos (List.any_eq_true.2 ⟨s, hs, decide_eq_true hhandler⟩)

end Subscribing

end Bus

/-! ## Runs of observers -/

theorem Outcome.isCrash_iff {outcome : Outcome} :
    outcome.isCrash = true ↔ ∃ report, outcome = .crashed report := by
  cases outcome <;> simp [isCrash]

/-- The same observers, whose runs are listed beside the state, each with its outcome. -/
def Handlers.noting (handlers : Handlers H W) : Handlers H (W × List (H × Outcome)) where
  perform h event noted :=
    let (outcome, state) := handlers.perform h event noted.1
    (outcome, state, noted.2 ++ [(h, outcome)])
  delay := handlers.delay
  log level text noted := (handlers.log level text noted.1, noted.2)
  wording := handlers.wording

theorem Handlers.noting_perform {h : H} {outcome : Outcome} {state middle : W}
    (hperform : handlers.perform h event state = (outcome, middle)) (past : List (H × Outcome)) :
    handlers.noting.perform h event (state, past) = (outcome, middle, past ++ [(h, outcome)]) := by
  simp only [noting, hperform]

namespace Bus

/-- Each outcome is one that the observer comes to. -/
def Performed (handlers : Handlers H W) (event : Event) (runs : List (H × Outcome)) : Prop :=
  ∀ run ∈ runs, ∃ state, (handlers.perform run.1 event state).1 = run.2

/-- The result tells of the failures that count: all is well if each observer whose failure counts is
done, and otherwise the failure is that of the earliest registration whose failure counts, in the words
of its observer's failure. -/
structure Tells (wording : Wording) (event : Event) (rs : List (Registration H))
    (runs : List (H × Outcome)) (result : Except Error Unit) : Prop where
  ok_iff : result = .ok () ↔ ∀ r ∈ rs, r.isolated = false → (r.handler, .done) ∈ runs
  error : ∀ e, result = .error e → ∃ before r after cause, rs = before ++ r :: after ∧
    (∀ s ∈ before, s.isolated = false → (s.handler, .done) ∈ runs) ∧
    r.isolated = false ∧ (r.handler, .failed cause) ∈ runs ∧
    e = .observer event.name (cause.message wording)

/-- Observers run in the order of their registrations. -/
inductive TookTurns (wording : Wording) (event : Event) (rs : List (Registration H))
    (runs : List (H × Outcome)) : Ending → Prop where
  /-- All have run, and none has crashed. -/
  | finished {result : Except Error Unit} (hruns : runs.map (·.1) = rs.map (·.handler))
      (hcrash : ∀ run ∈ runs, run.2.isCrash = false) (htells : Tells wording event rs runs result) :
      TookTurns wording event rs runs (.finished result)
  /-- Those after the first that crashed have not run. -/
  | crashed {before after : List (Registration H)} {r : Registration H} {ran : List (H × Outcome)}
      {report : String} (hrs : rs = before ++ r :: after)
      (hran : ran.map (·.1) = before.map (·.handler)) (hcrash : ∀ run ∈ ran, run.2.isCrash = false)
      (hruns : runs = ran ++ [(r.handler, .crashed report)]) :
      TookTurns wording event rs runs (.crashed report)

/-- All observers have run, in some order, and none has crashed. -/
structure RanTogether (wording : Wording) (event : Event) (rs : List (Registration H))
    (runs : List (H × Outcome)) (result : Except Error Unit) : Prop where
  ran : (runs.map (·.1)).Perm (rs.map (·.handler))
  crash : ∀ run ∈ runs, run.2.isCrash = false
  tells : Tells wording event rs runs result

/-! ## Running together -/

theorem insertByDelay_perm (handlers : Handlers H W) (r : Registration H)
    (rs : List (Registration H)) : (insertByDelay handlers r rs).Perm (r :: rs) := by
  induction rs with
  | nil => exact .refl _
  | cons s rs ih =>
    unfold insertByDelay
    split
    · exact .refl _
    · exact (ih.cons s).trans (.swap r s rs)

/-- The order in which observers finish has each of them once. -/
theorem byDelay_perm (handlers : Handlers H W) (rs : List (Registration H)) :
    (byDelay handlers rs).Perm rs := by
  have hfold : ∀ sorted, (rs.foldl (fun acc r => insertByDelay handlers r acc) sorted).Perm
      (rs ++ sorted) := by
    induction rs with
    | nil => exact fun sorted => .refl _
    | cons r rs ih =>
      intro sorted
      refine (ih _).trans (((insertByDelay_perm handlers r sorted).append_left rs).trans ?_)
      exact List.perm_middle
  simpa [byDelay] using hfold []

theorem byDelay_noting (handlers : Handlers H W) (rs : List (Registration H)) :
    byDelay handlers.noting rs = byDelay handlers rs := by
  have hinsert : ∀ r rs, insertByDelay handlers.noting r rs = insertByDelay handlers r rs := by
    intro r rs
    induction rs with
    | nil => rfl
    | cons s rs ih =>
      rw [insertByDelay, insertByDelay, ih]
      rfl
  unfold byDelay
  simp only [hinsert]

/-- An observer that does not crash runs before the others. -/
theorem runTogether_cons {r : Registration H} {state middle : W} {outcome : Outcome}
    (hperform : handlers.perform r.handler event state = (outcome, middle))
    (houtcome : outcome.isCrash = false) :
    runTogether handlers event (r :: rs) state
      = ((runTogether handlers event rs middle).1.map ((r.handler, outcome) :: ·),
        (runTogether handlers event rs middle).2) := by
  rw [runTogether, hperform]
  cases outcome with
  | crashed => cases houtcome
  | _ =>
    obtain ⟨ran, reached, hran⟩ : ∃ ran reached,
        runTogether handlers event rs middle = (ran, reached) := ⟨_, _, rfl⟩
    cases ran <;> simp only [hran] <;> rfl

/-- Observers that do not crash all run. -/
theorem runTogether_noting
    (hcrash : ∀ r ∈ rs, ∀ state, (handlers.perform r.handler event state).1.isCrash = false)
    (state : W) (past : List (H × Outcome)) : ∃ runs reached,
      runTogether handlers event rs state = (.ok runs, reached) ∧
      runTogether handlers.noting event rs (state, past) = (.ok runs, reached, past ++ runs) ∧
      Performed handlers event runs ∧ runs.map (·.1) = rs.map (·.handler) ∧
      ∀ run ∈ runs, run.2.isCrash = false := by
  induction rs generalizing state past with
  | nil => exact ⟨[], state, rfl, by rw [List.append_nil]; rfl, nofun, rfl, nofun⟩
  | cons r rs ih =>
    obtain ⟨outcome, middle, hperform⟩ : ∃ outcome middle,
        handlers.perform r.handler event state = (outcome, middle) := ⟨_, _, rfl⟩
    have hnoted := Handlers.noting_perform hperform past
    have houtcome : outcome.isCrash = false := by
      have hr := hcrash r (.head _) state
      rwa [hperform] at hr
    obtain ⟨runs, reached, hplain, hnoting, hperformed, hruns, hcrashes⟩ :=
      ih (fun s hs => hcrash s (.tail _ hs)) middle (past ++ [(r.handler, outcome)])
    refine ⟨(r.handler, outcome) :: runs, reached, ?_, ?_, ?_, ?_, ?_⟩
    · cases outcome with
      | crashed => cases houtcome
      | _ => simp only [runTogether, hperform, hplain]
    · rw [List.append_assoc, List.singleton_append] at hnoting
      cases outcome with
      | crashed => cases houtcome
      | _ => simp only [runTogether, hnoted, hnoting]
    · exact List.forall_mem_cons.2 ⟨⟨state, by rw [hperform]⟩, hperformed⟩
    · rw [List.map_cons, List.map_cons, hruns]
    · exact List.forall_mem_cons.2 ⟨houtcome, hcrashes⟩

/-- Observers of which none ever crashes are finished. -/
theorem TookTurns.finished_of_performed {wording : Wording} {ending : Ending}
    (h : TookTurns wording event rs runs ending)
    (hperformed : Performed handlers event runs)
    (hcrash : ∀ r ∈ rs, ∀ state, (handlers.perform r.handler event state).1.isCrash = false) :
    ∃ result, ending = .finished result := by
  cases h with
  | finished => exact ⟨_, rfl⟩
  | @crashed before after r ran report hrs _ _ hruns =>
    obtain ⟨state, hstate⟩ := hperformed (r.handler, .crashed report) (by rw [hruns]; simp)
    have hr := hcrash r (by rw [hrs]; simp) state
    rw [hstate] at hr
    cases hr

/-! ## The first failure -/

/-- The failure that counts when a registration's observer ends like this. -/
def failure? (wording : Wording) (event : Event) (r : Registration H) : Outcome → Option Error
  | .failed cause => if r.isolated then none else some (.observer event.name (cause.message wording))
  | _ => none

theorem failure?_eq_some {wording : Wording} {r : Registration H} {outcome : Outcome} {e : Error}
    (h : failure? wording event r outcome = some e) : r.isolated = false ∧
      ∃ cause, outcome = .failed cause ∧ e = .observer event.name (cause.message wording) := by
  cases outcome with
  | failed cause =>
    cases hisolated : r.isolated with
    | true => simp [failure?, hisolated] at h
    | false =>
      rw [failure?, hisolated, if_neg Bool.false_ne_true] at h
      exact ⟨rfl, cause, rfl, (Option.some.inj h).symm⟩
  | _ => cases h

theorem noteFailure_fst (handlers : Handlers H W) (event : Event) (r : Registration H)
    (cause : Error) (first : Option Error) (state : W) :
    (noteFailure handlers event r cause first state).1
      = (first <|> failure? handlers.wording event r (.failed cause)) := by
  unfold noteFailure failure?
  cases r.isolated <;> cases first <;> rfl

/-- Noting changes nothing but the list of runs. -/
theorem noteFailure_noting (handlers : Handlers H W) (event : Event) (r : Registration H)
    (cause : Error) (first : Option Error) (state : W) (past : List (H × Outcome)) :
    noteFailure handlers.noting event r cause first (state, past)
      = ((noteFailure handlers event r cause first state).1,
        (noteFailure handlers event r cause first state).2, past) := by
  unfold noteFailure
  cases r.isolated <;> rfl

variable [DecidableEq H]

/-- The first failure that counts, in the order of registrations. -/
def firstFailure (wording : Wording) (event : Event) (runs : List (H × Outcome))
    (rs : List (Registration H)) : Option Error :=
  rs.findSome? fun r => failure? wording event r (outcomeOf runs r.handler)

theorem mem_outcomeOf {h : H} (hh : h ∈ runs.map (·.1)) : (h, outcomeOf runs h) ∈ runs := by
  obtain ⟨run, hrun, rfl⟩ := List.mem_map.1 hh
  have hsome : (runs.find? fun o => o.1 = run.1).isSome :=
    List.find?_isSome.2 ⟨run, hrun, decide_eq_true rfl⟩
  obtain ⟨found, hfound⟩ := Option.isSome_iff_exists.1 hsome
  have hhandler : found.1 = run.1 := by simpa using List.find?_some hfound
  rw [outcomeOf, hfound, Option.map_some, Option.getD_some, ← hhandler]
  exact List.mem_of_find?_eq_some hfound

/-- An observer that has run once has one outcome. -/
theorem outcomeOf_of_mem (hnodup : (runs.map (·.1)).Nodup) {h : H} {outcome : Outcome}
    (hmem : (h, outcome) ∈ runs) : outcomeOf runs h = outcome := by
  have hother := mem_outcomeOf (List.mem_map.2 ⟨_, hmem, rfl⟩)
  exact congrArg Prod.snd (List.inj_on_of_nodup_map hnodup hother hmem rfl)

/-- The first failure that counts is what the result of observers without crashes tells. -/
theorem tells_firstFailure (wording : Wording) (hnodup : (rs.map (·.handler)).Nodup)
    (hruns : (runs.map (·.1)).Perm (rs.map (·.handler))) (hcrash : ∀ run ∈ runs, run.2.isCrash = false) :
    Tells wording event rs runs (resultOf (firstFailure wording event runs rs)) := by
  have hmem : ∀ r ∈ rs, (r.handler, outcomeOf runs r.handler) ∈ runs :=
    fun r hr => mem_outcomeOf (hruns.mem_iff.2 (List.mem_map_of_mem hr))
  have hdone : ∀ r ∈ rs, failure? wording event r (outcomeOf runs r.handler) = none ↔
      (r.isolated = false → (r.handler, .done) ∈ runs) := by
    intro r hr
    have hrun := hmem r hr
    cases houtcome : outcomeOf runs r.handler with
    | done => simp [failure?, houtcome ▸ hrun]
    | failed cause =>
      have hnot : (r.handler, Outcome.done) ∉ runs := by
        intro h
        rw [outcomeOf_of_mem (hruns.nodup_iff.2 hnodup) h] at houtcome
        cases houtcome
      cases hisolated : r.isolated <;> simp [failure?, hisolated, hnot]
    | crashed =>
      have hcrashed := hcrash _ hrun
      rw [houtcome] at hcrashed
      cases hcrashed
  unfold firstFailure
  constructor
  · have hnone : (rs.findSome? fun r => failure? wording event r (outcomeOf runs r.handler)) = none ↔
        ∀ r ∈ rs, r.isolated = false → (r.handler, Outcome.done) ∈ runs := by
      rw [List.findSome?_eq_none_iff]
      exact forall₂_congr hdone
    rw [← hnone]
    generalize rs.findSome? _ = first
    cases first <;> simp [resultOf]
  · intro e he
    generalize hfirst : rs.findSome? _ = first at he
    cases first with
    | none => cases he
    | some first =>
      obtain rfl : first = e := Except.error.inj he
      obtain ⟨before, r, after, hrs, hfailure, hbefore⟩ := List.findSome?_eq_some_iff.1 hfirst
      obtain ⟨hisolated, cause, houtcome, rfl⟩ := failure?_eq_some hfailure
      have hr : r ∈ rs := hrs ▸ List.mem_append_right _ (.head _)
      refine ⟨before, r, after, cause, hrs, ?_, hisolated, houtcome ▸ hmem r hr, rfl⟩
      exact fun s hs => (hdone s (hrs ▸ List.mem_append_left _ hs)).1 (hbefore s hs)

theorem firstFailure_cons (wording : Wording) (event : Event) (runs : List (H × Outcome))
    (r : Registration H) (rs : List (Registration H)) : firstFailure wording event runs (r :: rs)
      = (failure? wording event r (outcomeOf runs r.handler) <|> firstFailure wording event runs rs) := by
  rw [firstFailure, List.findSome?_cons]
  cases failure? wording event r (outcomeOf runs r.handler) <;> rfl

/-- An observer that has run first does not bear on the failures of the others. -/
theorem firstFailure_cons_cons {wording : Wording} {r : Registration H}
    (hnodup : ((r :: rs).map (·.handler)).Nodup) (outcome : Outcome)
    (runs : List (H × Outcome)) :
    firstFailure wording event ((r.handler, outcome) :: runs) (r :: rs)
      = (failure? wording event r outcome <|> firstFailure wording event runs rs) := by
  have hr : outcomeOf ((r.handler, outcome) :: runs) r.handler = outcome := by
    simp [outcomeOf]
  have hothers : ∀ s ∈ rs, outcomeOf ((r.handler, outcome) :: runs) s.handler
      = outcomeOf runs s.handler := by
    intro s hs
    have hne : r.handler ≠ s.handler :=
      fun heq => (List.nodup_cons.1 hnodup).1 (List.mem_map.2 ⟨s, hs, heq.symm⟩)
    simp [outcomeOf, hne]
  have hrest : firstFailure wording event ((r.handler, outcome) :: runs) rs
      = firstFailure wording event runs rs := by
    rw [firstFailure, firstFailure, ← List.head?_filterMap, ← List.head?_filterMap]
    congr 1
    exact List.filterMap_congr fun s hs => congrArg (failure? wording event s) (hothers s hs)
  rw [firstFailure_cons, hr, hrest]

/-! ## Taking turns -/

/-- What it comes to when observers take turns: with these runs, to this end, in this state. -/
structure Turns (handlers : Handlers H W) (event : Event) (rs : List (Registration H))
    (first : Option Error) (state : W) (past runs : List (H × Outcome)) (ending : Ending)
    (reached : W) : Prop where
  plain : runInTurn handlers event rs first state = (ending, reached)
  noted : runInTurn handlers.noting event rs first (state, past) = (ending, reached, past ++ runs)
  performed : Performed handlers event runs
  took : (runs.map (·.1) = rs.map (·.handler) ∧ (∀ run ∈ runs, run.2.isCrash = false) ∧
      ending = .finished (resultOf (first <|> firstFailure handlers.wording event runs rs))) ∨
    ∃ report, ending = .crashed report ∧ TookTurns handlers.wording event rs runs (.crashed report)

/-- An observer that does not crash is followed by the others. -/
theorem Turns.cons {r : Registration H} {outcome : Outcome} {first next : Option Error}
    {state middle reached : W} {past : List (H × Outcome)} {ending : Ending}
    (h : Turns handlers event rs next middle (past ++ [(r.handler, outcome)]) runs ending reached)
    (hnodup : ((r :: rs).map (·.handler)).Nodup) (hcrash : outcome.isCrash = false)
    (hnext : next = (first <|> failure? handlers.wording event r outcome))
    (hperformed : ∃ state, (handlers.perform r.handler event state).1 = outcome)
    (hplain : runInTurn handlers event (r :: rs) first state
      = runInTurn handlers event rs next middle)
    (hnoted : runInTurn handlers.noting event (r :: rs) first (state, past)
      = runInTurn handlers.noting event rs next (middle, past ++ [(r.handler, outcome)])) :
    Turns handlers event (r :: rs) first state past ((r.handler, outcome) :: runs) ending reached where
  plain := hplain.trans h.plain
  noted := by rw [hnoted, h.noted, List.append_assoc, List.singleton_append]
  performed := List.forall_mem_cons.2 ⟨hperformed, h.performed⟩
  took := by
    rcases h.took with ⟨hruns, hcrashes, hending⟩ | ⟨report, hending, htook⟩
    · refine .inl ⟨by rw [List.map_cons, List.map_cons, hruns],
        List.forall_mem_cons.2 ⟨hcrash, hcrashes⟩, ?_⟩
      rw [hending, hnext, firstFailure_cons_cons hnodup]
      cases first <;> rfl
    · cases htook with
      | @crashed before after s ran _ hrs hran hcrashes hruns =>
        have hran' : ((r.handler, outcome) :: ran).map (·.1) = (r :: before).map (·.handler) := by
          rw [List.map_cons, List.map_cons, hran]
        exact .inr ⟨report, hending, .crashed (by rw [hrs]; rfl) hran'
          (List.forall_mem_cons.2 ⟨hcrash, hcrashes⟩) (by rw [hruns]; rfl)⟩

/-- Observers take turns until one crashes. -/
theorem exists_turns (hnodup : (rs.map (·.handler)).Nodup) (first : Option Error) (state : W)
    (past : List (H × Outcome)) :
    ∃ runs ending reached, Turns handlers event rs first state past runs ending reached := by
  -- by induction on the registrations; what was noted of the earlier ones is carried along
  induction rs generalizing first state past with
  | nil =>
    refine ⟨[], _, state, rfl, ?_, nofun, .inl ⟨rfl, nofun, ?_⟩⟩
    · rw [List.append_nil]
      rfl
    · cases first <;> rfl
  | cons r rs ih =>
    have hrest := (List.nodup_cons.1 hnodup).2
    obtain ⟨outcome, middle, hperform⟩ : ∃ outcome middle,
        handlers.perform r.handler event state = (outcome, middle) := ⟨_, _, rfl⟩
    have hnoted := Handlers.noting_perform hperform past
    have hperformed : ∃ state, (handlers.perform r.handler event state).1 = outcome :=
      ⟨state, by rw [hperform]⟩
    cases outcome with
    | done =>
      obtain ⟨runs, ending, reached, h⟩ := ih hrest first middle (past ++ [(r.handler, .done)])
      refine ⟨_, ending, reached, h.cons hnodup rfl ?_ hperformed ?_ ?_⟩
      · cases first <;> rfl
      · rw [runInTurn, hperform]
      · rw [runInTurn, hnoted]
    | failed cause =>
      obtain ⟨runs, ending, reached, h⟩ := ih hrest
        (noteFailure handlers event r cause first middle).1
        (noteFailure handlers event r cause first middle).2 (past ++ [(r.handler, .failed cause)])
      refine ⟨_, ending, reached, h.cons hnodup rfl ?_ hperformed ?_ ?_⟩
      · exact noteFailure_fst handlers event r cause first middle
      · rw [runInTurn, hperform]
      · rw [runInTurn, hnoted]
        simp only [noteFailure_noting]
    | crashed report =>
      refine ⟨[(r.handler, .crashed report)], .crashed report, middle, ?_, ?_, ?_, ?_⟩
      · rw [runInTurn, hperform]
      · rw [runInTurn, hnoted]
      · exact List.forall_mem_cons.2 ⟨hperformed, nofun⟩
      · have hran : ([] : List (H × Outcome)).map (·.1) = ([] : List (Registration H)).map (·.handler) :=
          rfl
        exact .inr ⟨report, rfl, .crashed rfl hran nofun rfl⟩

/-! ## Settling -/

/-- The first failure that counts is settled on. -/
theorem settle_fst (handlers : Handlers H W) (event : Event) (runs : List (H × Outcome))
    (rs : List (Registration H)) (first : Option Error) (state : W) :
    (settle handlers event runs rs first state).1
      = resultOf (first <|> firstFailure handlers.wording event runs rs) := by
  induction rs generalizing first state with
  | nil => cases first <;> rfl
  | cons r rs ih =>
    rw [firstFailure_cons, settle]
    cases outcomeOf runs r.handler with
    | failed cause =>
      simp only [ih, noteFailure_fst]
      cases first <;> rfl
    | _ => exact ih first state

theorem settle_noting (handlers : Handlers H W) (event : Event) (runs : List (H × Outcome))
    (rs : List (Registration H)) (first : Option Error) (state : W) (past : List (H × Outcome)) :
    settle handlers.noting event runs rs first (state, past)
      = ((settle handlers event runs rs first state).1,
        (settle handlers event runs rs first state).2, past) := by
  induction rs generalizing first state with
  | nil => rfl
  | cons r rs ih =>
    rw [settle, settle]
    cases outcomeOf runs r.handler with
    | failed cause => simp only [noteFailure_noting, ih]
    | _ => exact ih first state

/-! ## Dispatching -/

/-- The observers of an event run together and settle on a result. -/
theorem notifyAsync_noting
    (hnodup : ((bus.registered .async event.name).map (·.handler)).Nodup)
    (hcrash : ∀ r ∈ bus.registered .async event.name, ∀ state,
      (handlers.perform r.handler event state).1.isCrash = false)
    (state : W) (past : List (H × Outcome)) : ∃ runs result reached,
      bus.notifyAsync handlers event state = (.finished result, reached) ∧
      bus.notifyAsync handlers.noting event (state, past)
        = (.finished result, reached, past ++ runs) ∧
      Performed handlers event runs ∧
      RanTogether handlers.wording event (bus.registered .async event.name) runs result := by
  have hperm := byDelay_perm handlers (bus.registered .async event.name)
  obtain ⟨runs, middle, hplain, hnoted, hperformed, hruns, hcrashes⟩ := runTogether_noting
    (fun r hr => hcrash r (hperm.mem_iff.1 hr)) state past
  have hran : (runs.map (·.1)).Perm ((bus.registered .async event.name).map (·.handler)) :=
    hruns ▸ hperm.map _
  obtain ⟨result, reached, hsettle⟩ : ∃ result reached,
      settle handlers event runs (bus.registered .async event.name) none middle
        = (result, reached) := ⟨_, _, rfl⟩
  have hresult := settle_fst handlers event runs (bus.registered .async event.name) none middle
  rw [hsettle] at hresult
  obtain rfl : result = resultOf (firstFailure handlers.wording event runs
      (bus.registered .async event.name)) := hresult
  refine ⟨runs, _, reached, ?_, ?_, hperformed, hran, hcrashes,
    tells_firstFailure handlers.wording hnodup hran hcrashes⟩
  · simp only [notifyAsync, hplain, hsettle]
  · simp only [notifyAsync, byDelay_noting, hnoted, settle_noting, hsettle]

theorem Turns.tookTurns {state reached : W} {past : List (H × Outcome)} {ending : Ending}
    (h : Turns handlers event rs none state past runs ending reached)
    (hnodup : (rs.map (·.handler)).Nodup) : TookTurns handlers.wording event rs runs ending := by
  rcases h.took with ⟨hruns, hcrash, rfl⟩ | ⟨report, rfl, htook⟩
  · exact .finished hruns hcrash (tells_firstFailure handlers.wording hnodup (.of_eq hruns) hcrash)
  · exact htook

/-- A dispatch has the sync observers take turns and then, however that ends, the async ones run
together. -/
theorem dispatch_noting
    (hsync : ((bus.registered .sync event.name).map (·.handler)).Nodup)
    (hasync : ((bus.registered .async event.name).map (·.handler)).Nodup)
    (hcrash : ∀ r ∈ bus.registered .async event.name, ∀ state,
      (handlers.perform r.handler event state).1.isCrash = false)
    (state : W) (past : List (H × Outcome)) : ∃ turns together ending result reached,
      bus.dispatch handlers event state
        = (.finished (syncResult ending >>= fun _ => result), reached) ∧
      bus.dispatch handlers.noting event (state, past)
        = (.finished (syncResult ending >>= fun _ => result), reached, past ++ (turns ++ together)) ∧
      Performed handlers event (turns ++ together) ∧
      TookTurns handlers.wording event (bus.registered .sync event.name) turns ending ∧
      RanTogether handlers.wording event (bus.registered .async event.name) together result := by
  obtain ⟨turns, ending, middle, hturns⟩ : ∃ turns ending middle,
      Turns handlers event (bus.registered .sync event.name) none state past turns ending middle :=
    exists_turns hsync none state past
  obtain ⟨together, result, reached, hplain, hnoted, hperformed, hran⟩ :=
    notifyAsync_noting hasync hcrash middle (past ++ turns)
  have hnotify := hturns.plain
  have hnotifyNoted := hturns.noted
  rw [List.append_assoc] at hnoted
  refine ⟨turns, together, ending, result, reached, ?_, ?_, ?_, hturns.tookTurns hsync, hran⟩
  · simp only [dispatch, notify, hnotify, hplain]
    cases syncResult ending <;> rfl
  · simp only [dispatch, notify, hnotifyNoted, hnoted]
    cases syncResult ending <;> rfl
  · exact fun run hrun => (List.mem_append.1 hrun).elim (hturns.performed run) (hperformed run)

/-- After any calls that subscribe observers on a new bus, the observers of an event are those of the
first call for each, and calling again changes nothing. The sync ones take turns in this order, each of
the async ones runs once beside the others, and a dispatch is the one after the other, however the first
ends. The result tells of the earliest failure that counts, and of the failure or crash of a sync
observer before that of an async one. -/
theorem observers_run_once (handlers : Handlers H W) (hnew : bus.registrations = [])
    (calls : List (Registration H)) (event : Event) (state : W)
    (hasync : ∀ r ∈ calls, r.mode = .async → ∀ state,
      (handlers.perform r.handler event state).1.isCrash = false) :
    (∀ mode, ((bus.subscribeAll calls).registered mode event.name
          = (calls.filter fun r => r.mode = mode ∧ r.event = event.name).eraseDupsBy sameHandler) ∧
        (((bus.subscribeAll calls).registered mode event.name).map (·.handler)).Nodup) ∧
    (∀ r ∈ calls, ∀ isolated, (bus.subscribeAll calls).subscribe r.mode r.event r.handler isolated
      = bus.subscribeAll calls) ∧
    (∃ runs ending reached,
      (bus.subscribeAll calls).notify handlers event state = (ending, reached) ∧
      (bus.subscribeAll calls).notify handlers.noting event (state, []) = (ending, reached, runs) ∧
      Performed handlers event runs ∧
      TookTurns handlers.wording event ((bus.subscribeAll calls).registered .sync event.name) runs ending ∧
      ((∀ r ∈ calls, r.mode = .sync → ∀ state,
        (handlers.perform r.handler event state).1.isCrash = false) →
          ∃ result, ending = .finished result)) ∧
    (∃ runs result reached,
      (bus.subscribeAll calls).notifyAsync handlers event state = (.finished result, reached) ∧
      (bus.subscribeAll calls).notifyAsync handlers.noting event (state, [])
        = (.finished result, reached, runs) ∧
      Performed handlers event runs ∧
      RanTogether handlers.wording event ((bus.subscribeAll calls).registered .async event.name) runs
        result) ∧
    ∃ turns together ending result reached,
      (bus.subscribeAll calls).dispatch handlers event state
        = (.finished (syncResult ending >>= fun _ => result), reached) ∧
      (bus.subscribeAll calls).dispatch handlers.noting event (state, [])
        = (.finished (syncResult ending >>= fun _ => result), reached, turns ++ together) ∧
      Performed handlers event (turns ++ together) ∧
      TookTurns handlers.wording event ((bus.subscribeAll calls).registered .sync event.name) turns ending ∧
      RanTogether handlers.wording event ((bus.subscribeAll calls).registered .async event.name)
        together result := by
  have hnodup := fun mode => nodup_registered hnew calls mode event.name
  have hcalls : ∀ mode, (∀ r ∈ calls, r.mode = mode → ∀ state,
      (handlers.perform r.handler event state).1.isCrash = false) →
      ∀ r ∈ (bus.subscribeAll calls).registered mode event.name, ∀ state,
        (handlers.perform r.handler event state).1.isCrash = false := by
    intro mode h r hr
    obtain ⟨hmem, hmode⟩ := mem_of_registered hnew hr
    exact h r hmem hmode
  refine ⟨fun mode => ⟨registered_subscribeAll hnew calls mode event.name, hnodup mode⟩,
    fun r hr => subscribe_again hnew hr, ?_, ?_, ?_⟩
  · obtain ⟨runs, ending, reached, h⟩ : ∃ runs ending reached, Turns handlers event
        ((bus.subscribeAll calls).registered .sync event.name) none state [] runs ending reached :=
      exists_turns (hnodup .sync) none state []
    have htook := h.tookTurns (hnodup .sync)
    exact ⟨runs, ending, reached, h.plain, h.noted, h.performed, htook,
      fun hsync => htook.finished_of_performed h.performed (hcalls .sync hsync)⟩
  · exact notifyAsync_noting (hnodup .async) (hcalls .async hasync) state []
  · exact dispatch_noting (hnodup .sync) (hnodup .async) (hcalls .async hasync) state []

/-- Calls that subscribe the same observers to two names. The first sync one fails in one place and
crashes in the other, and there are two calls for it, with different flags. -/
def mixed : List (Registration Observer) :=
  [⟨.sync, "e", .probe "a" .sync (.fail (.settings "no table")), false⟩,
    ⟨.sync, "e", .probe "b" .sync .succeed, false⟩,
    ⟨.sync, "e", .probe "a" .sync (.fail (.settings "no table")), true⟩,
    ⟨.async, "e", .probe "d" .async .linger, false⟩,
    ⟨.sync, "f", .probe "c" .sync (.crash "task panicked"), true⟩,
    ⟨.sync, "f", .probe "b" .sync .succeed, false⟩,
    ⟨.async, "f", .probe "d" .async .linger, false⟩]

/-- An event of a name. -/
def mixedEvent (name : String) : Event :=
  { id := .zero, name, payload := ∅, occurredAt := .epoch }

/-- The observers, and a wording that does not matter for their failures. -/
def mixedHandlers : Handlers Observer World :=
  Observer.handlers { pattern := fun _ => "" } .default {}

/-- Under the first name all observers run and the text of the failure is told, since the first call for
its observer counts, which is not isolated. Under the second name the crash is told: of the sync observers
none runs after it, but the async one does. -/
theorem observers_run_once_of_mixed :
    ({} : Bus Observer).registrations = [] ∧
    (∀ name, ∀ r ∈ mixed, r.mode = .async → ∀ state,
      (mixedHandlers.perform r.handler (mixedEvent name) state).1.isCrash = false) ∧
    (∃ turns together ending result reached,
      (subscribeAll {} mixed).dispatch mixedHandlers.noting (mixedEvent "e") ({ now := 0 }, [])
        = (.finished (.error (.observer "e" "Settings error: no table")), reached,
          turns ++ together) ∧
      turns ++ together
        = [(.probe "a" .sync (.fail (.settings "no table")), .failed (.settings "no table")),
          (.probe "b" .sync .succeed, .done), (.probe "d" .async .linger, .done)] ∧
      TookTurns mixedHandlers.wording (mixedEvent "e")
        ((subscribeAll {} mixed).registered .sync "e") turns ending ∧
      RanTogether mixedHandlers.wording (mixedEvent "e")
        ((subscribeAll {} mixed).registered .async "e") together result) ∧
    ∃ turns together ending result reached,
      (subscribeAll {} mixed).dispatch mixedHandlers.noting (mixedEvent "f") ({ now := 0 }, [])
        = (.finished (.error (.runtime "task panicked")), reached, turns ++ together) ∧
      turns ++ together
        = [(.probe "c" .sync (.crash "task panicked"), .crashed "task panicked"),
          (.probe "d" .async .linger, .done)] ∧
      TookTurns mixedHandlers.wording (mixedEvent "f")
        ((subscribeAll {} mixed).registered .sync "f") turns ending ∧
      RanTogether mixedHandlers.wording (mixedEvent "f")
        ((subscribeAll {} mixed).registered .async "f") together result := by
  have hasync : ∀ name, ∀ r ∈ mixed, r.mode = .async → ∀ state,
      (mixedHandlers.perform r.handler (mixedEvent name) state).1.isCrash = false := by
    intro name r hr hmode state
    simp only [mixed, List.mem_cons, List.not_mem_nil, or_false] at hr
    rcases hr with rfl | rfl | rfl | rfl | rfl | rfl | rfl
    · cases hmode
    · cases hmode
    · cases hmode
    · rfl
    · cases hmode
    · cases hmode
    · rfl
  have hnew : ({} : Bus Observer).registrations = [] := rfl
  have hdispatch : ∀ name result runs,
      ((subscribeAll {} mixed).dispatch mixedHandlers.noting (mixedEvent name) ({ now := 0 }, [])).1
        = .finished result →
      ((subscribeAll {} mixed).dispatch mixedHandlers.noting (mixedEvent name) ({ now := 0 }, [])).2.2
        = runs →
      ∃ turns together ending asyncResult reached,
        (subscribeAll {} mixed).dispatch mixedHandlers.noting (mixedEvent name) ({ now := 0 }, [])
          = (.finished result, reached, turns ++ together) ∧
        turns ++ together = runs ∧
        TookTurns mixedHandlers.wording (mixedEvent name)
          ((subscribeAll {} mixed).registered .sync name) turns ending ∧
        RanTogether mixedHandlers.wording (mixedEvent name)
          ((subscribeAll {} mixed).registered .async name) together asyncResult := by
    intro name result runs hresult hruns
    obtain ⟨-, -, -, -, turns, together, ending, asyncResult, reached, -, hnoted, -, hturns, hran⟩ :=
      observers_run_once mixedHandlers hnew mixed (mixedEvent name) { now := 0 } (hasync name)
    rw [hnoted] at hresult hruns
    exact ⟨turns, together, ending, asyncResult, reached, hresult ▸ hnoted, hruns, hturns, hran⟩
  exact ⟨hnew, hasync, hdispatch "e" _ _ rfl (by decide +kernel),
    hdispatch "f" _ _ rfl (by decide +kernel)⟩

end Bus

end ProjectCache
