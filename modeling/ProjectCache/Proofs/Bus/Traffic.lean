/-
# ProjectCache.Proofs.Bus.Traffic — dispatches that run at the same time.

Published events wait until the scheduler begins their dispatches, which then run beside each other. A
dispatch goes through stages: its sync observers take turns, then its async observers act in any order,
then the failures are settled (`Bus.Stage`, `Bus.Stage.Step`). One observer that runs is one step, and the
steps of different dispatches may alternate in any way (`Bus.Traffic.Move`).

A shutdown closes the bus and returns when nothing waits and every dispatch is over, which it comes to
however the moves are chosen (`Bus.Traffic.settles`). The bus itself dispatches one event after the other,
which is one of the ways to choose them (`Bus.Traffic.moves_drain`).
-/
import Mathlib.Algebra.Ring.Nat
import Mathlib.Logic.Relation
import ProjectCache.Proofs.Bus

namespace ProjectCache

namespace Bus

variable {H W : Type} [DecidableEq H]

/-! ## Dispatches -/

/-- How far the dispatch of an event has come. -/
inductive Stage (H : Type) where
  /-- These sync observers still take their turns. The first failure that counts is known. -/
  | turns (rest : List (Registration H)) (first : Option Error)
  /-- The sync observers have come to a result. These async observers still act; the others have ended
  like this. -/
  | together (sync : Except Error Unit) (rest : List (Registration H)) (outcomes : List (H × Outcome))
  /-- The dispatch is over. -/
  | ended

/-- Nobody waits for a published event: what comes of it can only be logged. -/
def reportPublished (handlers : Handlers H W) (result : Except Error Unit) (state : W) : W :=
  match result with
  | .ok () => state
  | .error _ => handlers.log .error "Event dispatch failed" state

/-- A step of the dispatch of an event that has these async observers, with the observer that runs in
it. -/
inductive Stage.Step (handlers : Handlers H W) (event : Event) (asyncs : List (Registration H)) :
    Stage H → W → Option (Registration H) → Stage H → W → Prop where
  /-- The next sync observer succeeds. -/
  | done {r : Registration H} {rest : List (Registration H)} {first : Option Error}
      {state reached : W} (hperform : handlers.perform r.handler event state = (.done, reached)) :
      Step handlers event asyncs (.turns (r :: rest) first) state (some r) (.turns rest first) reached
  /-- The next sync observer fails. -/
  | failed {r : Registration H} {rest : List (Registration H)} {first first' : Option Error}
      {cause : Error} {state middle reached : W}
      (hperform : handlers.perform r.handler event state = (.failed cause, middle))
      (hnote : noteFailure handlers event r cause first middle = (first', reached)) :
      Step handlers event asyncs (.turns (r :: rest) first) state (some r) (.turns rest first') reached
  /-- The next sync observer crashes, and those behind it do not run. -/
  | crashed {r : Registration H} {rest : List (Registration H)} {first : Option Error}
      {report : String} {state reached : W}
      (hperform : handlers.perform r.handler event state = (.crashed report, reached)) :
      Step handlers event asyncs (.turns (r :: rest) first) state (some r)
        (.together (syncResult (.crashed report)) asyncs []) reached
  /-- All sync observers have run, and the async ones start together. -/
  | gather {first : Option Error} {state : W} :
      Step handlers event asyncs (.turns [] first) state none
        (.together (resultOf first) asyncs []) state
  /-- Any of the async observers acts. -/
  | act {r : Registration H} {rest others : List (Registration H)} {sync : Except Error Unit}
      {outcomes : List (H × Outcome)} {outcome : Outcome} {state reached : W}
      (hrest : rest.Perm (r :: others))
      (hperform : handlers.perform r.handler event state = (outcome, reached))
      (houtcome : outcome.isCrash = false) :
      Step handlers event asyncs (.together sync rest outcomes) state (some r)
        (.together sync others (outcomes ++ [(r.handler, outcome)])) reached
  /-- An async observer crashes, and its dispatch with it. -/
  | lost {r : Registration H} {rest : List (Registration H)} {sync : Except Error Unit}
      {outcomes : List (H × Outcome)} {report : String} {state reached : W} (hmem : r ∈ rest)
      (hperform : handlers.perform r.handler event state = (.crashed report, reached)) :
      Step handlers event asyncs (.together sync rest outcomes) state (some r) .ended reached
  /-- All observers have run, and what has come of them is reported. -/
  | settled {sync result : Except Error Unit} {outcomes : List (H × Outcome)} {state middle : W}
      (hsettle : settle handlers event outcomes asyncs none state = (result, middle)) :
      Step handlers event asyncs (.together sync [] outcomes) state none .ended
        (reportPublished handlers (sync >>= fun _ => result) middle)

/-- A dispatch that has begun. -/
structure Dispatch (H : Type) where
  /-- The event. -/
  event : Event
  /-- How far it has come. -/
  stage : Stage H

/-- A bus with the dispatches that it has begun. -/
structure Traffic (H W : Type) where
  /-- The bus. -/
  bus : Bus H
  /-- The dispatches, in the order in which they began. -/
  dispatches : List (Dispatch H) := []
  /-- The runs of observers so far, each with the number of its dispatch. -/
  performed : List (Nat × Registration H) := []
  /-- The state that observers act on. -/
  state : W

namespace Traffic

variable {handlers : Handlers H W} {t u : Traffic H W}

/-- The dispatch of an event begins, and these events go on waiting. -/
def begun (t : Traffic H W) (event : Event) (waiting : List Event) : Traffic H W :=
  { t with
    bus := { t.bus with pending := waiting }
    dispatches := t.dispatches ++ [⟨event, .turns (t.bus.registered .sync event.name) none⟩] }

/-- A dispatch comes to this stage, after a step in which an observer may have run. -/
def advanced (t : Traffic H W) (i : Nat) (event : Event) (stage : Stage H)
    (run : Option (Registration H)) (state : W) : Traffic H W :=
  { t with
    dispatches := t.dispatches.set i ⟨event, stage⟩
    performed := t.performed ++ run.toList.map (i, ·)
    state }

/-- What the scheduler can do: begin the dispatch of any event that waits, or let any dispatch take a
step. -/
inductive Move (handlers : Handlers H W) : Traffic H W → Traffic H W → Prop where
  | begin {t : Traffic H W} {before after : List Event} {event : Event}
      (hpending : t.bus.pending = before ++ event :: after) :
      Move handlers t (t.begun event (before ++ after))
  | advance {t : Traffic H W} {i : Nat} {event : Event} {stage stage' : Stage H}
      {run : Option (Registration H)} {state : W} (hdispatch : t.dispatches[i]? = some ⟨event, stage⟩)
      (hstep : Stage.Step handlers event (t.bus.registered .async event.name) stage t.state run stage'
        state) :
      Move handlers t (t.advanced i event stage' run state)

/-- Nothing waits, and every dispatch is over. A shutdown that has closed the bus now returns. -/
structure Idle (t : Traffic H W) : Prop where
  pending : t.bus.pending = []
  ended : ∀ dispatch ∈ t.dispatches, dispatch.stage = .ended

/-! ## Every traffic becomes idle -/

/-- However the moves are chosen, the traffic becomes idle after finitely many. -/
inductive Settles (handlers : Handlers H W) : Traffic H W → Prop where
  | idle {t : Traffic H W} (hidle : t.Idle) : Settles handlers t
  | later {t : Traffic H W} (hmove : ∃ u, Move handlers t u)
      (hsettles : ∀ u, Move handlers t u → Settles handlers u) : Settles handlers t

end Traffic

/-- How many steps remain at most. -/
def Stage.work (asyncs : List (Registration H)) : Stage H → Nat
  | .turns rest _ => rest.length + asyncs.length + 2
  | .together _ rest _ => rest.length + 1
  | .ended => 0

theorem Stage.Step.work_lt {handlers : Handlers H W} {event : Event}
    {asyncs : List (Registration H)} {stage stage' : Stage H} {state reached : W}
    {run : Option (Registration H)} (h : Step handlers event asyncs stage state run stage' reached) :
    stage'.work asyncs < stage.work asyncs := by
  cases h with
  | act hrest =>
    have hlength := hrest.length_eq
    simp only [work, List.length_cons] at hlength ⊢
    omega
  | _ =>
    simp only [work, List.length_cons, List.length_nil]
    omega

/-- Until a dispatch is over it can take a step. -/
theorem Stage.exists_step (handlers : Handlers H W) (event : Event) (asyncs : List (Registration H))
    {stage : Stage H} (h : stage ≠ .ended) (state : W) :
    ∃ run stage' reached, Step handlers event asyncs stage state run stage' reached := by
  cases stage with
  | turns rest first =>
    cases rest with
    | nil => exact ⟨_, _, _, .gather⟩
    | cons r rest =>
      obtain ⟨outcome, reached, hperform⟩ : ∃ outcome reached,
          handlers.perform r.handler event state = (outcome, reached) := ⟨_, _, rfl⟩
      cases outcome with
      | done => exact ⟨_, _, _, .done hperform⟩
      | failed cause => exact ⟨_, _, _, .failed hperform rfl⟩
      | crashed => exact ⟨_, _, _, .crashed hperform⟩
  | together sync rest outcomes =>
    cases rest with
    | nil => exact ⟨_, _, _, .settled rfl⟩
    | cons r rest =>
      obtain ⟨outcome, reached, hperform⟩ : ∃ outcome reached,
          handlers.perform r.handler event state = (outcome, reached) := ⟨_, _, rfl⟩
      cases outcome with
      | crashed report => exact ⟨_, _, _, .lost (.head _) hperform⟩
      | _ => exact ⟨_, _, _, .act (.refl _) hperform rfl⟩
  | ended => exact absurd rfl h

/-- A sum gets smaller when one of its terms does. -/
theorem sum_map_set_lt {α : Type} {f : α → Nat} {as : List α} {i : Nat} {a b : α}
    (ha : as[i]? = some a) (h : f b < f a) : ((as.set i b).map f).sum < (as.map f).sum := by
  induction as generalizing i with
  | nil => cases ha
  | cons c as ih =>
    cases i with
    | zero =>
      obtain rfl : c = a := Option.some.inj ha
      simpa using h
    | succ i => simpa using ih ha

namespace Traffic

variable {handlers : Handlers H W} {t u : Traffic H W}

/-- How many moves remain at most. -/
def work (t : Traffic H W) : Nat :=
  (t.bus.pending.map fun event => (t.bus.registered .sync event.name).length
      + (t.bus.registered .async event.name).length + 3).sum
    + (t.dispatches.map fun d => d.stage.work (t.bus.registered .async d.event.name)).sum

theorem Move.work_lt (h : t.Move handlers u) : u.work < t.work := by
  cases h with
  | begin hpending =>
    simp only [work, begun, registered, hpending, Stage.work, List.map_append, List.map_cons,
      List.sum_append, List.sum_cons, List.map_nil, List.sum_nil]
    omega
  | advance hdispatch hstep =>
    exact Nat.add_lt_add_left (sum_map_set_lt hdispatch hstep.work_lt) _

theorem exists_move (handlers : Handlers H W) (h : ¬ t.Idle) : ∃ u, t.Move handlers u := by
  cases hpending : t.bus.pending with
  | cons event rest => exact ⟨_, .begin (hpending.trans (List.nil_append _).symm)⟩
  | nil =>
    have hbusy : ∃ dispatch ∈ t.dispatches, dispatch.stage ≠ .ended := by
      by_contra hended
      exact h ⟨hpending, fun dispatch hmem => by_contra fun hstage => hended ⟨dispatch, hmem, hstage⟩⟩
    obtain ⟨⟨event, stage⟩, hmem, hstage⟩ := hbusy
    obtain ⟨i, hi⟩ := List.mem_iff_getElem?.1 hmem
    obtain ⟨run, stage', reached, hstep⟩ := Stage.exists_step handlers event
      (t.bus.registered .async event.name) hstage t.state
    exact ⟨_, .advance hi hstep⟩

/-- However the moves are chosen, nothing is left to do in the end. -/
theorem settles (handlers : Handlers H W) (t : Traffic H W) : t.Settles handlers := by
  -- by induction on the work that remains, which every move lessens
  induction hwork : t.work using Nat.strongRecOn generalizing t with
  | ind n ih =>
    subst hwork
    by_cases hidle : t.Idle
    · exact .idle hidle
    · exact .later (exists_move handlers hidle) fun u hmove => ih u.work hmove.work_lt u rfl

/-! ## The bus's own schedule -/

/-- Any number of moves. -/
abbrev Moves (handlers : Handlers H W) : Traffic H W → Traffic H W → Prop :=
  Relation.ReflTransGen (Move handlers)

end Traffic

/-- Any number of steps of one dispatch. -/
abbrev Stage.Steps (handlers : Handlers H W) (event : Event) (asyncs : List (Registration H)) :
    Stage H × W → Stage H × W → Prop :=
  Relation.ReflTransGen fun s s' => ∃ run, Step handlers event asyncs s.1 s.2 run s'.1 s'.2

section Schedule

variable {handlers : Handlers H W} {event : Event} {asyncs rs rest : List (Registration H)}

theorem Stage.Step.head {stage stage' : Stage H} {state middle : W} {run : Option (Registration H)}
    {last : Stage H × W} (h : Step handlers event asyncs stage state run stage' middle)
    (hsteps : Steps handlers event asyncs (stage', middle) last) :
    Steps handlers event asyncs (stage, state) last :=
  .head ⟨run, h⟩ hsteps

/-- Sync observers that take turns bring their dispatch to the async ones. -/
theorem steps_runInTurn {first : Option Error} {state reached : W} {ending : Ending}
    (h : runInTurn handlers event rs first state = (ending, reached)) :
    Stage.Steps handlers event asyncs (.turns rs first, state)
      (.together (syncResult ending) asyncs [], reached) := by
  induction rs generalizing first state with
  | nil =>
    obtain ⟨rfl, rfl⟩ := Prod.mk.inj h
    exact .single ⟨none, .gather⟩
  | cons r rs ih =>
    rw [runInTurn] at h
    obtain ⟨outcome, middle, hperform⟩ : ∃ outcome middle,
        handlers.perform r.handler event state = (outcome, middle) := ⟨_, _, rfl⟩
    rw [hperform] at h
    cases outcome with
    | done => exact (Stage.Step.done hperform).head (ih h)
    | failed cause => exact (Stage.Step.failed hperform rfl).head (ih h)
    | crashed report =>
      obtain ⟨rfl, rfl⟩ := Prod.mk.inj h
      exact .single ⟨some r, .crashed hperform⟩

/-- The stage that the async observers come to when they have run. -/
def Stage.gathered (sync : Except Error Unit) : Except String (List (H × Outcome)) → Stage H
  | .ok outcomes => .together sync [] outcomes
  | .error _ => .ended

/-- Async observers that act in some order bring their dispatch to its end, or one that crashes does. -/
theorem steps_runTogether (handlers : Handlers H W) (event : Event)
    (asyncs : List (Registration H)) (hrest : rest.Perm rs) (sync : Except Error Unit)
    (past : List (H × Outcome)) (state : W) :
    Stage.Steps handlers event asyncs (.together sync rest past, state)
      (.gathered sync ((runTogether handlers event rs state).1.map (past ++ ·)),
        (runTogether handlers event rs state).2) := by
  induction rs generalizing rest state past with
  | nil =>
    have hdone : (runTogether handlers event ([] : List (Registration H)) state).1.map (past ++ ·)
        = .ok past := congrArg Except.ok (List.append_nil past)
    rw [hdone, hrest.eq_nil]
    exact .refl
  | cons r rs ih =>
    obtain ⟨outcome, middle, hperform⟩ : ∃ outcome middle,
        handlers.perform r.handler event state = (outcome, middle) := ⟨_, _, rfl⟩
    cases houtcome : outcome.isCrash with
    | true =>
      obtain ⟨report, rfl⟩ := Outcome.isCrash_iff.1 houtcome
      have hran : runTogether handlers event (r :: rs) state = (.error report, middle) := by
        rw [runTogether, hperform]
      rw [hran]
      exact .single ⟨some r, .lost (hrest.mem_iff.2 (.head _)) hperform⟩
    | false =>
      have hothers := ih (.refl rs) (past ++ [(r.handler, outcome)]) middle
      have hmap : ((runTogether handlers event rs middle).1.map ((r.handler, outcome) :: ·)).map
            (past ++ ·)
          = (runTogether handlers event rs middle).1.map (past ++ [(r.handler, outcome)] ++ ·) := by
        cases (runTogether handlers event rs middle).1 with
        | ok outcomes => exact congrArg Except.ok (List.append_cons past _ outcomes)
        | error report => rfl
      refine (Stage.Step.act hrest hperform houtcome).head ?_
      rw [runTogether_cons hperform houtcome, hmap]
      exact hothers

/-- What a published event comes to when its observers run in the order of the bus. -/
theorem steps_dispatchPublished (bus : Bus H) (event : Event) (state : W) :
    Stage.Steps handlers event (bus.registered .async event.name)
      (.turns (bus.registered .sync event.name) none, state)
      (.ended, dispatchPublished handlers bus event state) := by
  obtain ⟨ending, middle, hturns⟩ : ∃ ending middle,
      runInTurn handlers event (bus.registered .sync event.name) none state = (ending, middle) :=
    ⟨_, _, rfl⟩
  refine (steps_runInTurn hturns).trans ?_
  have horder := (byDelay_perm handlers (bus.registered .async event.name)).symm
  have htogether := steps_runTogether handlers event (bus.registered .async event.name) horder
    (syncResult ending) [] middle
  obtain ⟨ran, reached, hran⟩ : ∃ ran reached, runTogether handlers event
      (byDelay handlers (bus.registered .async event.name)) middle = (ran, reached) := ⟨_, _, rfl⟩
  rw [hran] at htogether
  have hnotify : bus.notify handlers event state = (ending, middle) := hturns
  cases ran with
  | error report =>
    have hstate : dispatchPublished handlers bus event state = reached := by
      simp only [dispatchPublished, dispatch, hnotify, notifyAsync, hran]
    rw [hstate]
    exact htogether
  | ok outcomes =>
    obtain ⟨result, last, hsettle⟩ : ∃ result last, settle handlers event outcomes
        (bus.registered .async event.name) none reached = (result, last) := ⟨_, _, rfl⟩
    have hstate : dispatchPublished handlers bus event state
        = reportPublished handlers (syncResult ending >>= fun _ => result) last := by
      simp only [dispatchPublished, dispatch, hnotify, notifyAsync, hran, hsettle]
      cases syncResult ending <;> cases result <;> rfl
    rw [hstate]
    exact htogether.tail ⟨none, .settled hsettle⟩

end Schedule

namespace Traffic

variable {handlers : Handlers H W}

/-- The steps of the dispatch that began last are moves. -/
theorem moves_of_steps {t : Traffic H W} {event : Event} {others : List (Dispatch H)}
    {stage : Stage H} {last : Stage H × W} (hdispatches : t.dispatches = others ++ [⟨event, stage⟩])
    (hsteps : Stage.Steps handlers event (t.bus.registered .async event.name) (stage, t.state) last) :
    ∃ u, Moves handlers t u ∧ u.bus = t.bus ∧ u.dispatches = others ++ [⟨event, last.1⟩] ∧
      u.state = last.2 := by
  induction hsteps with
  | refl => exact ⟨t, .refl, rfl, hdispatches, rfl⟩
  | @tail middle last _ hstep ih =>
    obtain ⟨u, hmoves, hbus, hothers, hstate⟩ := ih
    obtain ⟨run, hstep⟩ := hstep
    have hlast : u.dispatches[others.length]? = some ⟨event, middle.1⟩ := by
      rw [hothers, List.getElem?_append_right (Nat.le_refl _), Nat.sub_self]
      rfl
    rw [← hbus, ← hstate] at hstep
    refine ⟨_, hmoves.tail (.advance hlast hstep), hbus, ?_, rfl⟩
    show u.dispatches.set others.length ⟨event, last.1⟩ = _
    rw [hothers, List.set_append_right _ _ (Nat.le_refl _), Nat.sub_self]
    rfl

/-- The events that wait can be dispatched one after the other, in their order. -/
theorem moves_pending {pending : List Event} (t : Traffic H W) (hpending : t.bus.pending = pending) :
    ∃ u, Moves handlers t u ∧ u.bus = { t.bus with pending := [] } ∧
      u.dispatches = t.dispatches ++ pending.map (⟨·, .ended⟩) ∧
      u.state = pending.foldl (fun state event => dispatchPublished handlers t.bus event state)
        t.state := by
  induction pending generalizing t with
  | nil =>
    refine ⟨t, .refl, ?_, (List.append_nil _).symm, rfl⟩
    rw [← hpending]
  | cons event pending ih =>
    have hbegin : Move handlers t (t.begun event pending) :=
      .begin (hpending.trans (List.nil_append _).symm)
    have hsteps : Stage.Steps handlers event
        ((t.begun event pending).bus.registered .async event.name)
        (.turns (t.bus.registered .sync event.name) none, (t.begun event pending).state)
        (.ended, dispatchPublished handlers t.bus event t.state) :=
      steps_dispatchPublished t.bus event t.state
    obtain ⟨middle, hmiddle, hbus, hdispatches, hstate⟩ := moves_of_steps rfl hsteps
    obtain ⟨u, hmoves, hbus', hdispatches', hstate'⟩ := ih middle (by rw [hbus]; rfl)
    rw [hbus] at hbus' hstate'
    refine ⟨u, (Relation.ReflTransGen.head hbegin hmiddle).trans hmoves, hbus', ?_, ?_⟩
    · rw [hdispatches', hdispatches, List.append_assoc]
      rfl
    · rw [hstate', hstate]
      rfl

/-- What the bus does with the events that wait is one of the ways to move. -/
theorem moves_drain (handlers : Handlers H W) {t : Traffic H W}
    (hended : ∀ dispatch ∈ t.dispatches, dispatch.stage = .ended) :
    ∃ u, Moves handlers t u ∧ (u.bus, u.state) = t.bus.drain handlers t.state ∧ u.Idle := by
  obtain ⟨u, hmoves, hbus, hdispatches, hstate⟩ := moves_pending t rfl
  refine ⟨u, hmoves, ?_, ⟨?_, ?_⟩⟩
  · rw [drain, hbus, hstate]
  · rw [hbus]
  · intro dispatch hmem
    rw [hdispatches] at hmem
    rcases List.mem_append.1 hmem with hmem | hmem
    · exact hended dispatch hmem
    · obtain ⟨event, -, rfl⟩ := List.mem_map.1 hmem
      rfl

end Traffic

end Bus

end ProjectCache
