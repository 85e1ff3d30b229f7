/-
# ProjectCache.Proofs.Bus.Delivery — publishing and shutting down lose and duplicate nothing.

A bus is asked to publish events and to shut down, while the scheduler makes its moves in between
(`Bus.Traffic.Runs`). The events that it accepts are those that were published before the first
shutdown (`Bus.accepted`); at any time each of them waits or has been dispatched, and each observer of
an event that is dispatched has run once or is still to run (`Bus.Traffic.Accounted`). So when a
shutdown returns each event that was accepted has been performed once by each of its observers
(`Bus.published_performed_once`).
-/
import ProjectCache.Proofs.Bus.Traffic

namespace ProjectCache

namespace Bus

variable {H W : Type} {handlers : Handlers H W}

/-! ## What is asked of a bus -/

/-- What is asked of a bus. -/
inductive Call where
  | publish (event : Event)
  | shutdown

/-- The events that are published before the first shutdown. -/
def accepted : List Call → List Event
  | [] => []
  | .publish event :: calls => event :: accepted calls
  | .shutdown :: _ => []

theorem accepted_publish (before : List Event) (after : List Call) :
    accepted (before.map .publish ++ .shutdown :: after) = before := by
  induction before with
  | nil => rfl
  | cons event before ih => exact congrArg (event :: ·) ih

/-- After a shutdown nothing is accepted. -/
theorem accepted_append_of_mem {calls : List Call} (h : .shutdown ∈ calls) (more : List Call) :
    accepted (calls ++ more) = accepted calls := by
  induction calls with
  | nil => cases h
  | cons call calls ih =>
    cases call with
    | shutdown => rfl
    | publish event =>
      have hmem : .shutdown ∈ calls := (List.mem_cons.1 h).resolve_left nofun
      exact congrArg (event :: ·) (ih hmem)

theorem accepted_append_of_not_mem {calls : List Call} (h : .shutdown ∉ calls) (more : List Call) :
    accepted (calls ++ more) = accepted calls ++ accepted more := by
  induction calls with
  | nil => rfl
  | cons call calls ih =>
    cases call with
    | shutdown => exact absurd (.head _) h
    | publish event => exact congrArg (event :: ·) (ih fun hmem => h (.tail _ hmem))

namespace Traffic

/-- A bus to which observers have subscribed, and of which nothing has been asked. -/
def fresh [DecidableEq H] (config : BusConfig) (subs : List (Registration H)) (state : W) :
    Traffic H W where
  bus := subscribeAll { config } subs
  state := state

/-- Publishing leaves an event to the scheduler, and a shutdown first closes the bus. -/
def call (handlers : Handlers H W) (t : Traffic H W) : Call → Traffic H W
  | .publish event =>
    { t with
      bus := (t.bus.publish handlers event t.state).1
      state := (t.bus.publish handlers event t.state).2 }
  | .shutdown => { t with bus := { t.bus with closed := true } }

/-- These calls have been made one after the other, with moves of the scheduler at any time. -/
inductive Runs [DecidableEq H] (handlers : Handlers H W) (start : Traffic H W) :
    List Call → Traffic H W → Prop where
  | start : Runs handlers start [] start
  | call {calls : List Call} {t : Traffic H W} (hruns : Runs handlers start calls t) (call : Call) :
      Runs handlers start (calls ++ [call]) (t.call handlers call)
  | move {calls : List Call} {t u : Traffic H W} (hruns : Runs handlers start calls t)
      (hmove : Move handlers t u) : Runs handlers start calls u

theorem Runs.moves [DecidableEq H] {start t u : Traffic H W} {calls : List Call}
    (hruns : start.Runs handlers calls t) (hmoves : Moves handlers t u) :
    start.Runs handlers calls u := by
  induction hmoves with
  | refl => exact hruns
  | tail _ hmove ih => exact ih.move hmove

/-- The runs of observers in a dispatch. -/
def runsOf (t : Traffic H W) (i : Nat) : List (Registration H) :=
  (t.performed.filter fun run => run.1 = i).map (·.2)

theorem runsOf_advanced (t : Traffic H W) (i j : Nat) (event : Event) (stage : Stage H)
    (run : Option (Registration H)) (state : W) :
    (t.advanced i event stage run state).runsOf j
      = t.runsOf j ++ if i = j then run.toList else [] := by
  have hnew : ((run.toList.map (i, ·)).filter fun run => run.1 = j).map (·.2)
      = if i = j then run.toList else [] := by
    rw [List.filter_map, List.map_map]
    by_cases hij : i = j
    · simp [Function.comp_def, hij]
    · simp [Function.comp_def, hij]
  rw [runsOf, advanced, List.filter_append, List.map_append, hnew]
  rfl

end Traffic

/-! ## What each dispatch has done -/

/-- Up to this stage of a dispatch these observers have run: sync observers in their order, and then
async ones; with those that are still to run they are all. -/
def Stage.Accounts (syncs asyncs runs : List (Registration H)) : Stage H → Prop
  | .turns rest _ => runs ++ rest = syncs
  | .together _ rest _ => ∃ acted, runs = syncs ++ acted ∧ (acted ++ rest).Perm asyncs
  | .ended => ∃ acted, runs = syncs ++ acted ∧ acted.Perm asyncs

/-- A step accounts for the observer that runs in it. -/
theorem Stage.Step.accounts [DecidableEq H] {event : Event}
    {syncs asyncs runs : List (Registration H)} {stage stage' : Stage H} {state reached : W}
    {run : Option (Registration H)}
    (h : Step handlers event asyncs stage state run stage' reached)
    (hcrash : ∀ r, r ∈ syncs ∨ r ∈ asyncs → ∀ state,
      (handlers.perform r.handler event state).1.isCrash = false)
    (haccounts : stage.Accounts syncs asyncs runs) :
    stage'.Accounts syncs asyncs (runs ++ run.toList) := by
  cases h with
  | done | failed =>
    show (_ ++ [_]) ++ _ = _
    rw [List.append_assoc]
    exact haccounts
  | @crashed r rest first _ _ _ hperform =>
    obtain rfl : runs ++ r :: rest = syncs := haccounts
    have hr := hcrash r (.inl (by simp)) state
    rw [hperform] at hr
    cases hr
  | gather =>
    obtain rfl : runs ++ [] = syncs := haccounts
    exact ⟨[], by simp, .refl _⟩
  | @act r rest others sync outcomes outcome _ _ hrest =>
    obtain ⟨acted, rfl, hacted⟩ := haccounts
    refine ⟨acted ++ [r], List.append_assoc _ _ _, ?_⟩
    rw [List.append_assoc, List.singleton_append]
    exact (hrest.symm.append_left acted).trans hacted
  | @lost r rest sync outcomes _ _ _ hmem hperform =>
    obtain ⟨acted, rfl, hacted⟩ := haccounts
    have hr := hcrash r (.inr (hacted.mem_iff.1 (List.mem_append_right _ hmem))) state
    rw [hperform] at hr
    cases hr
  | settled =>
    obtain ⟨acted, rfl, hacted⟩ := haccounts
    rw [List.append_nil] at hacted
    exact ⟨acted, by simp, hacted⟩

namespace Traffic

variable {t u : Traffic H W} {bus : Bus H} {calls : List Call}

/-- Nothing of what was accepted is lost or done twice. -/
structure Accounted (bus : Bus H) (calls : List Call) (t : Traffic H W) : Prop where
  registrations : t.bus.registrations = bus.registrations
  closed : t.bus.closed = true ↔ .shutdown ∈ calls
  events : (t.bus.pending ++ t.dispatches.map (·.event)).Perm (accepted calls)
  stages : ∀ (i : Nat) (event : Event) (stage : Stage H), t.dispatches[i]? = some ⟨event, stage⟩ →
    stage.Accounts (bus.registered .sync event.name) (bus.registered .async event.name) (t.runsOf i)
  numbers : ∀ run ∈ t.performed, run.1 < t.dispatches.length

namespace Accounted

theorem registered_eq (h : t.Accounted bus calls) (mode : Mode) (name : String) :
    t.bus.registered mode name = bus.registered mode name := by
  rw [registered, registered, h.registrations]

/-- Nothing has run yet in a dispatch that has not begun. -/
theorem runsOf_length (h : t.Accounted bus calls) : t.runsOf t.dispatches.length = [] := by
  rw [runsOf, List.map_eq_nil_iff, List.filter_eq_nil_iff]
  intro run hrun
  have hnumber := h.numbers run hrun
  simpa using Nat.ne_of_lt hnumber

theorem begun (h : t.Accounted bus calls) {before after : List Event} {event : Event}
    (hpending : t.bus.pending = before ++ event :: after) :
    (t.begun event (before ++ after)).Accounted bus calls where
  registrations := h.registrations
  closed := h.closed
  events := by
    refine List.Perm.trans ?_ h.events
    rw [hpending, Traffic.begun, List.map_append, List.map_singleton, ← List.append_assoc]
    refine List.perm_append_singleton _ _ |>.trans ?_
    rw [List.append_assoc, List.append_assoc, List.cons_append]
    exact List.perm_middle.symm
  stages := by
    intro i other stage hdispatch
    rw [Traffic.begun, List.getElem?_append] at hdispatch
    split at hdispatch
    · exact h.stages i other stage hdispatch
    · -- the new dispatch has all its sync observers before it
      rename_i hi
      obtain ⟨hlength, hnew⟩ : i = t.dispatches.length ∧ _ = Dispatch.mk other stage := by
        rw [List.getElem?_singleton] at hdispatch
        split at hdispatch
        · exact ⟨by omega, Option.some.inj hdispatch⟩
        · cases hdispatch
      cases hnew
      subst hlength
      show t.runsOf _ ++ _ = _
      rw [h.runsOf_length, List.nil_append, h.registered_eq]
  numbers := by
    intro run hrun
    have hnumber := h.numbers run hrun
    rw [Traffic.begun, List.length_append]
    omega

theorem advance [DecidableEq H] (h : t.Accounted bus calls) {i : Nat} {event : Event}
    {stage stage' : Stage H} {run : Option (Registration H)} {state : W}
    (hcrash : ∀ mode name, ∀ r ∈ bus.registered mode name, ∀ event state,
      (handlers.perform r.handler event state).1.isCrash = false)
    (hdispatch : t.dispatches[i]? = some ⟨event, stage⟩)
    (hstep : Stage.Step handlers event (t.bus.registered .async event.name) stage t.state run stage'
      state) :
    (t.advanced i event stage' run state).Accounted bus calls where
  registrations := h.registrations
  closed := h.closed
  events := by
    have hevents : (t.dispatches.set i ⟨event, stage'⟩).map (·.event)
        = t.dispatches.map (·.event) := by
      apply List.ext_getElem?
      intro j
      rw [List.getElem?_map, List.getElem?_map, List.getElem?_set]
      split
      · rename_i hij
        subst hij
        rw [if_pos (List.getElem?_eq_some_iff.1 hdispatch).1, hdispatch]
        rfl
      · rfl
    rw [advanced, hevents]
    exact h.events
  stages := by
    intro j other stage'' hj
    rw [runsOf_advanced]
    rw [advanced, List.getElem?_set] at hj
    split at hj
    · -- the dispatch that takes the step
      rename_i hij
      subst hij
      have hi := (List.getElem?_eq_some_iff.1 hdispatch).1
      rw [if_pos hi] at hj
      cases hj
      rw [h.registered_eq] at hstep
      rw [if_pos rfl]
      refine hstep.accounts ?_ (h.stages i event stage hdispatch)
      rintro r (hr | hr) state
      · exact hcrash .sync event.name r hr event state
      · exact hcrash .async event.name r hr event state
    · rename_i hij
      rw [if_neg hij, List.append_nil]
      exact h.stages j other stage'' hj
  numbers := by
    intro run' hrun
    rw [advanced, List.length_set]
    rcases List.mem_append.1 hrun with hrun | hrun
    · exact h.numbers run' hrun
    · obtain ⟨r, -, rfl⟩ := List.mem_map.1 hrun
      exact (List.getElem?_eq_some_iff.1 hdispatch).1

theorem call (h : t.Accounted bus calls) (c : Call) :
    (t.call handlers c).Accounted bus (calls ++ [c]) := by
  cases c with
  | shutdown =>
    refine ⟨h.registrations, ?_, ?_, h.stages, h.numbers⟩
    · exact iff_of_true rfl (List.mem_append_right _ (.head _))
    · have haccepted : accepted (calls ++ [.shutdown]) = accepted calls := by
        by_cases hmem : .shutdown ∈ calls
        · exact accepted_append_of_mem hmem _
        · rw [accepted_append_of_not_mem hmem, accepted, List.append_nil]
      rw [haccepted]
      exact h.events
  | publish event =>
    have hshutdown : .shutdown ∈ calls ++ [.publish event] ↔ .shutdown ∈ calls := by simp
    by_cases hmem : .shutdown ∈ calls
    · have hclosed := h.closed.2 hmem
      rw [Traffic.call, publish, if_pos hclosed]
      refine ⟨h.registrations, h.closed.trans hshutdown.symm, ?_, h.stages, h.numbers⟩
      rw [accepted_append_of_mem hmem]
      exact h.events
    · have hopen : ¬ t.bus.closed = true := mt h.closed.1 hmem
      rw [Traffic.call, publish, if_neg hopen]
      refine ⟨h.registrations, h.closed.trans hshutdown.symm, ?_, h.stages, h.numbers⟩
      rw [accepted_append_of_not_mem hmem, List.append_assoc]
      have hlast : ([event] ++ t.dispatches.map (·.event)).Perm
          (t.dispatches.map (·.event) ++ [event]) := List.perm_append_comm
      refine (hlast.append_left t.bus.pending).trans ?_
      rw [← List.append_assoc]
      exact h.events.append_right [event]

end Accounted

/-- Whatever is asked and however the scheduler moves, nothing that is accepted is lost or done
twice. -/
theorem Runs.accounted [DecidableEq H] {start : Traffic H W} (h : start.Runs handlers calls t)
    (hcrash : ∀ mode name, ∀ r ∈ start.bus.registered mode name, ∀ event state,
      (handlers.perform r.handler event state).1.isCrash = false)
    (hstart : start.Accounted start.bus []) : t.Accounted start.bus calls := by
  -- by induction on the run; a move changes where an event is, and a call may add one
  induction h with
  | start => exact hstart
  | call _ c ih => exact ih.call c
  | move _ hmove ih =>
    cases hmove with
    | begin hpending => exact ih.begun hpending
    | advance hdispatch hstep => exact ih.advance hcrash hdispatch hstep

end Traffic

/-! ## Shutting down -/

section Shutdown

variable [DecidableEq H]

/-- Subscribing publishes nothing and does not close the bus. -/
theorem subscribeAll_idle (bus : Bus H) (subs : List (Registration H)) :
    (bus.subscribeAll subs).pending = bus.pending ∧ (bus.subscribeAll subs).closed = bus.closed := by
  induction subs generalizing bus with
  | nil => exact ⟨rfl, rfl⟩
  | cons r subs ih =>
    obtain ⟨hpending, hclosed⟩ := ih (bus.subscribe r.mode r.event r.handler r.isolated)
    have hfirst : (bus.subscribe r.mode r.event r.handler r.isolated).pending = bus.pending ∧
        (bus.subscribe r.mode r.event r.handler r.isolated).closed = bus.closed := by
      unfold subscribe
      split <;> exact ⟨rfl, rfl⟩
    exact ⟨hpending.trans hfirst.1, hclosed.trans hfirst.2⟩

theorem Traffic.accounted_fresh (config : BusConfig) (subs : List (Registration H)) (state : W) :
    (fresh config subs state).Accounted (fresh config subs state).bus [] := by
  obtain ⟨hpending, hclosed⟩ := subscribeAll_idle { config } subs
  refine ⟨rfl, ?_, ?_, fun _ _ _ h => (nomatch h), fun _ h => (nomatch h)⟩
  · show (subscribeAll { config } subs).closed = true ↔ _
    rw [hclosed]
    exact iff_of_false Bool.false_ne_true List.not_mem_nil
  · show ((subscribeAll { config } subs).pending ++ []).Perm []
    rw [hpending]
    exact .refl []

/-- A shutdown whose grace suffices closes the bus and dispatches the events that wait. -/
theorem shutdown_of_in_grace {bus : Bus H}
    (h : ∀ event ∈ bus.pending, outlasts handlers bus event = false) (state : W) :
    bus.shutdown handlers state
      = ({ bus with pending := [], closed := true }, (bus.drain handlers state).2) := by
  have hnone : bus.pending.any (outlasts handlers bus) = false := by
    rw [List.any_eq_false]
    intro event hevent
    rw [h event hevent]
    exact Bool.false_ne_true
  have hfold : bus.pending.foldl (fun state event =>
      if outlasts handlers bus event then dispatchInGrace handlers bus event state
      else dispatchPublished handlers bus event state) state
        = bus.pending.foldl (fun state event => dispatchPublished handlers bus event state) state := by
    apply List.foldl_ext
    intro state event hevent
    rw [h event hevent, if_neg Bool.false_ne_true]
  rw [shutdown, hfold, hnone, drain]
  rfl

/-- A shutdown of a bus that is closed and has nothing to do changes nothing. -/
theorem shutdown_of_closed {bus : Bus H} (hclosed : bus.closed = true) (hpending : bus.pending = [])
    (state : W) : bus.shutdown handlers state = (bus, state) := by
  cases bus
  cases hclosed
  cases hpending
  rfl

/-- The bus's own shutdown, when its grace suffices, is one of the ways to move. -/
theorem Traffic.exists_runs_shutdown {start t : Traffic H W} {calls : List Call}
    (hruns : start.Runs handlers calls t) (hended : ∀ d ∈ t.dispatches, d.stage = .ended)
    (hgrace : ∀ event ∈ t.bus.pending, outlasts handlers t.bus event = false) :
    ∃ u, start.Runs handlers (calls ++ [.shutdown]) u ∧ u.Idle ∧
      (u.bus, u.state) = t.bus.shutdown handlers t.state := by
  have hclosed : ∀ d ∈ (t.call handlers .shutdown).dispatches, d.stage = .ended := hended
  obtain ⟨u, hmoves, hreached, hidle⟩ := moves_drain handlers hclosed
  refine ⟨u, (hruns.call .shutdown).moves hmoves, hidle, ?_⟩
  rw [shutdown_of_in_grace hgrace, hreached]
  rfl

end Shutdown

/-! ## Delivery -/

/-- Each observer of the event has run once, no one else has, and sync observers have run before async
ones. -/
structure Serves [DecidableEq H] (subs : List (Registration H)) (event : Event)
    (runs : List (Registration H)) : Prop where
  once : ∀ r ∈ subs, r.event = event.name →
    (runs.map fun run => (run.mode, run.handler)).count (r.mode, r.handler) = 1
  only : ∀ run ∈ runs, run ∈ subs ∧ run.event = event.name
  inOrder : ∃ turns together, runs = turns ++ together ∧ (∀ run ∈ turns, run.mode = .sync) ∧
    ∀ run ∈ together, run.mode = .async

/-- Each of the events has been dispatched once, to each of its observers, and nothing else has. -/
structure Traffic.Delivers [DecidableEq H] (subs : List (Registration H)) (events : List Event)
    (t : Traffic H W) : Prop where
  events : (t.dispatches.map (·.event)).Perm events
  served : ∀ (i : Nat) (event : Event) (stage : Stage H), t.dispatches[i]? = some ⟨event, stage⟩ →
    Serves subs event (t.runsOf i)
  numbers : ∀ run ∈ t.performed, run.1 < t.dispatches.length

section Delivery

variable [DecidableEq H] {bus : Bus H} {subs : List (Registration H)}

section Served

variable {acted : List (Registration H)} {name : String}
  (hacted : acted.Perm ((bus.subscribeAll subs).registered .async name))

include hacted

/-- Those that have run at the end of a dispatch are the observers of its event, in both modes. -/
theorem mem_served {r : Registration H} :
    r ∈ (bus.subscribeAll subs).registered .sync name ++ acted ↔
      ∃ mode, r ∈ (bus.subscribeAll subs).registered mode name := by
  rw [List.mem_append, hacted.mem_iff]
  constructor
  · rintro (hr | hr)
    · exact ⟨.sync, hr⟩
    · exact ⟨.async, hr⟩
  · rintro ⟨mode, hr⟩
    cases mode with
    | sync => exact .inl hr
    | async => exact .inr hr

/-- In neither mode an observer has run twice. -/
theorem nodup_served (hnew : bus.registrations = []) :
    (((bus.subscribeAll subs).registered .sync name ++ acted).map
      fun run => (run.mode, run.handler)).Nodup := by
  have hpairs : ∀ rs : List (Registration H), (rs.map (·.handler)).Nodup →
      (rs.map fun run => (run.mode, run.handler)).Nodup := by
    intro rs hrs
    apply List.Nodup.of_map Prod.snd
    rwa [List.map_map]
  have hhandlers : (acted.map (·.handler)).Nodup := by
    rw [(hacted.map (·.handler)).nodup_iff]
    exact nodup_registered hnew subs .async name
  rw [List.map_append, List.nodup_append]
  refine ⟨hpairs _ (nodup_registered hnew subs .sync name), hpairs _ hhandlers, ?_⟩
  -- what has run in both modes has run once in each
  rintro _ hturn _ htogether rfl
  obtain ⟨r, hr, hpair⟩ := List.mem_map.1 hturn
  obtain ⟨s, hs, rfl⟩ := List.mem_map.1 htogether
  have hmodes : r.mode = s.mode := congrArg Prod.fst hpair
  rw [(mem_of_registered hnew hr).2, (mem_of_registered hnew (hacted.mem_iff.1 hs)).2] at hmodes
  cases hmodes

end Served

/-- A dispatch that is over has served its event. -/
theorem serves_of_ended (hnew : bus.registrations = []) {event : Event} {runs : List (Registration H)}
    (h : Stage.ended.Accounts ((bus.subscribeAll subs).registered .sync event.name)
      ((bus.subscribeAll subs).registered .async event.name) runs) :
    Serves subs event runs := by
  obtain ⟨acted, rfl, hacted⟩ := h
  refine ⟨?_, ?_, _, acted, rfl, fun r hr => (mem_of_registered hnew hr).2,
    fun r hr => (mem_of_registered hnew (hacted.mem_iff.1 hr)).2⟩
  · intro r hr hname
    obtain ⟨s, hs, hhandler⟩ := exists_registered hnew hr
    rw [hname] at hs
    have hserved := (mem_served hacted).2 ⟨r.mode, hs⟩
    refine List.count_eq_one_of_mem (nodup_served hacted hnew) (List.mem_map.2 ⟨s, hserved, ?_⟩)
    rw [(mem_of_registered hnew hs).2, hhandler]
  · intro run hrun
    obtain ⟨mode, hrun⟩ := (mem_served hacted).1 hrun
    have hname := of_decide_eq_true (List.mem_filter.1 hrun).2
    exact ⟨(mem_of_registered hnew hrun).1, hname.2⟩

/-- Publishing and shutting down lose and duplicate nothing. Whatever the order in which dispatches and
the observers in them run and whichever of them fail, after a shutdown there is an end to it, and then
each event that was published before has been performed once by each observer of it, sync observers
first, and no other event has; shutting down again changes nothing. What the bus itself does with the
events that wait, at any time or in a shutdown, is one such course. Nobody who publishes or shuts down
is told of a failure. -/
theorem published_performed_once (handlers : Handlers H W) (config : BusConfig)
    (hcrash : ∀ r ∈ subs, ∀ event state, (handlers.perform r.handler event state).1.isCrash = false)
    (state : W) :
    (∀ (before : List Event) (after : List Call) (t : Traffic H W),
      (Traffic.fresh config subs state).Runs handlers (before.map .publish ++ .shutdown :: after) t →
      t.Settles handlers ∧ (t.Idle → t.Delivers subs before ∧ t.call handlers .shutdown = t ∧
        t.bus.shutdown handlers t.state = (t.bus, t.state))) ∧
    (∀ (calls : List Call) (t : Traffic H W),
      (Traffic.fresh config subs state).Runs handlers calls t →
      (∀ dispatch ∈ t.dispatches, dispatch.stage = .ended) →
      (∃ u, (Traffic.fresh config subs state).Runs handlers calls u ∧ u.Idle ∧
        (u.bus, u.state) = t.bus.drain handlers t.state) ∧
      ((∀ event ∈ t.bus.pending, outlasts handlers t.bus event = false) →
        ∃ u, (Traffic.fresh config subs state).Runs handlers (calls ++ [.shutdown]) u ∧ u.Idle ∧
          (u.bus, u.state) = t.bus.shutdown handlers t.state)) ∧
    ∀ (service : Service) (bus : Bus Observer), service.bus = some bus →
      (∀ event, (service.step (.publish event)).1 = .answer .done) ∧
      (service.step .shutdown).1 = .answer .done := by
  have hnew : ({ config } : Bus H).registrations = [] := rfl
  have hnever : ∀ mode name, ∀ r ∈ (Traffic.fresh config subs state).bus.registered mode name,
      ∀ event state, (handlers.perform r.handler event state).1.isCrash = false :=
    fun mode name r hr => hcrash r (mem_of_registered hnew hr).1
  refine ⟨?_, ?_, ?_⟩
  · intro before after t hruns
    refine ⟨t.settles handlers, fun hidle => ?_⟩
    have haccounted := hruns.accounted hnever (Traffic.accounted_fresh config subs state)
    have hclosed : t.bus.closed = true :=
      haccounted.closed.2 (List.mem_append_right _ (.head _))
    refine ⟨⟨?_, ?_, haccounted.numbers⟩, ?_, shutdown_of_closed hclosed hidle.pending t.state⟩
    · have hevents := haccounted.events
      rwa [hidle.pending, List.nil_append, accepted_publish] at hevents
    · intro i event stage hdispatch
      have hstage := haccounted.stages i event stage hdispatch
      have hended := hidle.ended _ (List.mem_of_getElem? hdispatch)
      subst hended
      exact serves_of_ended hnew hstage
    · rw [Traffic.call, ← hclosed]
  · intro calls t hruns hended
    refine ⟨?_, Traffic.exists_runs_shutdown hruns hended⟩
    obtain ⟨u, hmoves, hreached, hidle⟩ := Traffic.moves_drain handlers hended
    exact ⟨u, hruns.moves hmoves, hidle, hreached⟩
  · intro service bus hbus
    constructor
    · intro event
      rw [Service.step, Service.changeBus, Service.withBus, hbus]
    · rw [Service.step, Service.changeBus, Service.withBus, hbus]

end Delivery

/-- The mixed observers without the one that crashes. The first of them fails each time. -/
def uncrashed : List (Registration Observer) :=
  mixed.filter fun r => r.handler ≠ .probe "c" .sync (.crash "task panicked")

/-- Two events that are published one after the other. -/
theorem published_performed_once_of_uncrashed :
    (∀ r ∈ uncrashed, ∀ event state,
      (mixedHandlers.perform r.handler event state).1.isCrash = false) ∧
    ∃ t, (Traffic.fresh {} uncrashed { now := 0 }).Runs mixedHandlers
        [.publish (mixedEvent "e"), .publish (mixedEvent "e"), .shutdown] t ∧
      t.Idle ∧ t.Delivers uncrashed [mixedEvent "e", mixedEvent "e"] := by
  have hcrash : ∀ r ∈ uncrashed, ∀ event state,
      (mixedHandlers.perform r.handler event state).1.isCrash = false := by
    intro r hr event state
    obtain ⟨hmem, hprobe⟩ := List.mem_filter.1 hr
    simp only [mixed, List.mem_cons, List.not_mem_nil, or_false] at hmem
    rcases hmem with rfl | rfl | rfl | rfl | rfl | rfl | rfl
    · rfl
    · rfl
    · rfl
    · rfl
    · exact absurd rfl (of_decide_eq_true hprobe)
    · rfl
    · rfl
  obtain ⟨hdelivers, hcourse, -⟩ :=
    published_performed_once mixedHandlers {} hcrash { now := 0 }
  have hpublished : (Traffic.fresh {} uncrashed { now := 0 }).Runs mixedHandlers
      ([] ++ [.publish (mixedEvent "e")] ++ [.publish (mixedEvent "e")]) _ :=
    (Traffic.Runs.start.call (.publish (mixedEvent "e"))).call (.publish (mixedEvent "e"))
  obtain ⟨t, hruns, hidle, -⟩ := (hcourse _ _ hpublished (by rintro d ⟨⟩)).2 (by decide +kernel)
  exact ⟨hcrash, t, hruns, hidle, ((hdelivers [mixedEvent "e", mixedEvent "e"] [] t hruns).2 hidle).1⟩

end Bus

end ProjectCache
