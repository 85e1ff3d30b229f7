/-
# ProjectCache.Proofs.Cache.Staleness — how old a document can be when it is served.

A document under its own key is as old as its time to live at most, and one in a bundle as its own time
to live and the bundle's together. A bundle may be built again and again, each time with a new lease,
and still its documents do not grow older than that: it is built of entries that are live then, and an
entry is never stamped anew (`Store.Dated`). So the deadline of a bundle lies within the bundle's time
to live after the deadlines of the entries that it was built of. The invariant holds of the empty store,
survives the passing of time, and is carried on by every renewal (`Store.Dated.renewed`).
-/
import ProjectCache.Proofs.Cache.Furnishing

namespace ProjectCache

variable {now later : Nat} {project key : String} {ttls : Ttls} {kind : Kind}
  {store reached : Store}

/-- Which documents were furnished, when, and under which keys. -/
abbrev Furnished := Nat → Delivery

variable {furnished : Furnished}

namespace Store

/-- The deadline of each document is bounded by the time at which it was furnished, and the deadline of
each bundle by the times at which its documents were. -/
structure Dated (store : Store) (ttls : Ttls) (now : Nat) (furnished : Furnished) : Prop where
  document : ∀ {project kind backend key entry value}, ':' ∉ project.toList →
    Key.entry project kind backend = .ok key → store.live? now key = some entry →
      kind.decode entry.value = .ok value →
        ∃ since, furnished since key ⟨kind, value⟩ ∧
          entry.deadline ≤ since + (ttls.ofKind kind).nanos
  bundle : ∀ {project entry bundle}, ':' ∉ project.toList →
    store.live? now (Key.bundle project) = some entry → Bundle.decode entry.value = .ok bundle →
      ∃ backend, bundle.agentsBackend = some backend ∧
        ∀ kind value, bundle.part kind = some value →
          ∃ since, furnished since (Key.part project kind backend) ⟨kind, value⟩ ∧
            entry.deadline ≤ since + ((ttls.ofKind kind).nanos + ttls.bundle.nanos)

namespace Dated

theorem empty (ttls : Ttls) (now : Nat) (furnished : Furnished) :
    Store.empty.Dated ttls now furnished where
  document _ _ hlive := nomatch hlive
  bundle _ hlive := nomatch hlive

theorem mono (h : store.Dated ttls now furnished) {furnished' : Furnished}
    (hmono : ∀ since key document, furnished since key document → furnished' since key document) :
    store.Dated ttls now furnished' where
  document hproject hkey hlive hdecode := by
    obtain ⟨since, hsince, hdeadline⟩ := h.document hproject hkey hlive hdecode
    exact ⟨since, hmono _ _ _ hsince, hdeadline⟩
  bundle hproject hlive hdecode := by
    obtain ⟨backend, hbackend, hparts⟩ := h.bundle hproject hlive hdecode
    refine ⟨backend, hbackend, ?_⟩
    intro kind value hvalue
    obtain ⟨since, hsince, hdeadline⟩ := hparts kind value hvalue
    exact ⟨since, hmono _ _ _ hsince, hdeadline⟩

theorem of_remainder (h : store.Dated ttls now furnished)
    (hreached : store.Remainder now reached later) : reached.Dated ttls later furnished where
  document hproject hkey hlive := h.document hproject hkey (hreached _ _ hlive)
  bundle hproject hlive := h.bundle hproject (hreached _ _ hlive)

/-- A live document was furnished less than its time to live ago. -/
theorem lt_of_document? (h : store.Dated ttls now furnished) (hproject : ':' ∉ project.toList)
    {backend : Option String} {value : kind.Value} (hkey : Key.entry project kind backend = .ok key)
    (hvalue : store.document? kind.decode now key = some value) :
    ∃ since, furnished since key ⟨kind, value⟩ ∧ now < since + (ttls.ofKind kind).nanos := by
  obtain ⟨entry, hlive, hdecode⟩ := document?_eq_some.1 hvalue
  obtain ⟨since, hsince, hdeadline⟩ := h.document hproject hkey hlive hdecode
  have hnow : now < entry.deadline := lt_deadline_of_live? hlive
  exact ⟨since, hsince, by omega⟩

/-- A renewal with what is furnished now keeps a store dated. -/
theorem renewed (h : store.Dated ttls now furnished)
    (hrenewed : store.Renewed ttls now (furnished now) reached) :
    reached.Dated ttls now furnished where
  document := by
    intro project kind backend key entry value hproject hkey hlive hdecode
    rcases hrenewed.document hproject hkey hlive with hbefore | ⟨new, rfl, hplain, hnew⟩
    · exact h.document hproject hkey hbefore hdecode
    · obtain rfl : new = value := Except.ok.inj ((Kind.decode_encode hplain).symm.trans hdecode)
      exact ⟨now, hnew, Nat.le_refl _⟩
  bundle := by
    intro project entry bundle hproject hlive hdecode
    rcases hrenewed.bundle hproject hlive with
      hbefore | ⟨new, backend, rfl, hplain, hbackend, hcomposes⟩
    · exact h.bundle hproject hbefore hdecode
    · obtain rfl : new = bundle :=
        Except.ok.inj ((Bundle.decode_encode hplain).symm.trans hdecode)
      refine ⟨backend, hbackend, ?_⟩
      intro kind value hvalue
      have hend : (ttls.bundleEntry now new).deadline = now + ttls.bundle.nanos := rfl
      rw [hend]
      rcases hcomposes kind value hvalue with hdelivered | hstored
      · exact ⟨now, hdelivered, by omega⟩
      · -- the new lease begins while the document is live, so it ends the one lease after the other
        obtain ⟨since, hsince, hlt⟩ :=
          h.lt_of_document? hproject (Key.entry_some project kind backend) hstored
        exact ⟨since, hsince, by omega⟩

end Dated

end Store

/-! ## Histories -/

/-- One of these operations furnished the document, at this clock reading. -/
def FurnishedIn (ttls : Ttls) (steps : List (World × Operation)) : Furnished :=
  fun since key document => ∃ step ∈ steps, step.1.now = since ∧
    step.2.Furnishes ttls step.1.store step.1.now key document

namespace History

variable {config : CacheConfig} {past : List (World × Operation)} {world world' : World}

/-- The next operation of a history carries the dates on. -/
theorem dated_of_run {operation : Operation} {result : Except Error Answer}
    (houtages : world.outages = [])
    (hdated : world.store.Dated config.ttls world.now (FurnishedIn config.ttls past))
    (htidy : operation.Tidy) (hrun : operation.run config world = CacheM.ending result world') :
    world'.outages = [] ∧ world'.store.Dated config.ttls world'.now
      (FurnishedIn config.ttls ((world, operation) :: past)) := by
  obtain ⟨_, ⟨hnow, houtages', rfl⟩, hrenewed, -⟩ :=
    (Operation.ensures_run_renewed htidy config world.now world.store).of_ending
      ⟨rfl, houtages, rfl⟩ hrun
  have hgrown : world.store.Dated config.ttls world.now
      (FurnishedIn config.ttls ((world, operation) :: past)) := by
    refine hdated.mono ?_
    rintro since key document ⟨step, hstep, hsince⟩
    exact ⟨step, .tail _ hstep, hsince⟩
  have hdelivered : world.store.Renewed config.ttls world.now
      (FurnishedIn config.ttls ((world, operation) :: past) world.now) world'.store := by
    refine hrenewed.mono ?_
    intro key document hfurnishes
    exact ⟨(world, operation), .head _, rfl, hfurnishes⟩
  exact ⟨houtages', hnow ▸ hgrown.renewed hdelivered⟩

/-- Whatever a history does, the deadlines in its store go back to what its operations furnished. -/
theorem dated (h : History config past world) :
    world.outages = [] ∧
      world.store.Dated config.ttls world.now (FurnishedIn config.ttls past) := by
  -- by induction on the history: time takes entries away, and an operation renews the store
  induction h with
  | start now => exact ⟨rfl, .empty config.ttls now _⟩
  | @wait past world later _ hle ih =>
    obtain ⟨houtages, hdated⟩ := ih
    exact ⟨houtages, hdated.of_remainder (.of_le world.store hle)⟩
  | step _ htidy hrun ih => exact dated_of_run ih.1 ih.2 htidy hrun

end History

/-- A document that is read and was stored under its key was furnished by an operation of the history,
less than its time to live ago; any other is furnished by the operation that reads it. The documents of
a bundle that was stored were furnished for its backend less than their own time to live and the
bundle's together ago, however often the bundle was built in between; any other bundle is fetched. -/
theorem staleness_bounded (config : CacheConfig) {past : List (World × Operation)}
    {world world' : World} {operation : Operation} {answer : Answer}
    (hpast : History config past world) (htidy : operation.Tidy)
    (hrun : operation.run config world = .ok answer world') :
    (∀ key document, operation.Reads answer key document →
      (world.store.document? document.kind.decode world.now key = some document.value →
        ∃ since, FurnishedIn config.ttls past since key document ∧
          world.now < since + (config.ttls.ofKind document.kind).nanos) ∧
      (world.store.document? document.kind.decode world.now key ≠ some document.value →
        operation.Furnishes config.ttls world.store world.now key document)) ∧
    ∀ source project requested bundle, operation = .getBundle source project requested →
      answer = .bundle bundle →
        (world.store.document? Bundle.decode world.now (Key.bundle project) = some bundle →
          ∃ backend, bundle.agentsBackend = some backend ∧
            ∀ kind value, bundle.part kind = some value →
              ∃ since, FurnishedIn config.ttls past since (Key.part project kind backend)
                  ⟨kind, value⟩ ∧
                world.now < since + ((config.ttls.ofKind kind).nanos + config.ttls.bundle.nanos)) ∧
        (world.store.document? Bundle.decode world.now (Key.bundle project) ≠ some bundle →
          ∃ backend, source.Supplies project backend bundle) := by
  obtain ⟨houtages, hdated⟩ := hpast.dated
  have hend : operation.run config world = CacheM.ending (.ok answer) world' := hrun
  have hcalm : world.Calm world.now world.store := ⟨rfl, houtages, rfl⟩
  constructor
  · intro key document hreads
    obtain ⟨_, -, -, hanswer⟩ :=
      (Operation.ensures_run_renewed htidy config world.now world.store).of_ending hcalm hend
    have hstored := hanswer answer key document rfl hreads
    refine ⟨fun hvalue => ?_, fun hvalue => hstored.resolve_left hvalue⟩
    obtain ⟨project, backend, hproject, hkey⟩ := hreads.entry htidy
    exact hdated.lt_of_document? hproject hkey hvalue
  · rintro source project requested bundle rfl rfl
    refine ⟨fun hbundle => ?_, fun hbundle => ?_⟩
    · obtain ⟨entry, hlive, hdecode⟩ := Store.document?_eq_some.1 hbundle
      obtain ⟨backend, hbackend, hparts⟩ := hdated.bundle htidy.1 hlive hdecode
      refine ⟨backend, hbackend, ?_⟩
      intro kind value hvalue
      obtain ⟨since, hsince, hdeadline⟩ := hparts kind value hvalue
      have hnow : world.now < entry.deadline := Store.lt_deadline_of_live? hlive
      exact ⟨since, hsince, by omega⟩
    · have hread := Cache.ensures_getBundle_renewed htidy.1 htidy.2
        (Operation.delivery_getBundle config.ttls world.now world.store source project requested)
        config.ttls
      obtain ⟨found, hfound, hsame⟩ := CacheM.ok_of_map hrun
      obtain rfl := Answer.bundle.inj hsame
      obtain ⟨_, -, -, hsource⟩ := hread.of_ending hcalm
        (show _ = CacheM.ending (.ok found) world' from hfound)
      exact ((hsource found rfl).resolve_left hbundle).2

/-- A bundle that was built again from documents of half a day is served for another day, when the
documents themselves are no longer there. -/
theorem staleness_bounded_of_rebuilt : ∃ past world bundle world',
    History {} past world ∧ world.now = (Span.ofHours 30).nanos ∧
    Operation.Tidy (.getBundle (.sole .lone) "p" none) ∧
    Operation.run {} (.getBundle (.sole .lone) "p" none) world = .ok (.bundle bundle) world' ∧
    world.store.document? Project.decode world.now (Key.plain "p" .data) = none ∧
    world.store.document? Bundle.decode world.now (Key.bundle "p") = some bundle ∧
    ∃ since, FurnishedIn .default past since (Key.part "p" .data "b") ⟨.data, bundle.data⟩ ∧
      world.now < since + (Span.ofHours 48).nanos := by
  obtain ⟨first, filled, hfirst, hfilled, built, rebuilt, hbuilt, hrebuilt, hmissing, bundle, world',
      hbundle, hstored, hbackend⟩ : ∃ first filled,
      Cache.getBundle .default (.sole .lone) "p" none { now := 0 } = .ok first filled ∧
      filled.now = 0 ∧ ∃ built rebuilt,
        Cache.rebuildBundle .default "p" "b" { filled with now := (Span.ofHours 12).nanos }
          = .ok built rebuilt ∧
        rebuilt.now ≤ (Span.ofHours 30).nanos ∧
        rebuilt.store.document? Project.decode (Span.ofHours 30).nanos (Key.plain "p" .data) = none ∧
        ∃ bundle world', Cache.getBundle .default (.sole .lone) "p" none
            { rebuilt with now := (Span.ofHours 30).nanos } = .ok bundle world' ∧
          rebuilt.store.document? Bundle.decode (Span.ofHours 30).nanos (Key.bundle "p")
            = some bundle ∧ bundle.agentsBackend = some "b" := by decide +kernel
  have hproject : ':' ∉ "p".toList := by decide
  have htidy : Operation.Tidy (.getBundle (.sole .lone) "p" none) :=
    ⟨hproject, Source.plain_sole Project.plain_lone⟩
  have hstart : Operation.run {} (.getBundle (.sole .lone) "p" none) { now := 0 }
      = CacheM.ending (.ok (.bundle first)) filled := CacheM.map_of_ok hfirst Answer.bundle
  have hagain : Operation.run {} (.rebuildBundle "p" "b")
      { filled with now := (Span.ofHours 12).nanos } = CacheM.ending (.ok (.flag built)) rebuilt :=
    CacheM.map_of_ok hbuilt Answer.flag
  have hrun : Operation.run {} (.getBundle (.sole .lone) "p" none)
      { rebuilt with now := (Span.ofHours 30).nanos } = .ok (.bundle bundle) world' :=
    CacheM.map_of_ok hbundle Answer.bundle
  have htidy' : Operation.Tidy (.rebuildBundle "p" "b") := hproject
  have hpast := History.wait (.step (.wait (.step (.start 0) htidy hstart)
    (hfilled ▸ Nat.zero_le _)) htidy' hagain) hrebuilt
  obtain ⟨backend, hnamed, hparts⟩ :=
    ((staleness_bounded {} hpast htidy hrun).2 _ _ _ _ rfl rfl).1 hstored
  obtain rfl := Option.some.inj (hbackend.symm.trans hnamed)
  exact ⟨_, _, bundle, world', hpast, rfl, htidy, hrun, hmissing, hstored,
    hparts .data bundle.data rfl⟩

end ProjectCache
