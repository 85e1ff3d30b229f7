/-
# ProjectCache.Proofs.Cache.AllOrNothing — a request for a bundle that fails stores nothing.

Everything that goes into a bundle is fetched before anything is stored, and what is stored then is
stored for a time that the clock can count, if the times to live are valid settings
(`TtlSettings.inRange_ttls`). So a failure can only come from the source, or from there being no
backend, and it leaves the store as it was, except that a bundle that could not be read is gone.
-/
import ProjectCache.Proofs.Settings.Layers
import ProjectCache.Proofs.Cache.Usage

namespace ProjectCache

/-! ## Valid settings -/

namespace TtlSettings

variable {s : TtlSettings}

/-- Each of the times to live is the one of some setting. -/
theorem exists_ofKind (s : TtlSettings) (kind : Kind) :
    ∃ e ∈ s.named, s.ttls.ofKind kind = .ofSeconds e.2 := by
  cases kind <;> simp [named, ttls]

/-- With valid settings the clock can count the deadlines of new entries up to the last year. -/
theorem inRange_ttls (h : s.validate = .ok ()) {now : Nat}
    (hnow : now + (Span.ofSeconds maxTtl).nanos < Store.clockEnd) : s.ttls.InRange now := by
  have hlonger : ∀ kind, (s.ttls.ofKind kind).nanos ≤ (Span.ofSeconds maxTtl).nanos := by
    intro kind
    obtain ⟨e, he, hkind⟩ := s.exists_ofKind kind
    rw [hkind]
    exact Nat.mul_le_mul_right Span.second (le_of_validate h e he)
  exact ⟨fun kind => Nat.lt_of_le_of_lt (Nat.add_le_add_left (hlonger kind) now) hnow,
    Nat.lt_of_le_of_lt (Nat.add_le_add_left (hlonger .data) now) hnow⟩

end TtlSettings

/-! ## Failures -/

/-- An entry is left when it holds a document. -/
theorem Store.live?_sift_self {α : Type} (store : Store) (decode : Decoder α) (now : Nat)
    (key : String) : (store.sift decode now key).live? now key
      = (store.live? now key).filter fun entry => (decode entry.value).isOk := by
  cases hlive : store.live? now key with
  | none =>
    have hnone : store.document? decode now key = none := by rw [document?, hlive]; rfl
    rw [sift_of_document?_eq_none hnone, live?_drop, if_pos rfl]
    rfl
  | some entry =>
    cases hdecode : decode entry.value with
    | ok value =>
      rw [sift_of_document? (document?_of_live hlive hdecode), hlive, Option.filter_some, hdecode]
      rfl
    | error e =>
      have hnone : store.document? decode now key = none := by
        rw [document?, hlive, Option.bind_some, hdecode]
        rfl
      rw [sift_of_document?_eq_none hnone, live?_drop, if_pos rfl, Option.filter_some, hdecode]
      rfl

namespace Cache

variable {source : Source} {project : String} {requested : Option String}

/-- No document of a bundle is fetched twice. -/
theorem Served.fetched_le_one {result : Except Error Bundle} {usage : Usage}
    (h : Served source project requested result usage) (kind : Kind) :
    usage (.fetched kind) ≤ 1 := by
  cases h with
  | hit bundle => simp
  | miss hfetched =>
    obtain ⟨⟨asked, hasked, rfl⟩, -⟩ := hfetched
    have hnodup : (.data :: asked).Nodup :=
      (show (.data :: afterData).Nodup by decide).sublist (hasked.sublist.cons_cons _)
    have hcount : (.data :: asked).count kind ≤ 1 := List.nodup_iff_count.1 hnodup kind
    rw [Usage.one_plus_ofFetches]
    show 0 + (.data :: asked).count kind ≤ 1
    omega

/-- A request for a bundle that fails has a reason, and is counted as a miss. -/
theorem Served.of_error {e : Error} {world world' : World} {usage : Usage}
    (h : Served source project requested (.error e) usage) (hadds : world.Adds usage world') :
    Unsupplied source project requested e ∧
      world'.counters = { world.counters with misses := world.counters.misses + 1 } := by
  cases h with
  | miss hfetched =>
    obtain ⟨⟨asked, hasked, rfl⟩, hreason⟩ := hfetched
    refine ⟨hreason e rfl, ?_⟩
    rw [Usage.one_plus_ofFetches] at hadds
    exact hadds.counters_eq

theorem Bundled.eq_sift_of_error {ttls : Ttls} {now : Nat} {store reached : Store} {e : Error}
    (h : Bundled ttls now source project requested store (.error e) reached) :
    reached = store.sift Bundle.decode now (Key.bundle project) := by
  cases h
  rfl

/-- A request for a bundle that fails, for a reason that lies in the source or for want of a backend,
leaves every live entry of the store as it was, unless it is the bundle and could not be read; it is
counted as one miss, and no document was fetched twice. -/
theorem getBundle_all_or_nothing {settings : TtlSettings} (hvalid : settings.validate = .ok ())
    (source : Source) (project : String) (requested : Option String) {world world' : World}
    {e : Error} (houtages : world.outages = [])
    (hclock : world.now + (Span.ofSeconds TtlSettings.maxTtl).nanos < Store.clockEnd)
    (hrun : getBundle settings.ttls source project requested world = .error e world') :
    (∀ key, key ≠ Key.bundle project →
      world'.store.live? world.now key = world.store.live? world.now key) ∧
    world'.store.live? world.now (Key.bundle project)
      = (world.store.live? world.now (Key.bundle project)).filter
          (fun entry => (Bundle.decode entry.value).isOk) ∧
    Unsupplied source project requested e ∧
    world'.counters = { world.counters with misses := world.counters.misses + 1 } ∧
    ∀ kind, world'.reading (.fetched kind) ≤ world.reading (.fetched kind) + 1 := by
  have hrange := TtlSettings.inRange_ttls hvalid hclock
  have hend : getBundle settings.ttls source project requested world
      = CacheM.ending (.error e) world' := hrun
  obtain ⟨-, usage, hadds, hserved⟩ :=
    (uses_getBundle source project requested).of_ending ⟨houtages, hrange⟩ hend
  obtain ⟨reached, ⟨-, -, rfl⟩, hbundled⟩ :=
    (ensures_getBundle hrange world.store source project requested).of_ending
      ⟨rfl, houtages, rfl⟩ hend
  obtain ⟨hreason, hcounters⟩ := hserved.of_error hadds
  have hstore := hbundled.eq_sift_of_error
  refine ⟨?_, ?_, hreason, hcounters, ?_⟩
  · intro key hkey
    rw [hstore, Store.live?_sift_of_ne hkey]
  · rw [hstore, Store.live?_sift_self]
  · intro kind
    rw [hadds]
    exact Nat.add_le_add_left (hserved.fetched_le_one kind) _

/-- The roster cannot be fetched, and the bundle that is stored cannot be read. -/
theorem getBundle_all_or_nothing_of_failing : ∃ e world',
    getBundle ({} : TtlSettings).ttls ((Source.sole .lone).setFailing .team true) "p" none
      { now := 0
        store := ((∅ : Store).put (Key.bundle "p") ⟨.string "old", 1⟩).put "other" ⟨.null, 1⟩ }
      = .error e world' ∧
    world'.store.live? 0 "other" = some ⟨.null, 1⟩ ∧
    world'.store.live? 0 (Key.bundle "p") = none ∧
    Unsupplied ((Source.sole .lone).setFailing .team true) "p" none e ∧
    world'.counters = { misses := 1 } := by
  obtain ⟨result, world', hrun, hfailed⟩ : ∃ result world',
      getBundle ({} : TtlSettings).ttls ((Source.sole .lone).setFailing .team true) "p" none
        { now := 0
          store := ((∅ : Store).put (Key.bundle "p") ⟨.string "old", 1⟩).put "other" ⟨.null, 1⟩ }
        = CacheM.ending result world' ∧ result.isOk = false := by decide +kernel
  cases result with
  | ok bundle => cases hfailed
  | error e =>
    have hvalid : ({} : TtlSettings).validate = .ok () := by rfl
    obtain ⟨hothers, hbundle, hreason, hcounters, -⟩ :=
      getBundle_all_or_nothing hvalid _ "p" none rfl (by decide) hrun
    refine ⟨e, world', hrun, ?_, ?_, hreason, hcounters⟩
    · exact (hothers "other" (by decide)).trans (by decide +kernel)
    · exact hbundle.trans (by decide +kernel)

end Cache

end ProjectCache
