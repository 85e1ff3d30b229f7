/-
# ProjectCache.Proofs.Cache.WriteThrough — a bundle that was fetched, and the one built after it.

A bundle that is read through the cache is stored with its documents, so that building it anew finds
them all. The configuration of inline agents is stored only when there is one. When the source has
none, an older one that is still stored takes its place (`Store.assemble_withParts`), and the bundle
that is built differs from the one that was fetched.
-/
import ProjectCache.Proofs.Cache.Outcomes

namespace ProjectCache

variable {now later : Nat} {project key : String} {ttls : Ttls} {kind : Kind} {store : Store}

/-- Another configuration of inline agents in the place of none makes another bundle. -/
theorem Bundle.withInlineAgent_eq_iff (bundle : Bundle) (older : Option InlineAgent) :
    { bundle with inlineAgent := bundle.inlineAgent <|> older } = bundle ↔
      bundle.inlineAgent.isSome ∨ older = none := by
  cases hinline : bundle.inlineAgent with
  | some inlineAgent =>
    refine iff_of_true ?_ (.inl rfl)
    cases bundle
    cases hinline
    rfl
  | none =>
    constructor
    · intro h
      have holder : (none <|> older) = bundle.inlineAgent := congrArg Bundle.inlineAgent h
      exact .inr (holder.trans hinline)
    · rintro (h | rfl)
      · cases h
      · cases bundle
        cases hinline
        rfl

namespace Store

variable {backend : String} {bundle : Bundle}

/-- A part of a plain bundle is read back. -/
theorem document?_withParts_of_part (hpositive : ttls.Positive) {value : kind.Value}
    (hvalue : bundle.part kind = some value) (hplain : kind.Plain value)
    (hkey : Key.entry project kind (some backend) = .ok key) :
    (store.withParts ttls now project backend bundle).document? kind.decode now key
      = some value := by
  have hlive : (store.withParts ttls now project backend bundle).live? now key
      = some (ttls.entry now kind value) := by
    unfold live?
    rw [find?_withParts_entry kind _ _ hkey, hvalue, Option.map_some, Option.some_or,
      Option.filter_some, if_pos (hpositive.isLive_entry now kind value)]
  exact document?_of_live hlive (Kind.decode_encode hplain)

/-- A key for which the bundle has no part keeps its document. -/
theorem document?_withParts_of_no_part (hvalue : bundle.part kind = none)
    (hkey : Key.entry project kind (some backend) = .ok key) :
    (store.withParts ttls now project backend bundle).document? kind.decode now key
      = store.document? kind.decode now key := by
  apply document?_congr
  unfold live?
  rw [find?_withParts_entry kind _ _ hkey, hvalue, Option.map_none, Option.none_or]

theorem inlineAgent?_withParts (hpositive : ttls.Positive) (hplain : bundle.Plain) :
    (store.withParts ttls now project backend bundle).inlineAgent? now project
      = (bundle.inlineAgent <|> store.inlineAgent? now project) := by
  have hkey : Key.entry project .inlineAgent (some backend) = .ok (Key.plain project .inlineAgent) :=
    rfl
  unfold inlineAgent?
  cases hinline : bundle.inlineAgent with
  | some inlineAgent =>
    have hpart : bundle.part .inlineAgent = some (some inlineAgent) := by
      rw [Bundle.part, hinline]
      rfl
    rw [document?_withParts_of_part hpositive hpart ?_ hkey]
    · rfl
    · exact fun a ha => hplain.inlineAgent a (hinline.trans ha)
  | none =>
    have hpart : bundle.part .inlineAgent = none := by
      rw [Bundle.part, hinline]
      rfl
    rw [document?_withParts_of_no_part hpart hkey]
    rfl

/-- The stored parts of a bundle make it again, but for the configuration of inline agents: where the
bundle has none, one that was stored before is taken. -/
theorem assemble_withParts (hpositive : ttls.Positive) (hplain : bundle.Plain)
    (hproject : bundle.project = bundle.data) (hbackend : bundle.agentsBackend = some backend) :
    (store.withParts ttls now project backend bundle).assemble now project backend
      = some { bundle with
          inlineAgent := bundle.inlineAgent <|> store.inlineAgent? now project } := by
  have hpart : ∀ kind (value : kind.Value), bundle.part kind = some value → kind.Plain value →
      (store.withParts ttls now project backend bundle).document? kind.decode now
        (Key.part project kind backend) = some value :=
    fun kind value hvalue hplain =>
      document?_withParts_of_part hpositive hvalue hplain (Key.entry_some project kind backend)
  refine assemble_eq_some_iff.2 ⟨?_, ?_, ?_, ?_, ?_, hproject, hbackend⟩
  · exact hpart .data _ rfl hplain.data
  · exact hpart .contentBase _ rfl hplain.contentBase
  · exact hpart .team _ rfl hplain.team
  · exact hpart .guardrails _ rfl hplain.guardrails
  · exact inlineAgent?_withParts hpositive hplain

/-- Reading a bundle is of no concern to the configuration of inline agents. -/
theorem inlineAgent?_sift (store : Store) (now : Nat) (project : String) :
    (store.sift Bundle.decode now (Key.bundle project)).inlineAgent? now project
      = store.inlineAgent? now project := by
  have hlive : (store.sift Bundle.decode now (Key.bundle project)).live? now
      (Key.plain project .inlineAgent) = store.live? now (Key.plain project .inlineAgent) :=
    live?_sift_of_ne (Key.plain_ne_bundle project .inlineAgent)
  rw [inlineAgent?, inlineAgent?, document?_congr hlive]

/-- While nothing expires the stored documents make the same bundle. -/
theorem Lasts.assemble_eq (h : store.Lasts now later) (project backend : String) :
    store.assemble later project backend = store.assemble now project backend := by
  unfold assemble inlineAgent?
  simp only [h.document?_eq]

end Store

namespace Cache

/-- When all documents are there the bundle is stored. -/
theorem yields_rebuildBundle {backend : String} {bundle : Bundle}
    (hbundle : store.assemble now project backend = some bundle)
    (hrange : now + ttls.bundle.nanos < Store.clockEnd) :
    CacheM.Yields now store (rebuildBundle ttls project backend) true
      ((store.siftInlineAgent now project).put (Key.bundle project)
        (ttls.bundleEntry now bundle)) := by
  refine (ensures_rebuildBundle ttls now store project backend).mono ?_
  rintro _ _ (⟨hbuilt, -⟩ | ⟨-, hbeyond⟩ | ⟨-, hmissing⟩)
  · obtain rfl := Option.some.inj (hbuilt.symm.trans hbundle)
    exact ⟨rfl, rfl⟩
  · exact absurd hrange hbeyond
  · rw [hmissing] at hbundle
    cases hbundle

/-- Whatever was stored before, a bundle that a plain source supplied can be built anew as long as
nothing expires, for the backend that it names. What is stored then is the written form of the bundle
exactly when the bundle has a configuration of inline agents, or none was stored before. -/
theorem rebuildBundle_after_getBundle {source : Source} {requested : Option String} {bundle : Bundle}
    {world world' : World} (hplain : source.Plain) (hpositive : ttls.Positive)
    (hrange : ttls.InRange world.now) (houtages : world.outages = [])
    (hmiss : ∀ cached, world.store.document? Bundle.decode world.now (Key.bundle project)
      = some cached → cached.serves requested = false)
    (hrun : getBundle ttls source project requested world = .ok bundle world')
    (hlasts : world'.store.Lasts world'.now later) (hlater : ttls.InRange later) :
    ∃ backend rebuilt json, bundle.agentsBackend = some backend ∧
      rebuildBundle ttls project backend { world' with now := later } = .ok true rebuilt ∧
      (rebuilt.store.get rebuilt.now (Key.bundle project)).1 = some json ∧
      (json = bundle.encode ↔
        bundle.inlineAgent.isSome ∨ world.store.inlineAgent? world.now project = none) := by
  have hend : getBundle ttls source project requested world = CacheM.ending (.ok bundle) world' :=
    hrun
  obtain ⟨reached, hcalm, hbundled⟩ :=
    (ensures_getBundle hrange world.store source project requested).of_ending
      ⟨rfl, houtages, rfl⟩ hend
  cases hbundled with
  | present hbundle hserves =>
    rw [hmiss _ hbundle] at hserves
    cases hserves
  | @fetched _ backend _ hsupplies hbackend =>
    obtain ⟨hnow, houtages', hstore⟩ := hcalm
    have hbundlePlain := hsupplies.plain hplain
    -- the stored documents make the bundle, with the older configuration of inline agents
    obtain ⟨built, hbuilt⟩ : ∃ built : Bundle, built = { bundle with
        inlineAgent := bundle.inlineAgent <|> world.store.inlineAgent? world.now project } :=
      ⟨_, rfl⟩
    have hassemble : world'.store.assemble later project backend = some built := by
      rw [hlasts.assemble_eq, hnow, hstore, Store.assemble_withParts hpositive hbundlePlain
        hsupplies.project_eq hsupplies.agentsBackend, Store.inlineAgent?_sift, hbuilt]
    obtain ⟨_, _, rebuilt, hrebuilt, hcalm', rfl, rfl⟩ :=
      yields_rebuildBundle hassemble hlater.bundle { world' with now := later }
        ⟨rfl, houtages', rfl⟩
    refine ⟨backend, rebuilt, built.encode, hsupplies.agentsBackend, hrebuilt, ?_, ?_⟩
    · rw [Store.get_fst, hcalm'.store_eq, hcalm'.now_eq,
        Store.live?_put_self (hpositive.isLive_bundleEntry later built)]
      rfl
    · rw [Bundle.encode_inj (Store.plain_of_assemble hassemble) hbundlePlain, hbuilt]
      exact Bundle.withInlineAgent_eq_iff bundle _

theorem rebuildBundle_after_getBundle_of_lone : ∃ bundle world' backend rebuilt json,
    getBundle .default (.sole .lone) "p" none { now := 0 } = .ok bundle world' ∧
    bundle.agentsBackend = some backend ∧
    rebuildBundle .default "p" backend { world' with now := 0 } = .ok true rebuilt ∧
    (rebuilt.store.get rebuilt.now (Key.bundle "p")).1 = some json ∧
    (json = bundle.encode ↔
      bundle.inlineAgent.isSome ∨ Store.empty.inlineAgent? 0 "p" = none) := by
  obtain ⟨bundle, world', hrun, hnow⟩ : ∃ bundle world',
      getBundle .default (.sole .lone) "p" none { now := 0 } = .ok bundle world' ∧ world'.now = 0 := by
    decide +kernel
  have hlasts : world'.store.Lasts world'.now 0 := hnow ▸ .refl world'.store 0
  have hmiss : ∀ cached, Store.empty.document? Bundle.decode 0 (Key.bundle "p") = some cached →
      cached.serves none = false := by
    intro cached hcached
    have hnone : Store.empty.document? Bundle.decode 0 (Key.bundle "p") = none := rfl
    rw [hnone] at hcached
    cases hcached
  obtain ⟨backend, rebuilt, json, h⟩ := rebuildBundle_after_getBundle
    (Source.plain_sole Project.plain_lone)
    Ttls.positive_default Ttls.inRange_default rfl hmiss hrun hlasts
    Ttls.inRange_default
  exact ⟨bundle, world', backend, rebuilt, json, hrun, h⟩

/-- A configuration of inline agents that was stored before, and that the source no longer has, comes
back in the bundle that is built anew. -/
theorem rebuildBundle_after_getBundle_of_older : ∃ bundle world',
    getBundle .default (.sole .lone) "p" none
      { now := 0
        store := Store.empty.put (Key.plain "p" .inlineAgent)
          (Ttls.default.entry 0 .inlineAgent (some {})) } = .ok bundle world' ∧
    ∃ built rebuilt, rebuildBundle .default "p" "b" world' = .ok built rebuilt ∧
      bundle.agentsBackend = some "b" ∧
      (rebuilt.store.get rebuilt.now (Key.bundle "p")).1 ≠ some bundle.encode := by
  decide +kernel

end Cache

end ProjectCache
