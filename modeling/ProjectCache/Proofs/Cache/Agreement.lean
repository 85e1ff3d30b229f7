/-
# ProjectCache.Proofs.Cache.Agreement — pushing a document and fetching it anew come to the same.

A push stores the document and repairs the bundle; a refresh that fetches deletes the old document,
looks the new one up, which cannot be found, stores it and repairs the bundle. Both repairs begin with
the same store. They need not be for the same backend, since settings that are fetched may name one
themselves; but the repair after a push finds it in the settings that it has just stored, or finds no
settings, without which there is no bundle for any backend (`Cache.exists_repair_of_put`). So both leave
the same store, and count the same but for one miss (`Cache.refresh_agrees_with_refreshWith`).
-/
import ProjectCache.Proofs.Cache.Lookup
import ProjectCache.Proofs.Cache.Region
import ProjectCache.Proofs.Cache.Usage

namespace ProjectCache

variable {ttls : Ttls} {kind : Kind} {project key : String} {backend requested : Option String}
  {now : Nat} {store reached : Store} {world : World} {value : kind.Value}

/-- The counters after a repair that has built a bundle, or has not. -/
def Counters.repaired (counters : Counters) (built : Bool) : Counters :=
  { counters with
    rebuilds := counters.rebuilds + built.toNat
    drops := counters.drops + (!built).toNat }

/-- The world after a refresh was counted. -/
def World.refreshed (world : World) : World :=
  { world with counters := { world.counters with refreshes := world.counters.refreshes + 1 } }

namespace Cache

open CacheM

/-! ## Repairs from the same store -/

/-- A repair comes to the same from every world with this store. -/
theorem exists_repair (ttls : Ttls) (now : Nat) (store : Store) (project : String)
    (requested : Option String) :
    ∃ result reached, EndsIn now store (repairBundle ttls project requested) result reached := by
  have hconduct : Conduct (.settled ttls) project (repairBundle ttls project requested)
      fun _ => True := conduct_repairBundle requested
  have heverywhere : Region.HasProject (fun _ => True) project :=
    ⟨fun _ _ => trivial, fun _ _ _ _ => trivial, fun _ _ _ _ => trivial⟩
  obtain ⟨result, reached, -, hends, -⟩ :=
    hconduct.keepsTo heverywhere now store store (.refl store _)
  exact ⟨result, reached, hends⟩

/-- Whether the backend that the settings name is given or found, the repair is the same; without
settings there is none to build. -/
theorem exists_repair_named {settings : Project} {named : String}
    (hnamed : settings.agentsBackend = some named)
    (hsettings : ∀ data, store.document? (Kind.decode .data) now (Key.plain project .data)
      = some data → data = settings) (ttls : Ttls) :
    ∃ result reached, EndsIn now store (repairBundle ttls project none) result reached ∧
      EndsIn now store (repairBundle ttls project (some named)) result reached := by
  have hstored := yields_storedBackend now store project
  rcases hdata : store.document? (Kind.decode .data) now (Key.plain project .data) with _ | data
  · rw [hdata, Store.sift_of_document?_eq_none hdata] at hstored
    have hdrop : EndsIn now (store.drop (Key.plain project .data))
        (do dropBundle project; return false) (.ok false)
        ((store.drop (Key.plain project .data)).drop (Key.bundle project)) :=
      (yields_dropBundle project).bind (yields_pure false)
    have hrebuild : Yields now store (rebuildBundle ttls project named) false
        (store.drop (Key.plain project .data)) :=
      (yields_read_of_none hdata).bind (yields_pure false)
    exact ⟨.ok false, _, hstored.bind hdrop,
      (yields_pure (some named)).bind (hrebuild.bind hdrop)⟩
  · obtain rfl := hsettings data hdata
    rw [hdata, Store.sift_of_document? hdata, Option.bind_some, hnamed] at hstored
    obtain ⟨result, reached, hrepair⟩ := exists_repair ttls now store project (some named)
    exact ⟨result, reached, hstored.bind hrepair, hrepair⟩

/-- After a document was stored, a backend that it names itself makes no difference to the repair. -/
theorem exists_repair_of_put (hplain : kind.Plain value)
    (hkey : Key.entry project kind requested = .ok key) (ttls : Ttls) (now : Nat) (store : Store) :
    ∃ result reached,
      EndsIn now (store.put key (ttls.entry now kind value)) (repairBundle ttls project requested)
        result reached ∧
      EndsIn now (store.put key (ttls.entry now kind value))
        (repairBundle ttls project (requested <|> kind.namedBackend value)) result reached := by
  have hsame : (requested <|> kind.namedBackend value) = requested →
      ∃ result reached,
        EndsIn now (store.put key (ttls.entry now kind value)) (repairBundle ttls project requested)
          result reached ∧
        EndsIn now (store.put key (ttls.entry now kind value))
          (repairBundle ttls project (requested <|> kind.namedBackend value)) result reached := by
    intro heq
    obtain ⟨result, reached, hrepair⟩ := exists_repair ttls now
      (store.put key (ttls.entry now kind value)) project requested
    exact ⟨result, reached, hrepair, heq.symm ▸ hrepair⟩
  rcases requested with _ | given
  · by_cases hkind : kind = .data
    · subst hkind
      obtain rfl : Key.plain project .data = key := Except.ok.inj hkey
      rcases hnamed : Project.agentsBackend value with _ | named
      · exact hsame hnamed
      · have hnamed' : (none <|> Kind.namedBackend .data value) = some named := hnamed
        rw [hnamed']
        refine exists_repair_named hnamed ?_ ttls
        exact fun data hdata => Store.eq_of_document?_put (Kind.decode_encode hplain) hdata
    · refine hsame ?_
      cases kind <;> first | rfl | exact absurd rfl hkind
  · exact hsame rfl

/-! ## The two protocols -/

/-- A repair that is known by its store is counted, and does not fail. -/
theorem repair_run {result : Except Error Bool} (hcalm : world.Calm now store)
    (hrange : ttls.InRange now)
    (hends : EndsIn now store (repairBundle ttls project requested) result reached) :
    ∃ built world', result = .ok built ∧
      repairBundle ttls project requested world = .ok built world' ∧ world'.Calm now reached ∧
      world'.counters = world.counters.repaired built := by
  obtain ⟨_, _, world', hrun, hcalm', rfl, rfl⟩ := hends world hcalm
  obtain ⟨-, _, hadds, built, rfl, rfl⟩ := (uses_repairBundle requested).of_ending
    ⟨hcalm.outages_eq, hcalm.now_eq.symm ▸ hrange⟩ hrun
  refine ⟨built, world', rfl, hrun, hcalm', ?_⟩
  rw [hadds.counters_eq]
  cases built <;> rfl

/-- A push goes on with the repair when the document is stored and counted. -/
theorem refresh_eq (houtages : world.outages = [])
    (hrange : world.now + (ttls.ofKind kind).nanos < Store.clockEnd)
    (hkey : Key.entry project kind backend = .ok key) (value : kind.Value) :
    refresh ttls project ⟨kind, value⟩ backend world
      = (do
          let _ ← repairBundle ttls project backend
          return ()) (world.keep ttls kind key value).refreshed := by
  have hset := set_of_inRange world houtages hrange key value
  rw [refresh, hkey]
  exact bind_of_ok hset

/-- A refresh that fetches a document goes on with the repair from the same store; it has counted a
miss, too. -/
theorem refreshWith_eq {fetch : Fetch kind} (houtages : world.outages = [])
    (hrange : world.now + (ttls.ofKind kind).nanos < Store.clockEnd)
    (hkey : Key.entry project kind backend = .ok key)
    (hfetch : (fetch (requestFor kind project backend)).Inquires (· = .ok value)) :
    ∃ fetched : World, fetched.Calm world.now (world.store.put key (ttls.entry world.now kind value)) ∧
      fetched.counters
        = { world.refreshed.counters with misses := world.counters.misses + 1 } ∧
      refreshWith ttls kind project backend fetch world
        = (do
            let _ ← repairBundle ttls project (backend <|> kind.namedBackend value)
            return value) fetched := by
  -- the key is clear when the document is looked up, so that it is fetched in any case
  have hmissing : (world.removed key).refreshed.store.document? kind.decode world.now key = none :=
    Store.document?_drop_self ..
  have hlookup : ∃ result last,
      get ttls kind project backend fetch (world.removed key).refreshed = ending result last ∧
        Lookup ttls kind key (requestFor kind project backend) fetch (· = .ok value)
          (world.removed key).refreshed result last := exists_lookup hkey hfetch hrange houtages
  obtain ⟨result, last, hrun, hlookup⟩ := hlookup
  rcases hlookup with hvalue | ⟨-, -, -, ⟨⟩⟩ | @⟨_, events, -, -, -, ⟨⟩⟩
  · cases hmissing.symm.trans hvalue
  · rw [get_eq hkey] at hrun
    refine ⟨(((world.removed key).refreshed.missed key (requestFor kind project backend)).after
      events).keep ttls kind key value, ⟨rfl, houtages, ?_⟩, rfl, ?_⟩
    · simp [World.keep, World.after, World.missed, World.refreshed, World.removed]
    · rw [refreshWith, hkey]
      show (CacheM.delete key >>= _) world = _
      rw [bind_of_ok (delete_eq world houtages key)]
      show (getOrCreate ttls kind key (requestFor kind project backend) fetch >>= _)
        (world.removed key).refreshed = _
      exact bind_of_ok hrun

/-- A repair keeps the documents of the project with their deadlines. -/
theorem Repaired.live?_of_document? {result : Except Error Bool}
    (h : Repaired ttls now project requested store result reached)
    (hkey : Key.entry project kind backend = .ok key)
    (hvalue : store.document? kind.decode now key = some value) :
    reached.live? now key = store.live? now key := by
  have hne := Key.entry_ne_bundle hkey
  have hkept : ∀ sifted : Store, store.Sifted now project sifted →
      sifted.live? now key = store.live? now key := by
    intro sifted hsifted
    rcases hsifted key with hsame | ⟨-, other, backend', hother, hnone⟩
    · exact hsame
    · obtain rfl := Key.kind_of_entry hkey hother
      cases hnone.symm.trans hvalue
  rcases h with - | hsifted | -
  · rw [Store.live?_put, if_neg hne.symm, hkept _ (store.sifted_siftInlineAgent now project)]
  · rw [Store.live?_drop, if_neg hne, hkept _ hsifted]
  · exact hkept _ (store.sifted_siftInlineAgent now project)

/-- A document that was stored and has outlived the repair is found until its deadline, and no fetch
function is asked. -/
theorem get_after_repair {built : Bool} {later : Nat} (hplain : kind.Plain value)
    (hkey : Key.entry project kind backend = .ok key) (hcalm : world.Calm now reached)
    (hrepaired : Repaired ttls now project requested
      (store.put key (ttls.entry now kind value)) (.ok built) reached)
    (hle : now ≤ later) (hlater : later < now + (ttls.ofKind kind).nanos) :
    ∃ last, (∀ fetch, get ttls kind project backend fetch { world with now := later }
        = .ok value last) ∧
      last.requests = world.requests ∧ last.store = world.store := by
  have hnew : (ttls.entry now kind value).isLive now :=
    decide_eq_true (Nat.lt_of_le_of_lt hle hlater)
  have hdecode : kind.decode (ttls.entry now kind value).value = .ok value :=
    Kind.decode_encode hplain
  have hput := Store.live?_put_self hnew store key
  have hlive := (hrepaired.live?_of_document? hkey (Store.document?_of_live hput hdecode)).trans hput
  have hfound : world.store.document? kind.decode later key = some value := by
    rw [hcalm.store_eq]
    exact Store.document?_of_live (Store.live?_of_lt_deadline hlive hlater) hdecode
  exact ⟨_, @get_of_document? kind project key backend { world with now := later }
    hcalm.outages_eq hkey value hfound ttls, rfl, rfl⟩

/-- Whatever the store holds, a document that is pushed and a refresh that fetches the same document
leave the same store, with the same deadlines and the same bundle; the refresh that fetches counts one
miss more. While the document lives a read then returns it, and asks no fetch function. -/
theorem refresh_agrees_with_refreshWith {fetch : Fetch kind} (hplain : kind.Plain value)
    (hkey : Key.entry project kind backend = .ok key)
    (hfetch : (fetch (requestFor kind project backend)).Inquires (· = .ok value))
    (hrange : ttls.InRange world.now) (houtages : world.outages = []) :
    ∃ pushed fetched,
      refresh ttls project ⟨kind, value⟩ backend world = .ok () pushed ∧
      refreshWith ttls kind project backend fetch world = .ok value fetched ∧
      fetched.store = pushed.store ∧
      fetched.counters = { pushed.counters with misses := pushed.counters.misses + 1 } ∧
      ∀ after ∈ [pushed, fetched], ∀ later, world.now ≤ later →
        later < world.now + (ttls.ofKind kind).nanos →
          ∃ last, (∀ fetch, get ttls kind project backend fetch { after with now := later }
              = .ok value last) ∧
            last.requests = after.requests ∧ last.store = after.store := by
  obtain ⟨result, reached, hpush, hrefetch⟩ :=
    exists_repair_of_put hplain hkey ttls world.now world.store
  have hkeep : (world.keep ttls kind key value).refreshed.Calm world.now
      (world.store.put key (ttls.entry world.now kind value)) := ⟨rfl, houtages, rfl⟩
  obtain ⟨start, hstart, hcounters, hrefreshWith⟩ :=
    refreshWith_eq houtages (hrange.ofKind kind) hkey hfetch
  obtain ⟨built, pushed, rfl, hpushed, hcalm, hcount⟩ := repair_run hkeep hrange hpush
  obtain ⟨_, fetched, ⟨⟩, hfetched, hcalm', hcount'⟩ := repair_run hstart hrange hrefetch
  refine ⟨pushed, fetched, ?_, ?_, hcalm'.store_eq.trans hcalm.store_eq.symm, ?_, ?_⟩
  · rw [refresh_eq houtages (hrange.ofKind kind) hkey]
    exact bind_of_ok hpushed
  · rw [hrefreshWith]
    exact bind_of_ok hfetched
  · rw [hcount, hcount', hcounters]
    rfl
  · intro after hafter later hle hlater
    obtain ⟨_, ⟨-, -, rfl⟩, hrepaired⟩ :=
      (ensures_repairBundle ttls world.now _ project backend).of_ending hkeep
        (show _ = ending (.ok built) pushed from hpushed)
    rw [hcalm.store_eq] at hrepaired
    simp only [List.mem_cons, List.not_mem_nil, or_false] at hafter
    rcases hafter with rfl | rfl
    · exact get_after_repair hplain hkey hcalm hrepaired hle hlater
    · exact get_after_repair hplain hkey hcalm' hrepaired hle hlater

/-- Settings that name their backend take the place of ones that do not decode, and the bundle is built
anew either way. -/
theorem refresh_agrees_with_refreshWith_of_null :
    let world : World := { now := 0, store := Store.lone.put (Key.plain "p" .data) ⟨.null, 1⟩ }
    ∃ pushed fetched,
      refresh .default "p" ⟨.data, .lone⟩ none world = .ok () pushed ∧
      refreshWith .default .data "p" none (fun _ => pure .lone) world = .ok .lone fetched ∧
      fetched.store = pushed.store ∧
      pushed.counters = { refreshes := 1, rebuilds := 1 } ∧
      fetched.counters = { refreshes := 1, rebuilds := 1, misses := 1 } := by
  intro world
  obtain ⟨_, built, hbuilt, hcounters⟩ : ∃ a built,
      refresh .default "p" ⟨.data, .lone⟩ none world = .ok a built ∧
        built.counters = { refreshes := 1, rebuilds := 1 } := by decide +kernel
  have hkey : Key.entry "p" .data none = .ok (Key.plain "p" .data) := rfl
  have hfetch : (pure .lone : CacheM Project).Inquires (· = .ok .lone) := inquires_pure rfl
  have hplain : Kind.Plain .data .lone := Project.plain_lone
  obtain ⟨pushed, fetched, hpushed, hfetched, hstore, hmiss, -⟩ :=
    @refresh_agrees_with_refreshWith .default .data "p" _ none world .lone (fun _ => pure .lone)
      hplain hkey hfetch Ttls.inRange_default rfl
  obtain ⟨-, rfl⟩ := EStateM.Result.ok.inj (hpushed.symm.trans hbuilt)
  rw [hcounters] at hmiss
  exact ⟨pushed, fetched, hpushed, hfetched, hstore, hcounters, hmiss⟩

end Cache

end ProjectCache
