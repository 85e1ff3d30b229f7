/-
# ProjectCache.Proofs.Cache.Writes — the cached store is well typed.

Whatever an operation on a project stores is a document that decodes as its kind, under the key of the
kind and for the time to live of the kind, or it is a bundle under the key of the bundle (`Written`).
That holds from every world, with any outages. So in a history of operations on projects whose
identifiers have no colon every entry fits its key, as a key names the same kind to all of them; and the
warning that a document in the store does not decode never comes (`Operation.writes_well_typed`).
-/
import ProjectCache.Proofs.Cache.Conduct

namespace ProjectCache

variable {α β : Type} {ttls : Ttls} {project key : String} {value : Json} {ttl : Span} {kind : Kind}
  {backend : Option String} {store reached : Store} {world world' last : World}

/-! ## Documents under their keys -/

/-- Under the key of a document of the project the value decodes as its kind, or under the key of the
bundle as a bundle. -/
inductive Fits (project key : String) (value : Json) : Prop where
  | document {kind : Kind} {backend : Option String} {v : kind.Value}
      (hkey : Key.entry project kind backend = .ok key) (hdecode : kind.decode value = .ok v) :
      Fits project key value
  | bundle {bundle : Bundle} (hkey : key = Key.bundle project)
      (hdecode : Bundle.decode value = .ok bundle) : Fits project key value

/-- The value fits its key, and the time to live is that of what the key names. -/
inductive Written (ttls : Ttls) (project : String) : String → Json → Span → Prop where
  | document {kind : Kind} {backend : Option String} {key : String} {value : Json} {v : kind.Value}
      (hkey : Key.entry project kind backend = .ok key) (hdecode : kind.decode value = .ok v) :
      Written ttls project key value (ttls.ofKind kind)
  | bundle {value : Json} {bundle : Bundle} (hdecode : Bundle.decode value = .ok bundle) :
      Written ttls project (Key.bundle project) value ttls.bundle

theorem Written.fits (h : Written ttls project key value ttl) : Fits project key value := by
  cases h with
  | document hkey hdecode => exact .document hkey hdecode
  | bundle hdecode => exact .bundle rfl hdecode

theorem Fits.inScope (h : Fits project key value) : Key.InScope project key := by
  cases h with
  | document hkey => exact Key.entry_inScope hkey
  | bundle hkey => exact hkey ▸ Key.bundle_inScope project

section Fits

variable {other : String} (hproject : ':' ∉ project.toList) (hother : ':' ∉ other.toList)

include hproject hother

/-- What fits a key decodes as the kind that the key names, whoever names it. -/
theorem Fits.decode (h : Fits other key value) (hkey : Key.entry project kind backend = .ok key) :
    ∃ v, kind.decode value = .ok v := by
  obtain rfl := Key.eq_of_inScope hproject hother (Key.entry_inScope hkey) h.inScope
  cases h with
  | document hkey' hdecode =>
    obtain rfl := Key.kind_of_entry hkey' hkey
    exact ⟨_, hdecode⟩
  | bundle hkey' => exact absurd hkey' (Key.entry_ne_bundle hkey)

theorem Fits.decode_bundle (h : Fits other (Key.bundle project) value) :
    ∃ bundle, Bundle.decode value = .ok bundle := by
  obtain rfl := Key.eq_of_inScope hproject hother (Key.bundle_inScope project) h.inScope
  cases h with
  | document hkey => exact absurd rfl (Key.entry_ne_bundle hkey)
  | bundle _ hdecode => exact ⟨_, hdecode⟩

end Fits

namespace Store

/-- Every entry, dead ones included, fits its key for a project without a colon in its identifier. -/
def WellTyped (store : Store) : Prop :=
  ∀ key entry, store.entries.find? key = some entry →
    ∃ project, ':' ∉ project.toList ∧ Fits project key entry.value

theorem WellTyped.put (h : store.WellTyped) {entry : Entry} (hproject : ':' ∉ project.toList)
    (hfits : Fits project key entry.value) : (store.put key entry).WellTyped := by
  intro k e hfind
  rw [find?_put] at hfind
  split at hfind
  · rename_i hkey
    obtain rfl := Option.some.inj hfind
    exact ⟨project, hproject, hkey ▸ hfits⟩
  · exact h k e hfind

theorem WellTyped.drop (h : store.WellTyped) (key : String) : (store.drop key).WellTyped := by
  intro k e hfind
  rw [find?_drop] at hfind
  split at hfind
  · cases hfind
  · exact h k e hfind

theorem WellTyped.without (h : store.WellTyped) (tokens : List Glob.Token) :
    (store.without tokens).WellTyped := by
  intro k e hfind
  rw [find?_without] at hfind
  split at hfind
  · cases hfind
  · exact h k e hfind

end Store

/-! ## What happens to a world -/

/-- Nothing is written that does not fit. -/
def Happening.Lawful (ttls : Ttls) (project : String) : Happening → Prop
  | .stored key value ttl _ => Written ttls project key value ttl
  | _ => True

namespace World

/-- From the first world to the second only lawful things have happened. -/
def Advances (ttls : Ttls) (project : String) (world world' : World) : Prop :=
  ∃ news, world'.trace = news ++ world.trace ∧ ∀ happening ∈ news, happening.Lawful ttls project

theorem Advances.trans (h : world.Advances ttls project world')
    (h' : world'.Advances ttls project last) : world.Advances ttls project last := by
  obtain ⟨news, htrace, hnews⟩ := h
  obtain ⟨news', htrace', hnews'⟩ := h'
  refine ⟨news' ++ news, by rw [htrace', htrace, List.append_assoc], ?_⟩
  intro happening hmem
  exact (List.mem_append.1 hmem).elim (hnews' happening) (hnews happening)

theorem Advances.record {happening : Happening} (h : happening.Lawful ttls project) (world : World) :
    world.Advances ttls project (world.record happening) :=
  ⟨[happening], rfl, fun _ hmem => List.mem_singleton.1 hmem ▸ h⟩

/-- The store is well typed, and nothing in it has failed to decode so far. -/
structure Sound (world : World) : Prop where
  typed : world.store.WellTyped
  kept : .dropped ∉ world.trace

/-- Only lawful things have happened, and a world that was sound still is. -/
structure Tended (ttls : Ttls) (project : String) (world world' : World) : Prop where
  advances : world.Advances ttls project world'
  sound : ':' ∉ project.toList → world.Sound → world'.Sound

namespace Tended

theorem of_same (hstore : world'.store = world.store) (htrace : world'.trace = world.trace) :
    world.Tended ttls project world' where
  advances := ⟨[], htrace, nofun⟩
  sound _ h := ⟨hstore ▸ h.typed, htrace ▸ h.kept⟩

theorem trans (h : world.Tended ttls project world') (h' : world'.Tended ttls project last) :
    world.Tended ttls project last where
  advances := h.advances.trans h'.advances
  sound hproject hsound := h'.sound hproject (h.sound hproject hsound)

/-- Something lawful is noted, and the store stays well typed. -/
theorem record {happening : Happening} (hlawful : happening.Lawful ttls project)
    (hkept : happening ≠ .dropped)
    (htyped : ':' ∉ project.toList → world.store.WellTyped → reached.WellTyped) :
    world.Tended ttls project ({ world with store := reached }.record happening) where
  advances := .record hlawful { world with store := reached }
  sound hproject h := ⟨htyped hproject h.typed,
    fun hmem => (List.mem_cons.1 hmem).elim hkept.symm h.kept⟩

end Tended

end World

namespace CacheM

/-- Every run of the operation is lawful. -/
def Abides (ttls : Ttls) (project : String) (m : CacheM α) : Prop :=
  ∀ world result world', m world = ending result world' → world.Tended ttls project world'

theorem Abides.bind {m : CacheM α} {f : α → CacheM β} (hm : m.Abides ttls project)
    (hf : ∀ a world world', m world = .ok a world' → (f a).Abides ttls project) :
    (m >>= f).Abides ttls project := by
  intro world result world' hrun
  obtain ⟨a, middle, hfirst, hsecond⟩ | ⟨e, hfirst, -⟩ := ending_of_bind hrun
  · exact (hm world (.ok a) middle hfirst).trans
      (hf a world middle hfirst middle result world' hsecond)
  · exact hm world (.error e) world' hfirst

/-- Log lines are lawful. -/
theorem Abides.reported {m m' : CacheM α} (hm : m.Abides ttls project) (h : m.Reports m') :
    m'.Abides ttls project := by
  intro world result world' hrun
  obtain ⟨result', middle, hmiddle⟩ := ending_surjective (m world)
  obtain ⟨lines, hlines, hreported⟩ := h world result' middle hmiddle
  obtain ⟨-, rfl⟩ := ending_inj (hrun.symm.trans hreported)
  refine (hm world result' middle hmiddle).trans ⟨⟨lines, rfl, ?_⟩, fun _ hsound => ⟨hsound.typed, ?_⟩⟩
  · intro line hline
    obtain ⟨level, text, rfl, -⟩ := hlines line hline
    trivial
  · intro hmem
    refine (List.mem_append.1 hmem).elim (fun hline => ?_) hsound.kept
    obtain ⟨level, text, -, hother⟩ := hlines _ hline
    exact hother rfl

theorem abides_ending {m : CacheM α} (h : ∀ world, ∃ result world', m world = ending result world' ∧
    world.Tended ttls project world') : m.Abides ttls project := by
  intro world result world' hrun
  obtain ⟨_, _, hrun', htended⟩ := h world
  obtain ⟨-, rfl⟩ := ending_inj (hrun.symm.trans hrun')
  exact htended

theorem abides_ofExcept (result : Except Error α) : (ofExcept result).Abides ttls project := by
  refine abides_ending fun world => ⟨result, world, ?_, .of_same rfl rfl⟩
  cases result <;> rfl

theorem abides_count (change : Counters → Counters) : (count change).Abides ttls project :=
  abides_ending fun world =>
    ⟨.ok (), { world with counters := change world.counters }, rfl, .of_same rfl rfl⟩

theorem abides_note {happening : Happening} (hlawful : happening.Lawful ttls project)
    (hkept : happening ≠ .dropped) : (note happening).Abides ttls project :=
  abides_ending fun world => ⟨.ok (), world.record happening, rfl, .record hlawful hkept fun _ h => h⟩

/-! ### Calls of the store -/

theorem abides_set (h : Written ttls project key value ttl) :
    (set key value ttl).Abides ttls project := by
  refine abides_ending fun world => ?_
  unfold set
  split
  · exact ⟨.error _, _, rfl, .record h nofun fun _ htyped => htyped⟩
  · rw [Store.set_eq]
    by_cases hrange : world.now + ttl.nanos < Store.clockEnd
    · rw [if_pos hrange]
      exact ⟨.ok (), _, rfl, .record h nofun fun hproject htyped => htyped.put hproject h.fits⟩
    · rw [if_neg hrange]
      exact ⟨.error _, _, rfl, .record h nofun fun _ htyped => htyped⟩

theorem abides_delete (key : String) : (delete key).Abides ttls project := by
  refine abides_ending fun world => ?_
  unfold delete
  split
  · exact ⟨.error _, _, rfl, .record trivial nofun fun _ htyped => htyped⟩
  · exact ⟨.ok _, _, rfl, .record trivial nofun fun _ htyped => htyped.drop key⟩

theorem abides_deletePattern (pattern : String) :
    (deletePattern pattern).Abides ttls project := by
  refine abides_ending fun world => ?_
  unfold deletePattern
  split
  · exact ⟨.error _, _, rfl, .record trivial nofun fun _ htyped => htyped⟩
  · rw [Store.deletePattern_eq]
    cases Store.readPattern pattern with
    | ok tokens => exact ⟨.ok _, _, rfl, .record trivial nofun fun _ htyped => htyped.without tokens⟩
    | error cause => exact ⟨.error _, _, rfl, .record trivial nofun fun _ htyped => htyped⟩

/-- What is read is the value of an entry. -/
theorem tended_of_get {result : Except Error (Option Json)}
    (h : get key world = ending result world') :
    world.Tended ttls project world' ∧ ∀ raw, result = .ok (some raw) →
      ∃ entry, world.store.entries.find? key = some entry ∧ entry.value = raw := by
  unfold get at h
  split at h
  · obtain ⟨rfl, rfl⟩ := ending_inj (show ending (.error _) _ = ending result world' from h)
    exact ⟨.record trivial nofun fun _ htyped => htyped, nofun⟩
  · have hfound := world.store.get_fst world.now key
    have hreached := world.store.get_snd world.now key
    generalize world.store.get world.now key = got at h hfound hreached
    obtain ⟨found, reached⟩ := got
    obtain ⟨rfl, rfl⟩ := ending_inj (show ending (.ok found) _ = ending result world' from h)
    refine ⟨.record trivial nofun fun _ htyped => ?_, ?_⟩
    · rw [show reached = _ from hreached]
      split
      · exact htyped
      · exact htyped.drop key
    · rintro raw ⟨⟩
      obtain ⟨entry, hlive, hvalue⟩ := Option.map_eq_some_iff.1 hfound.symm
      exact ⟨entry, (Option.filter_eq_some_iff.1 hlive).1, hvalue⟩

end CacheM

namespace Cache

/-- In a well typed store what is read decodes. -/
theorem abides_read {decode : Decoder α}
    (hdecodes : ':' ∉ project.toList → ∀ store : Store, store.WellTyped →
      ∀ entry, store.entries.find? key = some entry → ∃ a, decode entry.value = .ok a) :
    (read decode key).Abides ttls project := by
  intro world result world' hrun
  unfold read at hrun
  obtain ⟨found, middle, hget, hfound⟩ | ⟨e, hget, -⟩ := CacheM.ending_of_bind hrun
  rotate_left
  · exact (CacheM.tended_of_get (show _ = CacheM.ending (.error e) world' from hget)).1
  obtain ⟨htended, hentry⟩ :=
    CacheM.tended_of_get (show _ = CacheM.ending (.ok found) middle from hget)
  cases found with
  | none =>
    obtain ⟨-, rfl⟩ := CacheM.ending_inj (show CacheM.ending (.ok none) middle = _ from hfound)
    exact htended
  | some raw =>
    cases hraw : decode raw with
    | ok a =>
      simp only [hraw] at hfound
      obtain ⟨-, rfl⟩ := CacheM.ending_inj (show CacheM.ending (.ok (some a)) middle = _ from hfound)
      exact htended
    | error e =>
      simp only [hraw] at hfound
      have hrest : (middle.record .dropped).Tended ttls project world' :=
        (CacheM.abides_delete key).bind (fun _ _ _ _ => CacheM.abides_ofExcept (.ok none)) _ _ _ hfound
      have hlawful : Happening.dropped.Lawful ttls project := trivial
      have hdropped := World.Advances.record hlawful middle
      refine ⟨htended.advances.trans (hdropped.trans hrest.advances), ?_⟩
      -- this branch is not taken in a well typed store
      intro hproject hsound
      obtain ⟨entry, hfind, rfl⟩ := hentry raw rfl
      obtain ⟨a, ha⟩ := hdecodes hproject world.store hsound.typed entry hfind
      cases hraw.symm.trans ha

end Cache

/-! ## Operations -/

/-- Fetching leaves the store alone, makes no writes and no complaints of a cache, and returns only what
satisfies a condition. -/
def CacheM.Brings (m : CacheM α) (returns : α → Prop) : Prop :=
  ∀ world result world', m world = ending result world' → world'.store = world.store ∧
    (∃ news, world'.trace = news ++ world.trace ∧ .dropped ∉ news ∧
      ∀ key value ttl outcome, .stored key value ttl outcome ∉ news) ∧
    ∀ a, result = .ok a → returns a

theorem CacheM.Brings.abides {m : CacheM α} {returns : α → Prop} (h : m.Brings returns) :
    m.Abides ttls project := by
  intro world result world' hrun
  obtain ⟨hstore, ⟨news, htrace, hkept, hnone⟩, -⟩ := h world result world' hrun
  refine ⟨⟨news, htrace, ?_⟩, fun _ hsound => ⟨hstore ▸ hsound.typed, ?_⟩⟩
  · intro happening hmem
    cases happening with
    | stored key value ttl outcome => exact absurd hmem (hnone key value ttl outcome)
    | _ => trivial
  · rw [htrace]
    exact fun hmem => (List.mem_append.1 hmem).elim hkept hsound.kept

/-- Plain documents may be stored, and fetches bring them. -/
def Terms.honest (ttls : Ttls) : Terms where
  ttls := ttls
  Good := Kind.Plain
  Fetchable kind m := m.Brings kind.Plain
  good_of_decode := Kind.plain_of_decode
  good_of_fetch h hrun := (h _ (.ok _) _ hrun).2.2 _ rfl

namespace Cache

/-- Operations that are made of steps on a project write what fits. -/
theorem Conduct.abides {m : CacheM α} {returns : α → Prop}
    (h : Conduct (.honest ttls) project m returns) : m.Abides ttls project := by
  -- by induction on the conduct; the values that are stored are known to be plain, and so they decode
  induction h with
  | value => exact CacheM.abides_ofExcept (.ok _)
  | failure e => exact CacheM.abides_ofExcept (.error e)
  | counted change => exact CacheM.abides_count change
  | asked | fetched => exact CacheM.abides_note trivial nofun
  | fetch hfetch => exact hfetch.abides
  | read hkey =>
    refine abides_read fun hproject store htyped entry hfind => ?_
    obtain ⟨other, hother, hfits⟩ := htyped _ entry hfind
    exact hfits.decode hproject hother hkey
  | readBundle =>
    refine abides_read fun hproject store htyped entry hfind => ?_
    obtain ⟨other, hother, hfits⟩ := htyped _ entry hfind
    exact hfits.decode_bundle hproject hother
  | write hkey hplain => exact CacheM.abides_set (.document hkey (Kind.decode_encode hplain))
  | writeBundle hgood =>
    have hplain : Bundle.Plain _ := ⟨hgood.data, hgood.project, hgood.contentBase, hgood.team,
      hgood.guardrails, hgood.inlineAgent⟩
    exact CacheM.abides_set (.bundle (Bundle.decode_encode hplain))
  | delete => exact CacheM.abides_delete _
  | deleteRosters | deleteAll => exact CacheM.abides_deletePattern _
  | andThen hm _ ihm ihf => exact ihm.bind fun a _ _ hrun => ihf a (hm.returns hrun)
  | reported _ hreports ih => exact ih.reported hreports

end Cache

namespace Operation

/-- What callers owe: documents that are fetched or pushed are plain, and fetch functions do nothing else
to the cache. They may fail. -/
def Honest : Operation → Prop
  | .get kind project backend fetch | .refreshWith kind project backend fetch =>
    (fetch (Cache.requestFor kind project backend)).Brings kind.Plain
  | .getBundle source _ _ | .turn source _ => source.Plain
  | .refresh _ document _ => document.kind.Plain document.value
  | _ => True

theorem abides_run {operation : Operation} (howner : operation.owner = .project project)
    (hhonest : operation.Honest) (config : CacheConfig) :
    (operation.run config).Abides config.ttls project := by
  have hkeeps : operation.Keeps (.honest config.ttls) := by
    cases operation <;> exact hhonest
  exact (conduct_run howner rfl hkeeps).abides

end Operation

/-- The worlds that histories lead to: they start with an empty store, honest operations are carried out
on projects without a colon in their identifiers, and may fail, and the clock is set in between. -/
inductive World.Attained (config : CacheConfig) : World → Prop where
  | start (now : Nat) : Attained config { now }
  | wait {world : World} (hworld : Attained config world) (later : Nat) :
      Attained config { world with now := later }
  | step {world world' : World} {operation : Operation} {project : String}
      {result : Except Error Answer} (hworld : Attained config world)
      (howner : operation.owner = .project project) (hproject : ':' ∉ project.toList)
      (hhonest : operation.Honest)
      (hrun : operation.run config world = CacheM.ending result world') : Attained config world'

theorem World.Attained.sound {config : CacheConfig} (h : world.Attained config) : world.Sound := by
  -- by induction on the history: each operation keeps the world sound
  induction h with
  | start now => exact ⟨fun key entry hfind => (nomatch hfind), List.not_mem_nil⟩
  | wait _ later ih => exact ⟨ih.typed, ih.kept⟩
  | step _ howner hproject hhonest hrun ih =>
    exact (Operation.abides_run howner hhonest config _ _ _ hrun).sound hproject ih

/-- Each write of an operation on a project, from any world and whether or not it succeeds, is of a
value that decodes as the kind that its key names, for the time to live of that kind. So in every world
that a history leads to each live entry is one of a project and decodes as what its key names, and no
operation has found one that does not. -/
theorem Operation.writes_well_typed (config : CacheConfig) :
    (∀ (operation : Operation) (project : String) (world : World) (result : Except Error Answer)
      (world' : World), operation.owner = .project project → operation.Honest →
      operation.run config world = CacheM.ending result world' →
      ∃ news, world'.trace = news ++ world.trace ∧ ∀ key value ttl outcome,
        .stored key value ttl outcome ∈ news → Written config.ttls project key value ttl) ∧
    ∀ world, World.Attained config world → .dropped ∉ world.trace ∧
      (∀ key entry, world.store.live? world.now key = some entry →
        ∃ project, ':' ∉ project.toList ∧ Fits project key entry.value) ∧
      ∀ project, ':' ∉ project.toList →
        (∀ kind backend key entry, Key.entry project kind backend = .ok key →
          world.store.live? world.now key = some entry → ∃ v, kind.decode entry.value = .ok v) ∧
        ∀ entry, world.store.live? world.now (Key.bundle project) = some entry →
          ∃ bundle, Bundle.decode entry.value = .ok bundle := by
  constructor
  · intro operation project world result world' howner hhonest hrun
    obtain ⟨news, htrace, hnews⟩ := (abides_run howner hhonest config _ _ _ hrun).advances
    exact ⟨news, htrace, fun key value ttl outcome hmem => hnews _ hmem⟩
  · intro world hworld
    have hsound := hworld.sound
    have hfits : ∀ key entry, world.store.live? world.now key = some entry →
        ∃ project, ':' ∉ project.toList ∧ Fits project key entry.value :=
      fun key entry hlive => hsound.typed key entry (Option.filter_eq_some_iff.1 hlive).1
    refine ⟨hsound.kept, hfits, fun project hproject => ⟨?_, ?_⟩⟩
    · intro kind backend key entry hkey hlive
      obtain ⟨other, hother, hentry⟩ := hfits key entry hlive
      exact hentry.decode hproject hother hkey
    · intro entry hlive
      obtain ⟨other, hother, hentry⟩ := hfits _ entry hlive
      exact hentry.decode_bundle hproject hother

/-- Fetching a bundle writes five entries, each of which fits its key. -/
theorem Operation.writes_well_typed_of_lone : ∃ result world news,
    Operation.owner (.getBundle (.sole .lone) "p" none) = .project "p" ∧
    Operation.Honest (.getBundle (.sole .lone) "p" none) ∧
    Operation.run {} (.getBundle (.sole .lone) "p" none) { now := 0 }
      = CacheM.ending result world ∧
    world.trace = news ++ [] ∧
    (∀ key value ttl outcome, .stored key value ttl outcome ∈ news →
      Written .default "p" key value ttl) ∧
    World.Attained {} world ∧ .dropped ∉ world.trace ∧
    (world.store.keys world.now).length = 5 ∧
    ∀ key entry, world.store.live? world.now key = some entry →
      ∃ project, ':' ∉ project.toList ∧ Fits project key entry.value := by
  obtain ⟨bundle, world, hbundle, hkeys⟩ : ∃ bundle world,
      Cache.getBundle .default (.sole .lone) "p" none { now := 0 } = .ok bundle world ∧
      (world.store.keys world.now).length = 5 := by decide +kernel
  have hhonest : Operation.Honest (.getBundle (.sole .lone) "p" none) :=
    Source.plain_sole Project.plain_lone
  have hrun : Operation.run {} (.getBundle (.sole .lone) "p" none) { now := 0 }
      = CacheM.ending (.ok (.bundle bundle)) world := CacheM.map_of_ok hbundle Answer.bundle
  obtain ⟨hwrites, hworlds⟩ := Operation.writes_well_typed {}
  obtain ⟨news, htrace, hnews⟩ := hwrites _ "p" _ _ world rfl hhonest hrun
  have hattained : World.Attained {} world := .step (.start 0) rfl (by decide) hhonest hrun
  obtain ⟨hkept, hfits, -⟩ := hworlds world hattained
  exact ⟨_, world, news, rfl, hhonest, hrun, htrace, hnews, hattained, hkept, hkeys, hfits⟩

end ProjectCache
