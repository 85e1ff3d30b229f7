/-
# ProjectCache.Proofs.Cache.Outcomes — what the operations of a cache come to.

For each operation a type lists the ways in which it can end, with the store that it leaves: reading
through the cache (`Cache.Created`), reading a bundle (`Cache.Bundled`), and the writes that end in a
repair (`Cache.Refreshed`, `Cache.Refetched`, `Cache.Invalidated`). What holds of a cache after any
operation is shown by going through these ways; the operations are not unfolded again.
-/
import ProjectCache.Proofs.Cache.Repair
import ProjectCache.Proofs.Source

namespace ProjectCache

variable {now : Nat} {store : Store} {ttls : Ttls} {kind : Kind} {project key : String}

namespace Cache

/-! ## Reading through the cache -/

/-- What reading through the cache comes to. -/
inductive Created (ttls : Ttls) (now : Nat) (kind : Kind) (key : String)
    (outcome : Except Error kind.Value → Prop) (store : Store) :
    Except Error kind.Value → Store → Prop where
  /-- The document is there. -/
  | present {value : kind.Value} (hvalue : store.document? kind.decode now key = some value) :
      Created ttls now kind key outcome store (.ok value) store
  /-- The document is missing, and there is none to store. -/
  | failed {e : Error} (hmissing : store.document? kind.decode now key = none)
      (hcause : outcome (.error e) ∨ ∃ value, outcome (.ok value) ∧
        ¬ now + (ttls.ofKind kind).nanos < Store.clockEnd) :
      Created ttls now kind key outcome store (.error e) (store.drop key)
  /-- The document is missing, and is fetched and stored. -/
  | created {value : kind.Value} (hmissing : store.document? kind.decode now key = none)
      (hfetched : outcome (.ok value)) (hrange : now + (ttls.ofKind kind).nanos < Store.clockEnd) :
      Created ttls now kind key outcome store (.ok value)
        (store.put key (ttls.entry now kind value))

theorem ensures_getOrCreate {request : Request} {fetch : Fetch kind}
    {outcome : Except Error kind.Value → Prop} (hfetch : (fetch request).FetchesAt now outcome)
    (ttls : Ttls) (store : Store) (key : String) :
    CacheM.Ensures now store (getOrCreate ttls kind key request fetch)
      (Created ttls now kind key outcome store) := by
  unfold getOrCreate
  refine ensures_read_bind kind.decode (fun value hvalue => ?_) fun hmissing => ?_
  · exact (CacheM.yields_count _).bind (CacheM.ensures_pure (.present hvalue))
  · refine (CacheM.yields_count _).bind ((CacheM.yields_note _).bind ?_)
    refine (hfetch (store.drop key)).bind ?_ ?_
    · rintro value _ ⟨hvalue, rfl⟩
      refine CacheM.ensures_set_bind (fun hrange => CacheM.ensures_pure ?_) fun hrange => ?_
      · rw [Store.put_drop]
        exact .created hmissing hvalue hrange
      · exact .failed hmissing (.inr ⟨value, hvalue, hrange⟩)
    · rintro e _ ⟨he, rfl⟩
      exact .failed hmissing (.inl he)

/-- A document that has a key is read under it. -/
theorem ensures_get_of_entry {backend : Option String} {fetch : Fetch kind}
    {outcome : Except Error kind.Value → Prop} (hkey : Key.entry project kind backend = .ok key)
    (hfetch : (fetch (requestFor kind project backend)).FetchesAt now outcome) (ttls : Ttls)
    (store : Store) :
    CacheM.Ensures now store (get ttls kind project backend fetch)
      (Created ttls now kind key outcome store) := by
  unfold get
  rw [hkey]
  exact (CacheM.yields_pure key).bind (ensures_getOrCreate hfetch ttls store key)

/-- A document has a key, or the read ends before it begins. -/
theorem ensures_get {backend : Option String} {fetch : Fetch kind}
    {outcome : Except Error kind.Value → Prop}
    (hfetch : (fetch (requestFor kind project backend)).Fetches outcome) (ttls : Ttls) (now : Nat)
    (store : Store) :
    CacheM.Ensures now store (get ttls kind project backend fetch) fun result reached =>
      (∃ key, Key.entry project kind backend = .ok key ∧
        Created ttls now kind key outcome store result reached) ∨
      (∃ e, Key.entry project kind backend = .error e ∧ result = .error e) ∧ reached = store := by
  cases hkey : Key.entry project kind backend with
  | error e =>
    unfold get
    rw [hkey]
    exact CacheM.ensures_ofExcept_error_bind (.inr ⟨⟨e, rfl, rfl⟩, rfl⟩)
  | ok key =>
    exact (ensures_get_of_entry hkey (hfetch now) ttls store).mono fun result reached h =>
      .inl ⟨key, rfl, h⟩

/-- A read touches its own key alone. -/
theorem Created.live?_of_ne {outcome : Except Error kind.Value → Prop}
    {result : Except Error kind.Value} {reached : Store} {other : String}
    (h : Created ttls now kind key outcome store result reached) (hother : other ≠ key) :
    reached.live? now other = store.live? now other := by
  cases h with
  | present => rfl
  | failed => rw [Store.live?_drop, if_neg hother]
  | created => rw [Store.live?_put, if_neg hother.symm]

/-! ## Reading a bundle -/

end Cache

/-- The store with a bundle and each of the documents in it. -/
def Store.withParts (store : Store) (ttls : Ttls) (now : Nat) (project backend : String)
    (bundle : Bundle) : Store :=
  let stored := ((((store.put (Key.bundle project) (ttls.bundleEntry now bundle)).put
    (Key.plain project .data) (ttls.entry now .data bundle.data)).put
    (Key.plain project .contentBase) (ttls.entry now .contentBase bundle.contentBase)).put
    (Key.team project backend) (ttls.entry now .team bundle.team)).put
    (Key.plain project .guardrails) (ttls.entry now .guardrails bundle.guardrails)
  match bundle.inlineAgent with
  | some inlineAgent =>
    stored.put (Key.plain project .inlineAgent) (ttls.entry now .inlineAgent (some inlineAgent))
  | none => stored

/-- The document of a kind in a bundle. -/
def Bundle.part (bundle : Bundle) : (kind : Kind) → Option kind.Value
  | .data => some bundle.data
  | .contentBase => some bundle.contentBase
  | .team => some bundle.team
  | .guardrails => some bundle.guardrails
  | .inlineAgent => bundle.inlineAgent.map some
  | .instructions | .agent => none

/-- The documents of a plain bundle are plain. -/
theorem Bundle.Plain.part {bundle : Bundle} (h : bundle.Plain) {value : kind.Value}
    (hvalue : bundle.part kind = some value) : kind.Plain value := by
  cases kind with
  | data => exact Option.some.inj hvalue ▸ h.data
  | contentBase => exact Option.some.inj hvalue ▸ h.contentBase
  | team => exact Option.some.inj hvalue ▸ h.team
  | guardrails => exact Option.some.inj hvalue ▸ h.guardrails
  | inlineAgent =>
    obtain ⟨inlineAgent, hinlineAgent, rfl⟩ := Option.map_eq_some_iff.1 hvalue
    rintro a ⟨⟩
    exact h.inlineAgent _ hinlineAgent
  | instructions => cases hvalue
  | agent => cases hvalue

/-- The keys of the documents hold what the bundle has of their kind, or else what they held. -/
theorem Store.find?_withParts_entry (kind : Kind) (store : Store) (bundle : Bundle) {backend : String}
    (hkey : Key.entry project kind (some backend) = .ok key) :
    (store.withParts ttls now project backend bundle).entries.find? key
      = ((bundle.part kind).map (ttls.entry now kind)).or (store.entries.find? key) := by
  unfold withParts
  rcases Key.entry_eq_ok_iff.1 hkey with ⟨rfl, b, hb, rfl⟩ | ⟨hkind, rfl⟩
  · obtain rfl := Option.some.inj hb
    cases bundle.inlineAgent <;> simp [Bundle.part]
  · cases hinline : bundle.inlineAgent <;> cases kind <;> simp_all [Bundle.part]

theorem Store.find?_withParts_bundle (store : Store) (backend : String) (bundle : Bundle) :
    (store.withParts ttls now project backend bundle).entries.find? (Key.bundle project)
      = some (ttls.bundleEntry now bundle) := by
  unfold withParts
  cases bundle.inlineAgent <;> simp

theorem Store.find?_withParts_of_not_inScope (store : Store) (backend : String) (bundle : Bundle)
    (hkey : ¬ Key.InScope project key) :
    (store.withParts ttls now project backend bundle).entries.find? key
      = store.entries.find? key := by
  have hplain : ∀ kind, Key.plain project kind ≠ key := by
    rintro kind rfl
    exact hkey (Key.plain_inScope project kind)
  have hteam : Key.team project backend ≠ key := by
    rintro rfl
    exact hkey (Key.team_inScope project backend)
  have hbundle : Key.bundle project ≠ key := by
    rintro rfl
    exact hkey (Key.bundle_inScope project)
  unfold withParts
  cases bundle.inlineAgent <;> simp [hplain, hteam, hbundle]

/-- The store of a cache that has read the bundle of a single project. -/
def Store.lone : Store :=
  empty.withParts .default 0 "p" "b"
    ((Bundle.ofParts .lone { uuid := "c" } [] {} none).withBackend "b")

namespace Cache

/-- What reading a bundle comes to. -/
inductive Bundled (ttls : Ttls) (now : Nat) (source : Source) (project : String)
    (requested : Option String) (store : Store) : Except Error Bundle → Store → Prop where
  /-- A bundle is there that serves the request. -/
  | present {bundle : Bundle}
      (hbundle : store.document? Bundle.decode now (Key.bundle project) = some bundle)
      (hserves : bundle.serves requested) :
      Bundled ttls now source project requested store (.ok bundle) store
  /-- No bundle serves the request, and a document cannot be fetched or no backend is known. -/
  | failed {e : Error}
      (hmiss : ∀ bundle, store.document? Bundle.decode now (Key.bundle project) = some bundle →
        bundle.serves requested = false) :
      Bundled ttls now source project requested store (.error e)
        (store.sift Bundle.decode now (Key.bundle project))
  /-- No bundle serves the request, and one is fetched and stored with its documents. -/
  | fetched {bundle : Bundle} {backend : String}
      (hmiss : ∀ bundle, store.document? Bundle.decode now (Key.bundle project) = some bundle →
        bundle.serves requested = false)
      (hbundle : source.Supplies project backend bundle)
      (hbackend : (requested <|> bundle.data.agentsBackend) = some backend) :
      Bundled ttls now source project requested store (.ok bundle)
        ((store.sift Bundle.decode now (Key.bundle project)).withParts ttls now project backend
          bundle)

theorem yields_writeParts (hrange : ttls.InRange now) (store : Store) (project backend : String)
    (bundle : Bundle) :
    CacheM.Yields now store (writeParts ttls project backend bundle) ()
      (store.withParts ttls now project backend bundle) := by
  unfold writeParts writeBundle Store.withParts
  refine (CacheM.yields_set hrange.bundle).bind ?_
  refine (CacheM.yields_set (hrange.ofKind .data)).bind ?_
  refine (CacheM.yields_set (hrange.ofKind .contentBase)).bind ?_
  refine (CacheM.yields_set (hrange.ofKind .team)).bind ?_
  refine (CacheM.yields_set (hrange.ofKind .guardrails)).bind ?_
  cases bundle.inlineAgent with
  | some inlineAgent => exact CacheM.yields_set (hrange.ofKind .inlineAgent)
  | none => exact CacheM.yields_pure ()

/-- What every new entry of the bundle and its documents preserves holds after they are stored, also
when one of them would live too long and ends it. -/
theorem ensures_writeParts (holds : Store → Prop) {project backend : String} {bundle : Bundle}
    (hbundle : ∀ store, holds store →
      holds (store.put (Key.bundle project) (ttls.bundleEntry now bundle)))
    (hpart : ∀ store kind value, bundle.part kind = some value → holds store →
      holds (store.put (Key.part project kind backend) (ttls.entry now kind value)))
    (h : holds store) :
    CacheM.Ensures now store (writeParts ttls project backend bundle)
      fun _ reached => holds reached := by
  unfold writeParts writeBundle
  refine CacheM.ensures_set_bind (fun _ => ?_) fun _ => h
  replace h := hbundle _ h
  refine CacheM.ensures_set_bind (fun _ => ?_) fun _ => h
  replace h := hpart _ .data bundle.data rfl h
  refine CacheM.ensures_set_bind (fun _ => ?_) fun _ => h
  replace h := hpart _ .contentBase bundle.contentBase rfl h
  refine CacheM.ensures_set_bind (fun _ => ?_) fun _ => h
  replace h := hpart _ .team bundle.team rfl h
  refine CacheM.ensures_set_bind (fun _ => ?_) fun _ => h
  replace h := hpart _ .guardrails bundle.guardrails rfl h
  cases hinlineAgent : bundle.inlineAgent with
  | none => exact CacheM.ensures_pure h
  | some inlineAgent =>
    refine CacheM.ensures_set (fun _ => hpart _ .inlineAgent (some inlineAgent) ?_ h) fun _ => h
    rw [Bundle.part, hinlineAgent]
    rfl

/-- Fetching the documents of a bundle leaves the store alone. -/
theorem fetchBundle_fetches {source : Source} {data : Project}
    (hdata : source.answer .data ⟨project, none⟩ = .ok data) (backend : String) :
    (fetchBundle source project data backend).Fetches fun result => ∀ bundle,
      result = .ok bundle → source.Supplies project backend bundle ∧ bundle.data = data := by
  unfold fetchBundle
  refine source.fetches_bind .contentBase fun contentBase hcontentBase => ?_
  refine source.fetches_bind .team fun team hteam => ?_
  refine source.fetches_bind .guardrails fun guardrails hguardrails => ?_
  refine source.fetches_bind .inlineAgent fun inlineAgent hinlineAgent => ?_
  apply CacheM.fetches_pure
  exact ⟨⟨hdata, rfl, hcontentBase, hteam, hguardrails, hinlineAgent, rfl⟩, rfl⟩

/-- What a cache does for the bundle of a project when it holds none that serves the request. -/
def supplyBundle (ttls : Ttls) (source : Source) (project : String) (requested : Option String) :
    CacheM Bundle := do
  CacheM.count fun c => { c with misses := c.misses + 1 }
  let data ← source.fetch .data ⟨project, none⟩
  match requested <|> Project.agentsBackend data with
  | none => throw (.configuration (.noBackendForBundle project))
  | some backend =>
    let bundle ← fetchBundle source project data backend
    writeParts ttls project backend bundle
    return bundle

/-- A bundle is supplied when the source answers with all its documents and a backend is known; what
is left is to store them. -/
theorem ensures_supplyBundle {store : Store} {source : Source} {project : String}
    {requested : Option String} {goal : Except Error Bundle → Store → Prop}
    (hfailed : ∀ e, goal (.error e) store)
    (hfetched : ∀ bundle backend, source.Supplies project backend bundle →
      (requested <|> bundle.data.agentsBackend) = some backend →
        CacheM.Ensures now store (writeParts ttls project backend bundle) fun result reached =>
          goal (result.map fun _ => bundle) reached) :
    CacheM.Ensures now store (supplyBundle ttls source project requested) goal := by
  unfold supplyBundle
  refine (CacheM.yields_count _).bind ?_
  refine source.ensures_fetch_bind .data (fun data hdata => ?_) fun e _ => hfailed e
  cases hbackend : requested <|> Project.agentsBackend data with
  | none => exact CacheM.ensures_throw (hfailed _)
  | some backend =>
    refine (fetchBundle_fetches hdata backend now _).bind ?_ ?_
    · rintro bundle _ ⟨hbundle, rfl⟩
      obtain ⟨hsupplies, rfl⟩ := hbundle bundle rfl
      exact (hfetched bundle backend hsupplies hbackend).bind
        (fun _ _ hgoal => CacheM.ensures_pure hgoal) fun _ _ hgoal => hgoal
    · rintro e _ ⟨-, rfl⟩
      exact hfailed e

/-- A bundle that serves the request is returned, and otherwise one is supplied. -/
theorem ensures_getBundle_of {store : Store} {source : Source} {project : String}
    {requested : Option String} {goal : Except Error Bundle → Store → Prop}
    (hpresent : ∀ bundle, store.document? Bundle.decode now (Key.bundle project) = some bundle →
      bundle.serves requested → goal (.ok bundle) store)
    (hmiss : (∀ bundle, store.document? Bundle.decode now (Key.bundle project) = some bundle →
      bundle.serves requested = false) →
        CacheM.Ensures now (store.sift Bundle.decode now (Key.bundle project))
          (supplyBundle ttls source project requested) goal) :
    CacheM.Ensures now store (getBundle ttls source project requested) goal := by
  unfold getBundle
  refine (yields_read now store Bundle.decode (Key.bundle project)).bind ?_
  cases hbundle : store.document? Bundle.decode now (Key.bundle project) with
  | none =>
    refine hmiss fun bundle h => ?_
    rw [hbundle] at h
    cases h
  | some bundle =>
    cases hserves : bundle.serves requested with
    | true =>
      rw [Store.sift_of_document? hbundle]
      simp only [hserves, if_true]
      exact (CacheM.yields_count _).bind (CacheM.ensures_pure (hpresent bundle hbundle hserves))
    | false =>
      simp only [hserves, if_neg Bool.false_ne_true]
      refine hmiss fun other h => ?_
      rw [hbundle] at h
      obtain rfl := Option.some.inj h
      exact hserves

theorem ensures_getBundle (hrange : ttls.InRange now) (store : Store) (source : Source)
    (project : String) (requested : Option String) :
    CacheM.Ensures now store (getBundle ttls source project requested)
      (Bundled ttls now source project requested store) := by
  refine ensures_getBundle_of (fun _ => .present) fun hmiss => ?_
  refine ensures_supplyBundle (fun _ => .failed hmiss) fun bundle backend hbundle hbackend => ?_
  refine (yields_writeParts hrange _ project backend bundle).mono ?_
  rintro _ _ ⟨rfl, rfl⟩
  exact .fetched hmiss hbundle hbackend

/-! ## Refreshing -/

/-- What pushing a document comes to. -/
inductive Refreshed (ttls : Ttls) (now : Nat) (project : String) (document : Document)
    (backend : Option String) (store : Store) : Except Error Unit → Store → Prop where
  /-- A roster without a backend has no key. -/
  | keyless {e : Error} (hkey : Key.entry project document.kind backend = .error e) :
      Refreshed ttls now project document backend store (.error e) store
  /-- The document would live too long. -/
  | refused {e : Error} (hrange : ¬ now + (ttls.ofKind document.kind).nanos < Store.clockEnd) :
      Refreshed ttls now project document backend store (.error e) store
  /-- The document is stored, and the bundle is repaired. -/
  | repaired {key : String} {built : Except Error Bool} {reached : Store}
      (hkey : Key.entry project document.kind backend = .ok key)
      (hrange : now + (ttls.ofKind document.kind).nanos < Store.clockEnd)
      (hreached : Repaired ttls now project backend
        (store.put key (ttls.entry now document.kind document.value)) built reached) :
      Refreshed ttls now project document backend store (built.map fun _ => ()) reached

/-- What follows a repair whose answer is not used. -/
theorem ensures_repairBundle_bind {β : Type} {requested : Option String} {f : Bool → CacheM β}
    {goal : Except Error β → Store → Prop} {b : β} (hf : ∀ built, f built = pure b)
    (h : ∀ built reached, Repaired ttls now project requested store built reached →
      goal (built.map fun _ => b) reached) :
    CacheM.Ensures now store (repairBundle ttls project requested >>= f) goal := by
  refine (ensures_repairBundle ttls now store project requested).bind ?_ ?_
  · intro built reached hreached
    rw [hf]
    exact CacheM.ensures_pure (h (.ok built) reached hreached)
  · exact fun e reached hreached => h (.error e) reached hreached

theorem ensures_refresh (ttls : Ttls) (now : Nat) (store : Store) (project : String)
    (document : Document) (backend : Option String) :
    CacheM.Ensures now store (refresh ttls project document backend)
      (Refreshed ttls now project document backend store) := by
  unfold refresh
  cases hkey : Key.entry project document.kind backend with
  | error e => exact CacheM.ensures_ofExcept_error_bind (.keyless hkey)
  | ok key =>
    refine (CacheM.yields_pure key).bind ?_
    refine CacheM.ensures_set_bind (fun hrange => ?_) fun hrange => .refused hrange
    refine (CacheM.yields_count _).bind ?_
    exact ensures_repairBundle_bind (fun _ => rfl) fun built reached h => .repaired hkey hrange h

/-- What fetching a document anew comes to. -/
inductive Refetched (ttls : Ttls) (now : Nat) (kind : Kind) (project : String)
    (backend : Option String) (outcome : Except Error kind.Value → Prop) (store : Store) :
    Except Error kind.Value → Store → Prop where
  /-- A roster without a backend has no key. -/
  | keyless {e : Error} (hkey : Key.entry project kind backend = .error e) :
      Refetched ttls now kind project backend outcome store (.error e) store
  /-- There is no new document to store, and the old one is gone; the bundle is not looked at. -/
  | failed {key : String} {e : Error} (hkey : Key.entry project kind backend = .ok key)
      (hcause : outcome (.error e) ∨ ∃ value, outcome (.ok value) ∧
        ¬ now + (ttls.ofKind kind).nanos < Store.clockEnd) :
      Refetched ttls now kind project backend outcome store (.error e) (store.drop key)
  /-- The new document is stored, and the bundle is repaired. -/
  | repaired {key : String} {value : kind.Value} {built : Except Error Bool} {reached : Store}
      (hkey : Key.entry project kind backend = .ok key) (hfetched : outcome (.ok value))
      (hrange : now + (ttls.ofKind kind).nanos < Store.clockEnd)
      (hreached : Repaired ttls now project (backend <|> kind.namedBackend value)
        (store.put key (ttls.entry now kind value)) built reached) :
      Refetched ttls now kind project backend outcome store (built.map fun _ => value) reached

theorem ensures_refreshWith_at {backend : Option String} {fetch : Fetch kind}
    {outcome : Except Error kind.Value → Prop}
    (hfetch : (fetch (requestFor kind project backend)).FetchesAt now outcome) (ttls : Ttls)
    (store : Store) :
    CacheM.Ensures now store (refreshWith ttls kind project backend fetch)
      (Refetched ttls now kind project backend outcome store) := by
  unfold refreshWith
  cases hkey : Key.entry project kind backend with
  | error e => exact CacheM.ensures_ofExcept_error_bind (.keyless hkey)
  | ok key =>
    refine (CacheM.yields_pure key).bind ((CacheM.yields_delete key).bind ?_)
    refine (CacheM.yields_count _).bind ?_
    refine (ensures_getOrCreate hfetch ttls (store.drop key) key).bind ?_ ?_
    · intro value reached hcreated
      cases hcreated with
      -- the document has just been deleted, so the read cannot find it
      | present hvalue =>
        rw [Store.document?_drop_self] at hvalue
        cases hvalue
      | created hmissing hfetched hrange =>
        rw [Store.put_drop]
        exact ensures_repairBundle_bind (fun _ => rfl) fun built reached h =>
          .repaired hkey hfetched hrange h
    · intro e reached hcreated
      cases hcreated with
      | failed hmissing hcause =>
        rw [Store.drop_drop]
        exact .failed hkey hcause

theorem ensures_refreshWith {backend : Option String} {fetch : Fetch kind}
    {outcome : Except Error kind.Value → Prop}
    (hfetch : (fetch (requestFor kind project backend)).Fetches outcome) (ttls : Ttls) (now : Nat)
    (store : Store) :
    CacheM.Ensures now store (refreshWith ttls kind project backend fetch)
      (Refetched ttls now kind project backend outcome store) :=
  ensures_refreshWith_at (hfetch now) ttls store

/-! ## Invalidating -/

/-- What an invalidation comes to. -/
inductive Invalidated (ttls : Ttls) (now : Nat) (kind : Kind) (project : String)
    (backend : Option String) (store : Store) : Except Error Unit → Store → Prop where
  /-- The document is gone, and the bundle is repaired. -/
  | repaired {key : String} {built : Except Error Bool} {reached : Store}
      (hkey : Key.entry project kind backend = .ok key)
      (hreached : Repaired ttls now project backend (store.drop key) built reached) :
      Invalidated ttls now kind project backend store (built.map fun _ => ()) reached
  /-- All rosters are gone, and the bundle with them. -/
  | rosters {tokens : List Glob.Token} (hkind : kind = .team) (hbackend : backend = none)
      (htokens : Glob.ofText (Key.teamPattern project) = .ok tokens) :
      Invalidated ttls now kind project backend store (.ok ())
        ((store.without tokens).drop (Key.bundle project))
  /-- The identifier of the project makes no pattern. -/
  | unreadable {fault : Glob.Fault} {e : Error} (hkind : kind = .team) (hbackend : backend = none)
      (hfault : Glob.ofText (Key.teamPattern project) = .error fault) :
      Invalidated ttls now kind project backend store (.error e) store

theorem ensures_invalidate (ttls : Ttls) (now : Nat) (store : Store) (kind : Kind)
    (project : String) (backend : Option String) :
    CacheM.Ensures now store (invalidate ttls kind project backend)
      (Invalidated ttls now kind project backend store) := by
  unfold invalidate
  refine (CacheM.yields_count _).bind ?_
  cases hkey : Key.entry project kind backend with
  | ok key =>
    have hrosters : ¬ (kind.isPerBackend && backend.isNone) = true := by
      intro h
      rw [Bool.and_eq_true, Kind.isPerBackend, decide_eq_true_iff, Option.isNone_iff_eq_none] at h
      obtain ⟨rfl, rfl⟩ := h
      cases hkey
    rw [if_neg hrosters]
    refine (CacheM.yields_pure key).bind ((CacheM.yields_delete key).bind ?_)
    exact ensures_repairBundle_bind (fun _ => rfl) fun built reached h => .repaired hkey h
  | error e =>
    obtain ⟨rfl, rfl⟩ := Key.entry_eq_error hkey
    have hrosters : (Kind.team.isPerBackend && (none : Option String).isNone) = true := rfl
    rw [if_pos hrosters]
    refine (CacheM.ensures_deletePattern _).bind ?_ ?_
    · rintro n reached (⟨tokens, htokens, -, rfl⟩ | ⟨⟨_, _, -, he⟩, -⟩)
      · refine (yields_dropBundle project).mono ?_
        rintro _ _ ⟨rfl, rfl⟩
        exact .rosters rfl rfl htokens
      · cases he
    · rintro e reached (⟨tokens, -, he, -⟩ | ⟨⟨fault, _, hfault, -⟩, rfl⟩)
      · cases he
      · exact .unreadable rfl rfl hfault

/-- All that a pattern matches of a project goes, or nothing when the identifier makes no pattern. -/
theorem ensures_invalidateProject (now : Nat) (store : Store) (project : String) :
    CacheM.Ensures now store (invalidateProject project) fun result reached =>
      (∃ tokens, Glob.ofText (Key.projectPattern project) = .ok tokens ∧
        result = .ok (store.matchCount now tokens) ∧ reached = store.without tokens) ∨
      (∃ fault e, Glob.ofText (Key.projectPattern project) = .error fault ∧ result = .error e) ∧
        reached = store := by
  unfold invalidateProject
  exact (CacheM.yields_count _).bind (CacheM.ensures_deletePattern _)

end Cache

end ProjectCache
