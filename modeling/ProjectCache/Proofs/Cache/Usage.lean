/-
# ProjectCache.Proofs.Cache.Usage — what each operation on a cache counts.

Looking a document up is a hit, or a miss for which a fetch function is asked once
(`Cache.LookedUp`); a bundle is a hit, or a miss for which a source is asked for the settings and
then at most once for each of the other documents (`Cache.Served`). A repair builds the bundle or
drops it, and happens just when the operation does not fail (`Cache.Concluded`). Everything that an
operation counts is put together of these.
-/
import ProjectCache.Proofs.Cache.Metering

namespace ProjectCache

variable {α : Type} {ttls : Ttls} {project : String} {kind : Kind} {source : Source}

namespace Cache

open CacheM

/-! ## Reading -/

theorem isFree_read (decode : Decoder α) (key : String) : IsFree ttls (read decode key) := by
  unfold read
  refine (isFree_get key).bind fun found => ?_
  cases found with
  | none => exact isFree_pure none
  | some raw =>
    cases hdecode : decode raw with
    | ok value =>
      simp only [hdecode]
      exact isFree_pure (some value)
    | error e =>
      simp only [hdecode]
      refine (isFree_log _ _).bind fun _ => (isFree_delete key).bind fun _ => ?_
      exact isFree_pure none

/-- What is counted for a document that is looked up: it was there, or a fetch function was asked
once. -/
inductive LookedUp : Usage → Prop where
  | hit : LookedUp (.one .hits)
  | miss {others : Usage} (h : others.Outside) :
      LookedUp ((Usage.one .misses).plus ((Usage.one .asked).plus others))

theorem uses_getOrCreate {key : String} {request : Request} {fetch : Fetch kind}
    (hfetch : (fetch request).Uses ttls fun _ usage => usage.Outside) :
    (getOrCreate ttls kind key request fetch).Uses ttls fun _ usage => LookedUp usage := by
  unfold getOrCreate
  refine (isFree_read kind.decode key).bind fun found => ?_
  cases found with
  | some value => exact counts_hits.bind (uses_pure .hit)
  | none =>
    refine counts_misses.bind ((counts_asked request).bind (hfetch.bind ?_ ?_))
    · intro value others hothers
      refine (isFree_set_document key _ kind).bind fun _ => uses_pure ?_
      rw [Usage.plus_none]
      exact .miss hothers
    · exact fun e others hothers => .miss hothers

/-! ## Repairing a bundle -/

theorem uses_dropBundle : (dropBundle project).Uses ttls fun result usage =>
    result = .ok () ∧ usage = .one .drops := by
  unfold dropBundle
  exact (isFree_delete _).bind fun _ => counts_drops

/-- A bundle is built or it is not. -/
theorem uses_rebuildBundle (backend : String) :
    (rebuildBundle ttls project backend).Uses ttls fun result usage =>
      ∃ built, result = .ok built ∧ usage = if built then .one .rebuilds else .none := by
  have hmissing : Uses ttls (pure false : CacheM Bool) fun result usage =>
      ∃ built, result = .ok built ∧ usage = if built then .one .rebuilds else .none :=
    uses_pure ⟨false, rfl, rfl⟩
  unfold rebuildBundle
  refine (isFree_read _ _).bind fun data => ?_
  cases data with
  | none => exact hmissing
  | some data =>
  refine (isFree_read _ _).bind fun contentBase => ?_
  cases contentBase with
  | none => exact hmissing
  | some contentBase =>
  refine (isFree_read _ _).bind fun team => ?_
  cases team with
  | none => exact hmissing
  | some team =>
  refine (isFree_read _ _).bind fun guardrails => ?_
  cases guardrails with
  | none => exact hmissing
  | some guardrails =>
  refine (isFree_read _ _).bind fun inlineAgent => ?_
  refine (isFree_set fun _ hrange => hrange.bundle).bind fun _ => ?_
  exact counts_rebuilds.bind (uses_pure ⟨true, rfl, rfl⟩)

/-- A bundle is rebuilt for a known backend, or else dropped. -/
theorem uses_rebuildOrDrop (known : Option String) :
    Uses ttls (do
      match known with
      | some backend => if ← rebuildBundle ttls project backend then return true
      | none => pure ()
      dropBundle project
      return false) fun result usage =>
        ∃ built, result = .ok built ∧ usage = .one (if built then .rebuilds else .drops) := by
  have hdrop : Uses ttls (dropBundle project >>= fun _ => pure false) fun result usage =>
      ∃ built, result = .ok built ∧ usage = .one (if built then .rebuilds else .drops) :=
    Counts.bind uses_dropBundle (uses_pure ⟨false, rfl, rfl⟩)
  cases known with
  | none => exact hdrop
  | some backend =>
    refine (uses_rebuildBundle backend).bind ?_ ?_
    · rintro built _ ⟨_, ⟨⟩, rfl⟩
      cases built with
      | true => exact uses_pure ⟨true, rfl, rfl⟩
      | false => exact hdrop.mono fun result usage h => (Usage.none_plus usage).symm ▸ h
    · rintro e _ ⟨built, h, -⟩
      cases h

/-- A repair builds the bundle or drops it, and tells which. -/
theorem uses_repairBundle (requested : Option String) :
    (repairBundle ttls project requested).Uses ttls fun result usage =>
      ∃ built, result = .ok built ∧ usage = .one (if built then .rebuilds else .drops) := by
  unfold repairBundle
  cases requested with
  | some backend => exact uses_rebuildOrDrop (some backend)
  | none =>
    refine IsFree.bind ?_ uses_rebuildOrDrop
    exact (isFree_read _ _).bind fun _ => isFree_pure _

/-! ## Bundles that are fetched -/

/-- Why a bundle cannot be supplied: the source refuses one of its documents, or no backend was
requested and the settings name none. -/
inductive Unsupplied (source : Source) (project : String) (requested : Option String) :
    Error → Prop where
  | refused {kind : Kind} {backend : Option String} {e : Error}
      (hkind : kind ∈ Kind.required ++ Kind.optional)
      (hanswer : source.answer kind ⟨project, backend⟩ = .error e) :
      Unsupplied source project requested e
  | noBackend {data : Project} (hdata : source.answer .data ⟨project, none⟩ = .ok data)
      (hrequested : requested = none) (hnamed : data.agentsBackend = none) :
      Unsupplied source project requested (.configuration (.noBackendForBundle project))

/-- The kinds that are fetched for a bundle after the settings, in order. -/
def afterData : List Kind := [.contentBase, .team, .guardrails, .inlineAgent]

/-- The source was asked for the first of these kinds, once for each; a failure has a reason. -/
structure Fetched (kinds : List Kind) (reason : Error → Prop) (result : Except Error α)
    (usage : Usage) : Prop where
  usage_eq : ∃ asked, asked <+: kinds ∧ usage = .ofFetches asked
  reason : ∀ e, result = .error e → reason e

theorem Fetched.none {kinds : List Kind} {reason : Error → Prop} {result : Except Error α}
    (h : ∀ e, result = .error e → reason e) : Fetched kinds reason result .none :=
  ⟨⟨[], List.nil_prefix, Usage.ofFetches_nil.symm⟩, h⟩

theorem uses_fetch (kind : Kind) (request : Request) :
    (source.fetch kind request).Uses ttls fun result usage =>
      result = source.answer kind request ∧ usage = .one (.fetched kind) := by
  unfold Source.fetch
  refine (counts_fetched kind).bind ?_
  cases source.answer kind request with
  | ok value => exact uses_pure ⟨rfl, Usage.plus_none _⟩
  | error e => exact uses_throw ⟨rfl, Usage.plus_none _⟩

/-- A source that is used to fetch one document counts nothing in the cache. -/
theorem outside_fetch (source : Source) (kind : Kind) (request : Request) :
    (source.fetch kind request).Uses ttls fun _ usage => usage.Outside := by
  refine (uses_fetch kind request).mono ?_
  rintro _ _ ⟨-, rfl⟩ meter hmeter
  rw [Usage.one_apply, if_neg (hmeter kind)]

/-- A fetch that is followed by other fetches. -/
theorem uses_fetch_bind {β : Type} {request : Request} {f : kind.Value → CacheM β}
    {kinds : List Kind} {reason : Error → Prop}
    (hreason : ∀ e, source.answer kind request = .error e → reason e)
    (hf : ∀ value, source.answer kind request = .ok value →
      (f value).Uses ttls (Fetched kinds reason)) :
    (source.fetch kind request >>= f).Uses ttls fun result usage =>
      ∃ others, usage = (Usage.one (.fetched kind)).plus others ∧
        Fetched kinds reason result others := by
  refine (uses_fetch kind request).bind ?_ ?_
  · rintro value _ ⟨hvalue, rfl⟩
    exact (hf value hvalue.symm).mono fun result others h => ⟨others, rfl, h⟩
  · rintro e _ ⟨he, rfl⟩
    refine ⟨.none, (Usage.plus_none _).symm, .none ?_⟩
    rintro _ ⟨⟩
    exact hreason e he.symm

theorem uses_fetch_then {β : Type} {request : Request} {f : kind.Value → CacheM β}
    {kinds : List Kind} {reason : Error → Prop}
    (hreason : ∀ e, source.answer kind request = .error e → reason e)
    (hf : ∀ value, source.answer kind request = .ok value →
      (f value).Uses ttls (Fetched kinds reason)) :
    (source.fetch kind request >>= f).Uses ttls (Fetched (kind :: kinds) reason) := by
  refine (uses_fetch_bind hreason hf).mono ?_
  rintro result _ ⟨_, rfl, ⟨asked, hasked, rfl⟩, hresult⟩
  exact ⟨⟨kind :: asked, (List.prefix_cons_inj kind).2 hasked, Usage.one_plus_ofFetches kind asked⟩,
    hresult⟩

theorem uses_fetchBundle (data : Project) (backend : String) (requested : Option String) :
    (fetchBundle source project data backend).Uses ttls
      (Fetched afterData (Unsupplied source project requested)) := by
  unfold fetchBundle
  refine uses_fetch_then (fun _ => .refused (by decide)) fun contentBase _ => ?_
  refine uses_fetch_then (fun _ => .refused (by decide)) fun team _ => ?_
  refine uses_fetch_then (fun _ => .refused (by decide)) fun guardrails _ => ?_
  refine uses_fetch_then (fun _ => .refused (by decide)) fun inlineAgent _ => ?_
  refine uses_pure (.none ?_)
  rintro e ⟨⟩

theorem isFree_writeParts (backend : String) (bundle : Bundle) :
    IsFree ttls (writeParts ttls project backend bundle) := by
  unfold writeParts
  refine (isFree_set fun _ hrange => hrange.bundle).bind fun _ => ?_
  refine (isFree_set_document _ _ .data).bind fun _ => ?_
  refine (isFree_set_document _ _ .contentBase).bind fun _ => ?_
  refine (isFree_set_document _ _ .team).bind fun _ => ?_
  refine (isFree_set_document _ _ .guardrails).bind fun _ => ?_
  cases bundle.inlineAgent with
  | some inlineAgent => exact isFree_set_document _ _ .inlineAgent
  | none => exact isFree_pure ()

/-- What is counted for a bundle: it was there, or the source was asked for the settings and then at
most once for each of the other documents. -/
inductive Served (source : Source) (project : String) (requested : Option String) :
    Except Error Bundle → Usage → Prop where
  | hit (bundle : Bundle) : Served source project requested (.ok bundle) (.one .hits)
  | miss {result : Except Error Bundle} {others : Usage}
      (hfetched : Fetched afterData (Unsupplied source project requested) result others) :
      Served source project requested result
        ((Usage.one .misses).plus ((Usage.one (.fetched .data)).plus others))

theorem uses_supplyBundle (source : Source) (project : String) (requested : Option String) :
    (supplyBundle ttls source project requested).Uses ttls (Served source project requested) := by
  unfold supplyBundle
  refine counts_misses.bind (Uses.mono
    (uses_fetch_bind (fun _ => .refused (by decide)) fun data hdata => ?_) fun result usage
      (h : ∃ others, usage = (Usage.one (.fetched .data)).plus others ∧
        Fetched afterData (Unsupplied source project requested) result others) => ?_)
  · cases hbackend : requested <|> Project.agentsBackend data with
    | none =>
      refine uses_throw (.none ?_)
      rintro _ ⟨⟩
      cases requested with
      | none => exact .noBackend hdata rfl hbackend
      | some backend => cases hbackend
    | some backend =>
      refine (uses_fetchBundle data backend requested).bind ?_ ?_
      · rintro bundle usage ⟨husage, -⟩
        refine (isFree_writeParts backend bundle).bind fun _ => uses_pure ⟨husage, ?_⟩
        rintro e ⟨⟩
      · rintro e usage ⟨husage, hreason⟩
        refine ⟨husage, ?_⟩
        rintro _ ⟨⟩
        exact hreason e rfl
  · obtain ⟨others, rfl, hothers⟩ := h
    exact .miss hothers

theorem uses_getBundle (source : Source) (project : String) (requested : Option String) :
    (getBundle ttls source project requested).Uses ttls (Served source project requested) := by
  have hmiss : (supplyBundle ttls source project requested).Uses ttls
      (Served source project requested) := uses_supplyBundle source project requested
  unfold getBundle
  refine (isFree_read _ _).bind fun found => ?_
  cases found with
  | none => exact hmiss
  | some bundle =>
    cases hserves : bundle.serves requested with
    | false =>
      simp only [hserves, if_neg Bool.false_ne_true]
      exact hmiss
    | true =>
      simp only [hserves, if_true]
      exact counts_hits.bind (uses_pure (.hit bundle))

/-! ## Invalidating and refreshing -/

/-- What is counted for the bundle in the end: it is repaired, unless the operation has failed. -/
inductive Concluded : Except Error α → Usage → Prop where
  | repaired (a : α) {repair : Usage} (h : repair = .one .rebuilds ∨ repair = .one .drops) :
      Concluded (.ok a) repair
  | failed (e : Error) : Concluded (.error e) .none

theorem Concluded.of_repair (a : α) (built : Bool) :
    Concluded (.ok a) (.one (if built then .rebuilds else .drops)) := by
  cases built
  · exact .repaired a (.inr rfl)
  · exact .repaired a (.inl rfl)

theorem uses_repairBundle_bind (requested : Option String) (a : α) :
    (repairBundle ttls project requested >>= fun _ => pure a).Uses ttls Concluded := by
  refine (uses_repairBundle requested).bind ?_ ?_
  · rintro _ _ ⟨built, -, rfl⟩
    refine uses_pure ?_
    rw [Usage.plus_none]
    exact .of_repair a built
  · rintro e _ ⟨_, h, -⟩
    cases h

theorem uses_invalidate (kind : Kind) (project : String) (backend : Option String) :
    (invalidate ttls kind project backend).Uses ttls fun result usage =>
      ∃ rest, usage = (Usage.one .invalidations).plus rest ∧ Concluded result rest := by
  unfold invalidate
  refine counts_invalidations.bind ?_
  refine Uses.mono ?_ fun result rest h => ⟨rest, rfl, h⟩
  split
  · refine (uses_deletePattern _).bind ?_ ?_
    · rintro _ _ rfl
      refine uses_dropBundle.mono ?_
      rintro _ _ ⟨rfl, rfl⟩
      rw [Usage.none_plus]
      exact .repaired () (.inr rfl)
    · rintro e _ rfl
      exact .failed e
  · cases Key.entry project kind backend with
    | ok key => exact (isFree_delete key).bind fun _ => uses_repairBundle_bind backend ()
    | error e => exact uses_throw (.failed e)

theorem uses_invalidateProject (project : String) :
    (invalidateProject project).Uses ttls fun _ usage => usage = .one .invalidations := by
  unfold invalidateProject
  refine counts_invalidations.bind ((uses_deletePattern _).mono ?_)
  rintro _ _ rfl
  exact Usage.plus_none _

/-- Only a document that was stored is counted as a refresh. -/
theorem uses_refresh (project : String) (document : Document) (backend : Option String) :
    (refresh ttls project document backend).Uses ttls fun result usage =>
      ((∃ e, result = .error e) ∧ usage = .none) ∨
      result = .ok () ∧ ∃ rest, usage = (Usage.one .refreshes).plus rest ∧
        Concluded result rest := by
  unfold refresh
  cases Key.entry project document.kind backend with
  | error e => exact uses_throw (.inl ⟨⟨e, rfl⟩, rfl⟩)
  | ok key =>
    refine (isFree_set_document key _ _).bind fun _ => ?_
    refine counts_refreshes.bind ((uses_repairBundle backend).bind ?_ ?_)
    · rintro _ _ ⟨built, -, rfl⟩
      exact uses_pure (.inr ⟨rfl, _, rfl, .of_repair () built⟩)
    · rintro e _ ⟨_, h, -⟩
      cases h

/-- Whether it succeeds or not, a document that is fetched anew is counted as a refresh and looked
up once. -/
theorem uses_refreshWith {backend : Option String} {key : String} {fetch : Fetch kind}
    (hkey : Key.entry project kind backend = .ok key)
    (hfetch : (fetch (requestFor kind project backend)).Uses ttls fun _ usage => usage.Outside) :
    (refreshWith ttls kind project backend fetch).Uses ttls fun result usage =>
      ∃ lookup rest, usage = (Usage.one .refreshes).plus (lookup.plus rest) ∧ LookedUp lookup ∧
        Concluded result rest := by
  unfold refreshWith
  rw [hkey]
  refine (isFree_delete key).bind fun _ => counts_refreshes.bind ?_
  refine (uses_getOrCreate hfetch).bind ?_ ?_
  · intro value lookup hlookup
    exact (uses_repairBundle_bind _ value).mono fun result rest h => ⟨lookup, rest, rfl, hlookup, h⟩
  · exact fun e lookup hlookup => ⟨lookup, .none, rfl, hlookup, .failed e⟩

theorem uses_get {backend : Option String} {key : String} {fetch : Fetch kind}
    (hkey : Key.entry project kind backend = .ok key)
    (hfetch : (fetch (requestFor kind project backend)).Uses ttls fun _ usage => usage.Outside) :
    (get ttls kind project backend fetch).Uses ttls fun _ usage => LookedUp usage := by
  unfold get
  rw [hkey]
  exact uses_getOrCreate hfetch

end Cache
end ProjectCache
