/-
# ProjectCache.Proofs.Cache.SelfHealing — a repair leaves what the stored documents make.

Pushing, refetching and deleting one document of a project all end in a repair. When such an operation
succeeds, the bundle of the project is the one that the documents make, as they stand after the change
(`Store.mend`), or there is none. The bundle of before has no part in it: one that is stale, or of
another backend, or that does not decode is replaced all the same.
-/
import ProjectCache.Cache.Operation
import ProjectCache.Proofs.Cache.Outcomes

namespace ProjectCache

variable {now : Nat} {project key : String} {backend requested : Option String} {ttls : Ttls}
  {kind : Kind} {store other reached : Store}

namespace Store

/-! ## The documents of a project -/

/-- Both stores have the same documents of the project. -/
def SameDocuments (store other : Store) (now : Nat) (project : String) : Prop :=
  ∀ kind backend key, Key.entry project kind backend = .ok key →
    store.document? kind.decode now key = other.document? kind.decode now key

namespace SameDocuments

theorem plain (h : store.SameDocuments other now project) (kind : Kind) (hkind : kind ≠ .team) :
    store.document? kind.decode now (Key.plain project kind)
      = other.document? kind.decode now (Key.plain project kind) :=
  h kind none _ (Key.entry_of_ne_team hkind project none)

/-- The same documents make the same bundle. -/
theorem assemble_eq (h : store.SameDocuments other now project) (backend : String) :
    store.assemble now project backend = other.assemble now project backend := by
  have hdata := h.plain .data nofun
  have hcontentBase := h.plain .contentBase nofun
  have hteam := h .team (some backend) _ (Key.entry_team project backend)
  have hguardrails := h.plain .guardrails nofun
  have hinlineAgent : store.inlineAgent? now project = other.inlineAgent? now project :=
    congrArg (Option.getD · none) (h.plain .inlineAgent nofun)
  rw [assemble, assemble, hdata, hcontentBase, hteam, hguardrails, hinlineAgent]

theorem mend_eq (h : store.SameDocuments other now project) (requested : Option String) :
    store.mend now project requested = other.mend now project requested := by
  have hdata := h.plain .data nofun
  have hbackend : store.repairBackend now project requested
      = other.repairBackend now project requested := by
    rw [repairBackend, repairBackend, hdata]
  rw [mend, mend, hbackend]
  exact congrArg _ (funext h.assemble_eq)

/-- Bundles are no documents. -/
theorem of_live? (h : ∀ key, key ≠ Key.bundle project → store.live? now key = other.live? now key) :
    store.SameDocuments other now project :=
  fun kind _ key hkey => document?_congr (h key (Key.entry_ne_bundle hkey)) kind.decode

end SameDocuments

/-! ## Changes of one document -/

/-- The store with a document under the key, or with nothing there. -/
def replace (store : Store) (ttls : Ttls) (now : Nat) (key : String) : Option Document → Store
  | some document => store.put key (ttls.entry now document.kind document.value)
  | none => store.drop key

/-- After the same change stores that agreed on a key still do. -/
theorem live?_replace_congr (h : store.live? now key = other.live? now key) (ttls : Ttls)
    (changed : String) (document : Option Document) :
    (store.replace ttls now changed document).live? now key
      = (other.replace ttls now changed document).live? now key := by
  cases document with
  | some document => rw [replace, replace, live?_put, live?_put, h]
  | none => rw [replace, replace, live?_drop, live?_drop, h]

/-- Without settings there is no bundle. -/
theorem mend_eq_none_of_data
    (h : store.document? (Kind.decode .data) now (Key.plain project .data) = none)
    (requested : Option String) : store.mend now project requested = none := by
  rw [mend, Option.bind_eq_none_iff]
  intro backend _
  rw [assemble, h]
  rfl

/-- A backend that new settings name themselves is the one that is found in them once they are
stored. -/
theorem mend_put_namedBackend {value : kind.Value} (hplain : kind.Plain value)
    (hkey : Key.entry project kind requested = .ok key) :
    (store.put key (ttls.entry now kind value)).mend now project
        (requested <|> kind.namedBackend value)
      = (store.put key (ttls.entry now kind value)).mend now project requested := by
  cases requested with
  | some backend => rfl
  | none =>
    cases kind with
    | data =>
      obtain rfl : Key.plain project .data = key := Except.ok.inj hkey
      cases hdata : (store.put (Key.plain project .data) (ttls.entry now .data value)).document?
        (Kind.decode .data) now (Key.plain project .data) with
      -- settings that are dead at once name no backend, but there is no bundle without them either
      | none => rw [mend_eq_none_of_data hdata, mend_eq_none_of_data hdata]
      | some data =>
        obtain rfl : data = value := eq_of_document?_put (Kind.decode_encode hplain) hdata
        have hfound : (store.put (Key.plain project .data) (ttls.entry now .data data)).repairBackend
            now project none = Project.agentsBackend data := by
          rw [repairBackend, hdata]
          rfl
        rw [mend, mend, hfound]
        show Option.bind (repairBackend _ now project (Project.agentsBackend data)) _ = _
        cases hbackend : Project.agentsBackend data with
        | some backend => rfl
        | none => rw [hfound, hbackend]
    | _ => rfl

end Store

namespace Cache

/-- A repair that does not fail leaves the bundle that the documents make, and the documents. -/
theorem Repaired.mends {built : Bool}
    (h : Repaired ttls now project requested store (.ok built) reached) :
    reached.entries.find? (Key.bundle project)
        = (store.mend now project requested).map (ttls.bundleEntry now) ∧
      reached.SameDocuments store now project := by
  have hput : ∀ (sifted : Store) entry, store.Sifted now project sifted →
      (sifted.put (Key.bundle project) entry).SameDocuments store now project := by
    intro sifted entry hsifted kind backend key hkey
    rw [← hsifted.document?_eq hkey]
    refine Store.document?_congr ?_ kind.decode
    rw [Store.live?_put, if_neg (Key.entry_ne_bundle hkey).symm]
  have hdrop : ∀ sifted : Store, store.Sifted now project sifted →
      (sifted.drop (Key.bundle project)).SameDocuments store now project := by
    intro sifted hsifted kind backend key hkey
    rw [← hsifted.document?_eq hkey]
    refine Store.document?_congr ?_ kind.decode
    rw [Store.live?_drop, if_neg (Key.entry_ne_bundle hkey)]
  cases h with
  | rebuilt hbackend hbundle hrange =>
    refine ⟨?_, hput _ _ (store.sifted_siftInlineAgent now project)⟩
    rw [Store.find?_put, if_pos rfl, Store.mend, hbackend, Option.bind_some, hbundle]
    rfl
  | dropped hsifted hbundle =>
    refine ⟨?_, hdrop _ hsifted⟩
    rw [Store.find?_drop, if_pos rfl, hbundle]
    rfl

end Cache

/-! ## Operations that end in a repair -/

namespace Operation

/-- The operations that change the document of a kind and repair the bundle of the project. All
rosters at once are no single document, and have no repair. Documents that are fetched are plain. -/
inductive Repairs (project : String) (backend : Option String) : Kind → Operation → Prop where
  | invalidate {kind : Kind} (hroster : kind = .team → backend ≠ none) :
      Repairs project backend kind (.invalidate kind project backend)
  | refresh (document : Document) :
      Repairs project backend document.kind (.refresh project document backend)
  | refreshWith {kind : Kind} {fetch : Fetch kind}
      (hfetch : (fetch (Cache.requestFor kind project backend)).Fetches
        fun result => ∀ value, result = .ok value → kind.Plain value) :
      Repairs project backend kind (.refreshWith kind project backend fetch)

/-- The document that an operation has written. -/
def written : Operation → Answer → Option Document
  | .refresh _ document _, _ => some document
  | .refreshWith .., .document document => some document
  | _, _ => none

/-- An operation that ends in a repair and succeeds has changed its document, and then repaired the
bundle. -/
theorem Repairs.ensures_run {operation : Operation} (h : operation.Repairs project backend kind)
    (config : CacheConfig) (now : Nat) (store : Store) :
    CacheM.Ensures now store (operation.run config) fun result reached => ∀ answer,
      result = .ok answer → ∃ key, Key.entry project kind backend = .ok key ∧
        ∀ changed, changed = store.replace config.ttls now key (operation.written answer) →
          reached.entries.find? (Key.bundle project)
              = (changed.mend now project backend).map (config.ttls.bundleEntry now) ∧
            reached.SameDocuments changed now project := by
  cases h with
  | invalidate hroster =>
    refine CacheM.Ensures.map ((Cache.ensures_invalidate config.ttls now store kind project
      backend).mono ?_)
    intro result reached hinvalidated answer hanswer
    cases hinvalidated with
    | @repaired key built _ hkey hreached =>
      cases built with
      | ok built =>
        refine ⟨key, hkey, ?_⟩
        rintro _ rfl
        exact hreached.mends
      | error e => cases hanswer
    | rosters hkind hbackend => exact absurd hbackend (hroster hkind)
    | unreadable => cases hanswer
  | refresh document =>
    refine CacheM.Ensures.map ((Cache.ensures_refresh config.ttls now store project document
      backend).mono ?_)
    intro result reached hrefreshed answer hanswer
    cases hrefreshed with
    | keyless => cases hanswer
    | refused => cases hanswer
    | @repaired key built _ hkey _ hreached =>
      cases built with
      | ok built =>
        refine ⟨key, hkey, ?_⟩
        rintro _ rfl
        exact hreached.mends
      | error e => cases hanswer
  | refreshWith hfetch =>
    refine CacheM.Ensures.map ((Cache.ensures_refreshWith hfetch config.ttls now store).mono ?_)
    intro result reached hrefetched answer hanswer
    cases hrefetched with
    | keyless => cases hanswer
    | failed => cases hanswer
    | @repaired key value built _ hkey hfetched _ hreached =>
      cases built with
      | ok built =>
        obtain rfl := Except.ok.inj hanswer
        refine ⟨key, hkey, ?_⟩
        rintro _ rfl
        obtain ⟨hbundle, hdocuments⟩ := hreached.mends
        rw [Store.mend_put_namedBackend (hfetched value rfl) hkey] at hbundle
        exact ⟨hbundle, hdocuments⟩
      | error e => cases hanswer

/-- Whatever a store holds, after an operation that ends in a repair and succeeds the bundle is the
one that the documents make for the given backend, or else for the one that the settings name, as they
stand after the change; without such a bundle there is none. The documents are those of the change,
and the bundle of before makes no difference. -/
theorem Repairs.bundle_of_documents {operation : Operation} {config : CacheConfig}
    {world world' : World} {answer : Answer} (h : operation.Repairs project backend kind)
    (houtages : world.outages = []) (hrun : operation.run config world = .ok answer world') :
    ∃ key changed, Key.entry project kind backend = .ok key ∧
      changed = world.store.replace config.ttls world.now key (operation.written answer) ∧
      world'.store.entries.find? (Key.bundle project)
        = (changed.mend world.now project backend).map (config.ttls.bundleEntry world.now) ∧
      world'.store.SameDocuments changed world.now project ∧
      ∀ twin twin' : World, twin.now = world.now → twin.outages = [] →
        (∀ key, key ≠ Key.bundle project →
          twin.store.live? world.now key = world.store.live? world.now key) →
        operation.run config twin = .ok answer twin' →
          twin'.store.entries.find? (Key.bundle project)
            = world'.store.entries.find? (Key.bundle project) := by
  have hends : ∀ start last : World, start.outages = [] →
      operation.run config start = .ok answer last → ∃ key,
        Key.entry project kind backend = .ok key ∧ ∀ changed,
          changed = start.store.replace config.ttls start.now key (operation.written answer) →
            last.store.entries.find? (Key.bundle project)
                = (changed.mend start.now project backend).map (config.ttls.bundleEntry start.now) ∧
              last.store.SameDocuments changed start.now project := by
    intro start last hstart hlast
    obtain ⟨reached, hcalm, hreached⟩ :=
      (h.ensures_run config start.now start.store).of_ending ⟨rfl, hstart, rfl⟩
        (show operation.run config start = CacheM.ending (.ok answer) last from hlast)
    rw [hcalm.store_eq]
    exact hreached answer rfl
  obtain ⟨key, hkey, hchanged⟩ := hends world world' houtages hrun
  obtain ⟨hbundle, hdocuments⟩ := hchanged _ rfl
  refine ⟨key, _, hkey, rfl, hbundle, hdocuments, ?_⟩
  intro twin twin' hnow htwin hagrees hrun'
  obtain ⟨key', hkey', hchanged'⟩ := hends twin twin' htwin hrun'
  obtain rfl := Except.ok.inj (hkey.symm.trans hkey')
  obtain ⟨hbundle', -⟩ := hchanged' _ rfl
  -- the two stores differ in the bundle alone, and so do they after the change
  have hsame := Store.SameDocuments.of_live? fun other hother =>
    Store.live?_replace_congr (hagrees other hother) config.ttls key (operation.written answer)
  rw [hbundle', hbundle, hnow, hsame.mend_eq]

/-- Pushing a document replaces a bundle that does not decode. -/
theorem Repairs.bundle_of_documents_of_stale : ∃ world answer world',
    world = { now := 0, store := Store.lone.put (Key.bundle "p") ⟨.string "stale", 1⟩ } ∧
    Operation.run {} (.refresh "p" ⟨.guardrails, {}⟩ none) world = .ok answer world' ∧
    world'.store.entries.find? (Key.bundle "p") = Store.lone.entries.find? (Key.bundle "p") ∧
    ∃ key changed, Key.entry "p" .guardrails none = .ok key ∧
      changed = world.store.replace .default 0 key (some ⟨.guardrails, {}⟩) ∧
      world'.store.entries.find? (Key.bundle "p")
        = (changed.mend 0 "p" none).map (Ttls.default.bundleEntry 0) := by
  obtain ⟨answer, world', hrun, hbundle⟩ : ∃ answer world',
      Operation.run {} (.refresh "p" ⟨.guardrails, {}⟩ none)
        { now := 0, store := Store.lone.put (Key.bundle "p") ⟨.string "stale", 1⟩ }
          = .ok answer world' ∧
      world'.store.entries.find? (Key.bundle "p") = Store.lone.entries.find? (Key.bundle "p") := by
    decide +kernel
  obtain ⟨key, changed, hkey, hchanged, hmends, -⟩ :=
    Repairs.bundle_of_documents (.refresh ⟨.guardrails, {}⟩) rfl hrun
  exact ⟨_, answer, world', rfl, hrun, hbundle, key, changed, hkey, hchanged, hmends⟩

end Operation

end ProjectCache
