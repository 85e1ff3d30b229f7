/-
# ProjectCache.Proofs.Cache.Renewal — where the entries of projects come from in one operation.

At one clock reading an operation leaves entries, takes entries away and puts new ones. A store is
renewed (`Store.Renewed`) when each live entry of a project was there before or is new, and a new entry
is one of two things: a document that was delivered, stamped with the time to live of its kind, or a
bundle, stamped with the time to live of bundles, each of whose documents was delivered or stored
(`Store.Composes`). Renewals compose, and every way in which an operation of a cache ends is one,
whatever the times to live and whether or not it fails half way.
-/
import ProjectCache.Proofs.Cache.Outcomes

namespace ProjectCache

variable {now : Nat} {project key : String} {backend requested : Option String} {ttls : Ttls}
  {kind : Kind} {store mid reached : Store}

/-- Which documents are delivered to a cache, and under which keys. -/
abbrev Delivery := String → Document → Prop

variable {delivery : Delivery}

namespace Store

/-- Each document of the bundle is delivered for the backend, or is stored. -/
def Composes (store : Store) (now : Nat) (delivery : Delivery) (project backend : String)
    (bundle : Bundle) : Prop :=
  ∀ kind value, bundle.part kind = some value →
    delivery (Key.part project kind backend) ⟨kind, value⟩ ∨
      store.document? kind.decode now (Key.part project kind backend) = some value

/-- Each live entry of a project was there before, or is a delivered document or a bundle of delivered
and stored documents that begins to live now. -/
structure Renewed (store : Store) (ttls : Ttls) (now : Nat) (delivery : Delivery)
    (reached : Store) : Prop where
  document : ∀ {project kind backend key entry}, ':' ∉ project.toList →
    Key.entry project kind backend = .ok key → reached.live? now key = some entry →
      store.live? now key = some entry ∨
        ∃ value, entry = ttls.entry now kind value ∧ kind.Plain value ∧ delivery key ⟨kind, value⟩
  bundle : ∀ {project entry}, ':' ∉ project.toList →
    reached.live? now (Key.bundle project) = some entry →
      store.live? now (Key.bundle project) = some entry ∨
        ∃ bundle backend, entry = ttls.bundleEntry now bundle ∧ bundle.Plain ∧
          bundle.agentsBackend = some backend ∧ store.Composes now delivery project backend bundle

namespace Renewed

theorem of_remainder (h : store.Remainder now reached now) :
    store.Renewed ttls now delivery reached where
  document _ _ hlive := .inl (h _ _ hlive)
  bundle _ hlive := .inl (h _ _ hlive)

theorem refl (store : Store) (ttls : Ttls) (now : Nat) (delivery : Delivery) :
    store.Renewed ttls now delivery store :=
  of_remainder (.refl store now)

theorem mono (h : store.Renewed ttls now delivery reached) {delivery' : Delivery}
    (hmono : ∀ key document, delivery key document → delivery' key document) :
    store.Renewed ttls now delivery' reached where
  document hproject hkey hlive := by
    rcases h.document hproject hkey hlive with hbefore | ⟨value, hentry, hplain, hnew⟩
    · exact .inl hbefore
    · exact .inr ⟨value, hentry, hplain, hmono _ _ hnew⟩
  bundle hproject hlive := by
    rcases h.bundle hproject hlive with
      hbefore | ⟨bundle, backend, hentry, hplain, hbackend, hcomposes⟩
    · exact .inl hbefore
    · exact .inr ⟨bundle, backend, hentry, hplain, hbackend,
        fun kind value hvalue => (hcomposes kind value hvalue).imp_left (hmono _ _)⟩

/-- What is read under the key of a document was read there before, or was delivered. -/
theorem document?_or (h : store.Renewed ttls now delivery reached) (hproject : ':' ∉ project.toList)
    {value : kind.Value} (hkey : Key.entry project kind backend = .ok key)
    (hvalue : reached.document? kind.decode now key = some value) :
    store.document? kind.decode now key = some value ∨ delivery key ⟨kind, value⟩ := by
  obtain ⟨entry, hlive, hdecode⟩ := document?_eq_some.1 hvalue
  rcases h.document hproject hkey hlive with hbefore | ⟨delivered, rfl, hplain, hdelivered⟩
  · exact .inl (document?_of_live hbefore hdecode)
  · have hsame : delivered = value :=
      Except.ok.inj ((Kind.decode_encode hplain).symm.trans hdecode)
    exact .inr (hsame ▸ hdelivered)

theorem trans (h : store.Renewed ttls now delivery mid) (h' : mid.Renewed ttls now delivery reached) :
    store.Renewed ttls now delivery reached where
  document hproject hkey hlive := by
    rcases h'.document hproject hkey hlive with hmid | hnew
    · exact h.document hproject hkey hmid
    · exact .inr hnew
  bundle := by
    intro project entry hproject hlive
    rcases h'.bundle hproject hlive with hmid | ⟨bundle, backend, hentry, hplain, hbackend, hparts⟩
    · exact h.bundle hproject hmid
    · -- what the second store was composed of was itself stored before or delivered
      have hcomposes : store.Composes now delivery project backend bundle := by
        intro kind value hvalue
        rcases hparts kind value hvalue with hdelivered | hstored
        · exact .inl hdelivered
        · exact (h.document?_or hproject (Key.entry_some project kind backend) hstored).symm
      exact .inr ⟨bundle, backend, hentry, hplain, hbackend, hcomposes⟩

/-- A new entry must be accounted for where it is a document of a project or a bundle. -/
theorem put {entry : Entry}
    (hdocument : ∀ {project kind backend}, ':' ∉ project.toList →
      Key.entry project kind backend = .ok key →
        ∃ value, entry = ttls.entry now kind value ∧ kind.Plain value ∧ delivery key ⟨kind, value⟩)
    (hbundle : ∀ {project}, ':' ∉ project.toList → key = Key.bundle project →
      ∃ bundle backend, entry = ttls.bundleEntry now bundle ∧ bundle.Plain ∧
        bundle.agentsBackend = some backend ∧ store.Composes now delivery project backend bundle) :
    store.Renewed ttls now delivery (store.put key entry) where
  document := by
    intro project kind backend other found hproject hother hlive
    by_cases hkey : key = other
    · subst hkey
      obtain rfl := eq_of_live?_put hlive
      exact .inr (hdocument hproject hother)
    · rw [live?_put, if_neg hkey] at hlive
      exact .inl hlive
  bundle := by
    intro project found hproject hlive
    by_cases hkey : key = Key.bundle project
    · rw [hkey] at hlive
      obtain rfl := eq_of_live?_put hlive
      exact .inr (hbundle hproject hkey)
    · rw [live?_put, if_neg hkey] at hlive
      exact .inl hlive

/-- An entry that belongs to no project has nothing to account for. -/
theorem put_foreign (hkey : ∀ project, ¬ Key.InScope project key) (entry : Entry) :
    store.Renewed ttls now delivery (store.put key entry) := by
  refine put ?_ ?_
  · intro project kind backend _ hentry
    exact absurd (Key.entry_inScope hentry) (hkey project)
  · rintro project _ rfl
    exact absurd (Key.bundle_inScope project) (hkey project)

theorem put_document (hproject : ':' ∉ project.toList) {value : kind.Value}
    (hkey : Key.entry project kind backend = .ok key) (hplain : kind.Plain value)
    (hdelivered : delivery key ⟨kind, value⟩) :
    store.Renewed ttls now delivery (store.put key (ttls.entry now kind value)) := by
  have hscope := Key.entry_inScope hkey
  refine put ?_ ?_
  · intro other kind' backend' hother hkey'
    -- a key has one project and one kind
    obtain rfl := Key.eq_of_inScope hproject hother hscope (Key.entry_inScope hkey')
    obtain rfl := Key.kind_of_entry hkey hkey'
    exact ⟨value, rfl, hplain, hdelivered⟩
  · rintro other hother rfl
    obtain rfl := Key.eq_of_inScope hproject hother hscope (Key.bundle_inScope other)
    exact absurd rfl (Key.entry_ne_bundle hkey)

theorem put_bundle (hproject : ':' ∉ project.toList) {bundle : Bundle} {backend : String}
    (hplain : bundle.Plain) (hbackend : bundle.agentsBackend = some backend)
    (hcomposes : store.Composes now delivery project backend bundle) :
    store.Renewed ttls now delivery
      (store.put (Key.bundle project) (ttls.bundleEntry now bundle)) := by
  have hscope := Key.bundle_inScope project
  refine put ?_ ?_
  · intro other kind backend' hother hkey
    obtain rfl := Key.eq_of_inScope hproject hother hscope (Key.entry_inScope hkey)
    exact absurd rfl (Key.entry_ne_bundle hkey)
  · intro other hother hkey
    obtain rfl := Key.eq_of_inScope hproject hother hscope (hkey ▸ Key.bundle_inScope other)
    exact ⟨bundle, backend, rfl, hplain, hbackend, hcomposes⟩

end Renewed

/-- A bundle of stored documents is composed of them. -/
theorem composes_of_assemble {backend : String} {bundle : Bundle}
    (h : store.assemble now project backend = some bundle) :
    store.Composes now delivery project backend bundle := by
  obtain ⟨hdata, hcontentBase, hteam, hguardrails, hinlineAgent, -, -⟩ := assemble_eq_some_iff.1 h
  intro kind value hvalue
  refine .inr ?_
  cases kind with
  | data => exact hdata.trans hvalue
  | contentBase => exact hcontentBase.trans hvalue
  | team => exact hteam.trans hvalue
  | guardrails => exact hguardrails.trans hvalue
  | inlineAgent =>
    obtain ⟨inlineAgent, hsome, rfl⟩ := Option.map_eq_some_iff.1 hvalue
    have hstored : (store.document? (Kind.decode .inlineAgent) now
        (Key.plain project .inlineAgent)).getD none = some inlineAgent := hinlineAgent.trans hsome
    -- a configuration that is there can only come from an entry
    cases hdocument : store.document? (Kind.decode .inlineAgent) now (Key.plain project .inlineAgent)
      with
    | none =>
      rw [hdocument] at hstored
      cases hstored
    | some found =>
      rw [hdocument] at hstored
      exact hdocument.trans (congrArg some hstored)
  | instructions => cases hvalue
  | agent => cases hvalue

/-- A bundle that is built from stored documents renews a store. -/
theorem renewed_put_assembled (hproject : ':' ∉ project.toList) {backend : String} {bundle : Bundle}
    (hbundle : store.assemble now project backend = some bundle) :
    store.Renewed ttls now delivery ((store.siftInlineAgent now project).put (Key.bundle project)
      (ttls.bundleEntry now bundle)) := by
  obtain ⟨-, -, -, -, -, -, hbackend⟩ := assemble_eq_some_iff.1 hbundle
  have hsifted := store.sifted_siftInlineAgent now project
  have hcomposes : (store.siftInlineAgent now project).Composes now delivery project backend bundle := by
    intro kind value hvalue
    rw [hsifted.document?_eq (Key.entry_some project kind backend)]
    exact composes_of_assemble hbundle kind value hvalue
  exact (Renewed.of_remainder hsifted.remainder).trans
    (.put_bundle hproject (plain_of_assemble hbundle) hbackend hcomposes)

end Store

/-! ## Outcomes -/

namespace Cache

theorem Created.renewed {outcome : Except Error kind.Value → Prop} {result : Except Error kind.Value}
    (hcreated : Created ttls now kind key outcome store result reached)
    (hproject : ':' ∉ project.toList) (hkey : Key.entry project kind backend = .ok key)
    (hplain : ∀ value, outcome (.ok value) → kind.Plain value)
    (hdelivery : store.document? kind.decode now key = none → ∀ value, outcome (.ok value) →
      delivery key ⟨kind, value⟩) :
    store.Renewed ttls now delivery reached := by
  cases hcreated with
  | present => exact .refl store ttls now delivery
  | failed => exact .of_remainder (.drop store now key)
  | created hmissing hfetched =>
    exact .put_document hproject hkey (hplain _ hfetched) (hdelivery hmissing _ hfetched)

theorem Rebuilt.renewed {backend : String} {built : Except Error Bool}
    (hrebuilt : Rebuilt ttls now project backend store built reached)
    (hproject : ':' ∉ project.toList) : store.Renewed ttls now delivery reached := by
  cases hrebuilt with
  | stored hbundle => exact store.renewed_put_assembled hproject hbundle
  | refused => exact .of_remainder (store.sifted_siftInlineAgent now project).remainder
  | missing hsifted => exact .of_remainder hsifted.remainder

theorem Repaired.renewed {built : Except Error Bool}
    (hrepaired : Repaired ttls now project requested store built reached)
    (hproject : ':' ∉ project.toList) : store.Renewed ttls now delivery reached := by
  cases hrepaired with
  | rebuilt _ hbundle => exact store.renewed_put_assembled hproject hbundle
  | @dropped sifted hsifted =>
    exact (Store.Renewed.of_remainder hsifted.remainder).trans (.of_remainder (.drop sifted now _))
  | refused => exact .of_remainder (store.sifted_siftInlineAgent now project).remainder

theorem Refreshed.renewed {document : Document} {result : Except Error Unit}
    (hrefreshed : Refreshed ttls now project document backend store result reached)
    (hproject : ':' ∉ project.toList) (hplain : document.kind.Plain document.value)
    (hdelivery : ∀ key, Key.entry project document.kind backend = .ok key → delivery key document) :
    store.Renewed ttls now delivery reached := by
  cases hrefreshed with
  | keyless => exact .refl store ttls now delivery
  | refused => exact .refl store ttls now delivery
  | repaired hkey _ hreached =>
    exact (Store.Renewed.put_document hproject hkey hplain (hdelivery _ hkey)).trans
      (hreached.renewed hproject)

theorem Refetched.renewed {outcome : Except Error kind.Value → Prop}
    {result : Except Error kind.Value}
    (hrefetched : Refetched ttls now kind project backend outcome store result reached)
    (hproject : ':' ∉ project.toList) (hplain : ∀ value, outcome (.ok value) → kind.Plain value)
    (hdelivery : ∀ key, Key.entry project kind backend = .ok key → ∀ value, outcome (.ok value) →
      delivery key ⟨kind, value⟩) :
    store.Renewed ttls now delivery reached := by
  cases hrefetched with
  | keyless => exact .refl store ttls now delivery
  | failed => exact .of_remainder (.drop store now _)
  | repaired hkey hfetched _ hreached =>
    exact (Store.Renewed.put_document hproject hkey (hplain _ hfetched)
      (hdelivery _ hkey _ hfetched)).trans (hreached.renewed hproject)

theorem Invalidated.renewed {result : Except Error Unit}
    (hinvalidated : Invalidated ttls now kind project backend store result reached)
    (hproject : ':' ∉ project.toList) : store.Renewed ttls now delivery reached := by
  cases hinvalidated with
  | repaired _ hreached =>
    exact (Store.Renewed.of_remainder (.drop store now _)).trans (hreached.renewed hproject)
  | @rosters tokens =>
    exact (Store.Renewed.of_remainder (.without store now tokens)).trans
      (.of_remainder (.drop _ now _))
  | unreadable => exact .refl store ttls now delivery

/-- Reading a bundle renews the store, and the bundle was stored or is fetched now. What is stored
before a time to live is refused was fetched as well. -/
theorem ensures_getBundle_renewed {source : Source} (hproject : ':' ∉ project.toList)
    (hplain : source.Plain)
    (hdelivery : (∀ bundle, store.document? Bundle.decode now (Key.bundle project) = some bundle →
        bundle.serves requested = false) →
      ∀ bundle backend kind value, source.Supplies project backend bundle →
        (requested <|> bundle.data.agentsBackend) = some backend → bundle.part kind = some value →
          delivery (Key.part project kind backend) ⟨kind, value⟩)
    (ttls : Ttls) :
    CacheM.Ensures now store (getBundle ttls source project requested) fun result reached =>
      store.Renewed ttls now delivery reached ∧ ∀ bundle, result = .ok bundle →
        store.document? Bundle.decode now (Key.bundle project) = some bundle ∨
          (∀ stored, store.document? Bundle.decode now (Key.bundle project) = some stored →
            stored.serves requested = false) ∧ ∃ backend, source.Supplies project backend bundle := by
  refine ensures_getBundle_of (fun bundle hbundle _ => ?_) fun hmiss => ?_
  · refine ⟨.refl store ttls now delivery, ?_⟩
    rintro _ ⟨⟩
    exact .inl hbundle
  have hsifted : store.Renewed ttls now delivery (store.sift Bundle.decode now (Key.bundle project)) :=
    .of_remainder (.sift store Bundle.decode now (Key.bundle project))
  refine ensures_supplyBundle (fun e => ⟨hsifted, ?_⟩) fun bundle backend hbundle hbackend => ?_
  · rintro _ ⟨⟩
  have hdelivered : ∀ kind value, bundle.part kind = some value →
      delivery (Key.part project kind backend) ⟨kind, value⟩ :=
    fun kind value hvalue => hdelivery hmiss bundle backend kind value hbundle hbackend hvalue
  refine CacheM.Ensures.mono
    (ensures_writeParts (store.Renewed ttls now delivery ·) ?_ ?_ hsifted) ?_
  · intro mid hmid
    exact hmid.trans (.put_bundle hproject (hbundle.plain hplain) hbundle.agentsBackend
      fun kind value hvalue => .inl (hdelivered kind value hvalue))
  · intro mid kind value hvalue hmid
    exact hmid.trans (.put_document hproject (Key.entry_some project kind backend)
      ((hbundle.plain hplain).part hvalue) (hdelivered kind value hvalue))
  · intro result reached hreached
    refine ⟨hreached, ?_⟩
    intro found hfound
    cases result with
    | ok =>
      obtain rfl := Except.ok.inj hfound
      exact .inr ⟨hmiss, backend, hbundle⟩
    | error e => cases hfound

end Cache

end ProjectCache
