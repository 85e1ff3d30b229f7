/-
# ProjectCache.Proofs.Cache.Coherence — a bundle agrees with the documents it is made of.

A store is *typed* for a project when each of the project's keys holds the written form of a plain
document of its kind, and *coherent* when its bundle, if there is one, names the backend of its
roster and has its four parts stored beside it, byte for byte (`Store.Coherent`). Every way in which
an operation can end leaves a coherent store coherent, and leaves other projects alone.
-/
import ProjectCache.Proofs.Cache.Outcomes

namespace ProjectCache

variable {now later : Nat} {project key : String} {ttls : Ttls} {kind : Kind}

namespace Store

variable {store reached : Store}

/-! ## Typed stores -/

/-- Each key of a document holds the written form of a plain document of its kind. -/
def Typed (store : Store) (now : Nat) (project : String) : Prop :=
  ∀ kind backend key entry, Key.entry project kind backend = .ok key →
    store.live? now key = some entry → ∃ value, kind.Plain value ∧ entry.value = kind.encode value

/-- A live entry holds the document it was written from. -/
theorem Typed.document? (h : store.Typed now project) {backend : Option String} {entry : Entry}
    (hkey : Key.entry project kind backend = .ok key) (hlive : store.live? now key = some entry) :
    ∃ value, entry.value = kind.encode value ∧
      store.document? kind.decode now key = some value := by
  obtain ⟨value, hplain, hvalue⟩ := h kind backend key entry hkey hlive
  refine ⟨value, hvalue, document?_of_live hlive ?_⟩
  rw [hvalue]
  exact Kind.decode_encode hplain

theorem Typed.live?_eq_none (h : store.Typed now project) {backend : Option String}
    (hkey : Key.entry project kind backend = .ok key)
    (hmissing : store.document? kind.decode now key = none) : store.live? now key = none := by
  cases hlive : store.live? now key with
  | none => rfl
  | some entry =>
    obtain ⟨value, -, hvalue⟩ := h.document? hkey hlive
    rw [hmissing] at hvalue
    cases hvalue

/-- The written form of a document is what is stored. -/
theorem Typed.value_eq (h : store.Typed now project) (kind : Kind) (backend : Option String)
    {value : kind.Value}
    (hkey : Key.entry project kind backend = .ok key)
    (hvalue : store.document? kind.decode now key = some value) :
    (store.live? now key).map Entry.value = some (kind.encode value) := by
  obtain ⟨entry, hlive, -⟩ := document?_eq_some.1 hvalue
  obtain ⟨stored, hentry, hstored⟩ := h.document? hkey hlive
  obtain rfl := Option.some.inj (hvalue.symm.trans hstored)
  rw [hlive, Option.map_some, hentry]

theorem Typed.put (h : store.Typed now project) (ttls : Ttls) (kind : Kind)
    {backend : Option String} {value : kind.Value}
    (hkey : Key.entry project kind backend = .ok key) (hplain : kind.Plain value) :
    (store.put key (ttls.entry now kind value)).Typed now project := by
  intro other backend' otherKey entry hother hlive
  by_cases heq : key = otherKey
  · subst heq
    obtain rfl := Key.kind_of_entry hkey hother
    obtain rfl := eq_of_live?_put hlive
    exact ⟨value, hplain, rfl⟩
  · rw [live?_put, if_neg heq] at hlive
    exact h other backend' otherKey entry hother hlive

theorem Typed.of_remainder (h : store.Typed now project)
    (hreached : store.Remainder now reached later) : reached.Typed later project :=
  fun kind backend key entry hkey hentry => h kind backend key entry hkey (hreached key entry hentry)

theorem Typed.drop (h : store.Typed now project) (key : String) :
    (store.drop key).Typed now project :=
  h.of_remainder (.drop store now key)

theorem Typed.without (h : store.Typed now project) (tokens : List Glob.Token) :
    (store.without tokens).Typed now project :=
  h.of_remainder (.without store now tokens)

/-- Every entry of a typed store holds a document, so that none is dropped on reading. -/
theorem Typed.live?_sifted (h : store.Typed now project) {sifted : Store}
    (hsifted : store.Sifted now project sifted) (key : String) :
    sifted.live? now key = store.live? now key := by
  rcases hsifted key with hsame | ⟨hnone, kind, backend, hkey, hmissing⟩
  · exact hsame
  · rw [hnone, h.live?_eq_none hkey hmissing]

/-! ## Coherent stores -/

/-- The parts of a bundle are stored beside it. -/
structure Backs (store : Store) (now : Nat) (project : String) (bundle : Bundle)
    (backend : String) : Prop where
  agentsBackend : bundle.agentsBackend = some backend
  project_eq : bundle.project = bundle.data
  data : (store.live? now (Key.plain project .data)).map Entry.value = some bundle.data.encode
  contentBase : (store.live? now (Key.plain project .contentBase)).map Entry.value
    = some bundle.contentBase.encode
  team : (store.live? now (Key.team project backend)).map Entry.value
    = some (Kind.encode .team bundle.team)
  guardrails : (store.live? now (Key.plain project .guardrails)).map Entry.value
    = some bundle.guardrails.encode

theorem Backs.of_live {bundle : Bundle} {backend : String}
    (h : store.Backs now project bundle backend)
    (hlive : ∀ kind backend key entry, Key.entry project kind backend = .ok key →
      store.live? now key = some entry → reached.live? later key = some entry) :
    reached.Backs later project bundle backend := by
  have hvalue : ∀ kind backend key json, Key.entry project kind backend = .ok key →
      (store.live? now key).map Entry.value = some json →
      (reached.live? later key).map Entry.value = some json := by
    intro kind backend key json hkey hjson
    obtain ⟨entry, hentry, rfl⟩ := Option.map_eq_some_iff.1 hjson
    rw [hlive kind backend key entry hkey hentry, Option.map_some]
  exact {
    agentsBackend := h.agentsBackend
    project_eq := h.project_eq
    data := hvalue .data none _ _ rfl h.data
    contentBase := hvalue .contentBase none _ _ rfl h.contentBase
    team := hvalue .team (some backend) _ _ rfl h.team
    guardrails := hvalue .guardrails none _ _ rfl h.guardrails }

/-- The store is typed, and its bundle agrees with the documents beside it. -/
structure Coherent (store : Store) (now : Nat) (project : String) : Prop where
  typed : store.Typed now project
  bundled : ∀ entry, store.live? now (Key.bundle project) = some entry →
    ∃ bundle backend, Bundle.decode entry.value = .ok bundle ∧
      store.Backs now project bundle backend

theorem coherent_empty (now : Nat) (project : String) : empty.Coherent now project :=
  ⟨fun _ _ _ _ _ hlive => (nomatch hlive), fun _ hlive => (nomatch hlive)⟩

/-- Coherence is a matter of the live entries of the project. -/
theorem Coherent.congr (h : store.Coherent now project)
    (hsame : ∀ key, Key.InScope project key → reached.live? later key = store.live? now key) :
    reached.Coherent later project := by
  constructor
  · intro kind backend key entry hkey hlive
    rw [hsame key (Key.entry_inScope hkey)] at hlive
    exact h.typed kind backend key entry hkey hlive
  · intro entry hlive
    rw [hsame _ (Key.bundle_inScope project)] at hlive
    obtain ⟨bundle, backend, hdecode, hbacks⟩ := h.bundled entry hlive
    refine ⟨bundle, backend, hdecode, hbacks.of_live ?_⟩
    intro kind backend key entry hkey hentry
    rw [hsame key (Key.entry_inScope hkey), hentry]

/-- Without a bundle a typed store is coherent. -/
theorem Typed.coherent (h : store.Typed now project)
    (hnone : store.live? now (Key.bundle project) = none) : store.Coherent now project := by
  refine ⟨h, fun entry hlive => ?_⟩
  rw [hnone] at hlive
  cases hlive

/-- Stored documents back the bundle that they make. -/
theorem Typed.backs_of_assemble (h : store.Typed now project) {backend : String} {bundle : Bundle}
    (hbundle : store.assemble now project backend = some bundle) :
    store.Backs now project bundle backend := by
  obtain ⟨hdata, hcontentBase, hteam, hguardrails, -, hproject, hbackend⟩ :=
    assemble_eq_some_iff.1 hbundle
  exact {
    agentsBackend := hbackend
    project_eq := hproject
    data := h.value_eq .data none rfl hdata
    contentBase := h.value_eq .contentBase none rfl hcontentBase
    team := h.value_eq .team (some backend) rfl hteam
    guardrails := h.value_eq .guardrails none rfl hguardrails }

/-- The bundle of a coherent store decodes, so that reading it drops nothing. -/
theorem Coherent.live?_sift (h : store.Coherent now project) (key : String) :
    (store.sift Bundle.decode now (Key.bundle project)).live? now key = store.live? now key := by
  by_cases hkey : key = Key.bundle project
  · subst hkey
    cases hlive : store.live? now (Key.bundle project) with
    | none =>
      rw [sift_of_document?_eq_none (by rw [document?, hlive]; rfl), live?_drop, if_pos rfl]
    | some entry =>
      obtain ⟨bundle, -, hdecode, -⟩ := h.bundled entry hlive
      rw [sift_of_document? (document?_of_live hlive hdecode), hlive]
  · exact live?_sift_of_ne hkey

/-- An entry under the key of the bundle is no matter of types. -/
theorem Typed.put_bundle (h : store.Typed now project) (entry : Entry) :
    (store.put (Key.bundle project) entry).Typed now project := by
  intro kind backend key other hkey hlive
  rw [live?_put, if_neg (Key.entry_ne_bundle hkey).symm] at hlive
  exact h kind backend key other hkey hlive

theorem Typed.withParts (h : store.Typed now project) {bundle : Bundle} (hplain : bundle.Plain)
    (backend : String) : (store.withParts ttls now project backend bundle).Typed now project := by
  have hdata := (h.put_bundle (ttls.bundleEntry now bundle)).put ttls .data
    (Key.entry_of_ne_team (by decide) project none) hplain.data
  have hcontentBase := hdata.put ttls .contentBase
    (Key.entry_of_ne_team (by decide) project none) hplain.contentBase
  have hteam := hcontentBase.put ttls .team (Key.entry_team project backend) hplain.team
  have hguardrails := hteam.put ttls .guardrails
    (Key.entry_of_ne_team (by decide) project none) hplain.guardrails
  unfold Store.withParts
  cases hinline : bundle.inlineAgent with
  | none => exact hguardrails
  | some inlineAgent =>
    refine hguardrails.put ttls .inlineAgent (Key.entry_of_ne_team (by decide) project none) ?_
    intro a ha
    exact hplain.inlineAgent a (hinline.trans ha)

end Store

namespace Cache

variable {store reached : Store}

/-! ## Outcomes and coherence -/

/-- A document that is stored on a read was missing, and so is no part of the bundle. -/
theorem Created.coherent {backend : Option String} {outcome : Except Error kind.Value → Prop}
    {result : Except Error kind.Value} (h : Created ttls now kind key outcome store result reached)
    (hkey : Key.entry project kind backend = .ok key)
    (hplain : ∀ value, outcome (.ok value) → kind.Plain value)
    (hcoherent : store.Coherent now project) : reached.Coherent now project := by
  cases h with
  | present => exact hcoherent
  | failed hmissing =>
    have hnone := hcoherent.typed.live?_eq_none hkey hmissing
    refine hcoherent.congr fun other _ => ?_
    rw [Store.live?_drop]
    split
    · rename_i heq
      rw [heq, hnone]
    · rfl
  | created hmissing hfetched =>
    have hnone := hcoherent.typed.live?_eq_none hkey hmissing
    refine ⟨hcoherent.typed.put ttls kind hkey (hplain _ hfetched), fun entry hlive => ?_⟩
    rw [Store.live?_put, if_neg (Key.entry_ne_bundle hkey)] at hlive
    obtain ⟨bundle, backend', hdecode, hbacks⟩ := hcoherent.bundled entry hlive
    refine ⟨bundle, backend', hdecode, hbacks.of_live ?_⟩
    intro other _ otherKey entry _ hentry
    -- the parts of the bundle are live, and the key of the new document was free
    have hne : key ≠ otherKey := by
      rintro rfl
      rw [hnone] at hentry
      cases hentry
    rw [Store.live?_put, if_neg hne, hentry]

/-- A bundle that is built from the documents of a typed store agrees with them. -/
theorem coherent_put_assembled {backend : String} {bundle : Bundle}
    (htyped : store.Typed now project)
    (hbundle : store.assemble now project backend = some bundle) :
    ((store.siftInlineAgent now project).put (Key.bundle project)
      (ttls.bundleEntry now bundle)).Coherent now project := by
  have hsame := htyped.live?_sifted (store.sifted_siftInlineAgent now project)
  have hbacks := htyped.backs_of_assemble hbundle
  refine ⟨Store.Typed.put_bundle (htyped.of_remainder fun key entry hlive => hsame key ▸ hlive) _,
    fun entry hlive => ?_⟩
  obtain rfl := Store.eq_of_live?_put hlive
  refine ⟨bundle, backend, Bundle.decode_encode (Store.plain_of_assemble hbundle), hbacks.of_live ?_⟩
  intro kind _ key entry hkey hentry
  rw [Store.live?_put, if_neg (Key.entry_ne_bundle hkey).symm, hsame, hentry]

/-- After a repair there is no bundle, or the one that the documents make. -/
theorem Repaired.coherent {requested : Option String} {built : Except Error Bool}
    (h : Repaired ttls now project requested store built reached) (hrange : ttls.InRange now)
    (htyped : store.Typed now project) : reached.Coherent now project := by
  cases h with
  | rebuilt _ hbundle => exact coherent_put_assembled htyped hbundle
  | @dropped sifted hsifted =>
    refine ((htyped.of_remainder fun key entry hlive => ?_).drop _).coherent ?_
    · rwa [htyped.live?_sifted hsifted] at hlive
    · rw [Store.live?_drop, if_pos rfl]
  | refused _ _ hbeyond => exact absurd hrange.bundle hbeyond

/-- A bundle that is fetched is stored with its parts, and they outlast it when nothing expires. -/
theorem Bundled.coherent {source : Source} {requested : Option String}
    {result : Except Error Bundle} (h : Bundled ttls now source project requested store result reached)
    (hplain : source.Plain) (hcoherent : store.Coherent now project)
    (hunexpired : reached.Unexpired now) : reached.Coherent now project := by
  cases h with
  | present => exact hcoherent
  | failed => exact hcoherent.congr fun key _ => hcoherent.live?_sift key
  | @fetched bundle backend hmiss hsupplies hbackend =>
    have hbundlePlain := hsupplies.plain hplain
    have htyped : (store.sift Bundle.decode now (Key.bundle project)).Typed now project :=
      (hcoherent.congr fun key _ => hcoherent.live?_sift key).typed
    refine ⟨htyped.withParts hbundlePlain backend, fun entry hlive => ?_⟩
    -- a lifetime of zero would end a part before the bundle, so nothing may have expired
    rw [Store.live?_of_unexpired hunexpired, Store.find?_withParts_bundle] at hlive
    obtain rfl := Option.some.inj hlive
    refine ⟨bundle, backend, Bundle.decode_encode hbundlePlain, hsupplies.agentsBackend,
      hsupplies.project_eq, ?_, ?_, ?_, ?_⟩
    all_goals rw [Store.live?_of_unexpired hunexpired]
    · rw [Store.find?_withParts_entry .data _ _ rfl]
      rfl
    · rw [Store.find?_withParts_entry .contentBase _ _ rfl]
      rfl
    · rw [Store.find?_withParts_entry .team _ _ (Key.entry_team project backend)]
      rfl
    · rw [Store.find?_withParts_entry .guardrails _ _ rfl]
      rfl

end Cache

end ProjectCache
