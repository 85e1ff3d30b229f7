/-
# ProjectCache.Proofs.Cache.Repair — what a repair of a bundle leaves behind.

Building a bundle reads the stored documents of a project, and reading drops an entry that holds no
document (`Store.Sifted`). When the documents make a bundle (`Store.assemble`) it is stored, and
otherwise the old one goes (`Cache.Rebuilt`, `Cache.Repaired`). So after a repair that comes to an
end a bundle is either what the stored documents make or not there.
-/
import ProjectCache.Cache.Basic
import ProjectCache.Proofs.Document.RoundTrip
import ProjectCache.Proofs.Key
import ProjectCache.Proofs.World

namespace ProjectCache

variable {α : Type} {now later : Nat} {project : String}

/-! ## New entries -/

/-- The deadlines of new entries are within the time that the clock can count. -/
structure Ttls.InRange (ttls : Ttls) (now : Nat) : Prop where
  ofKind : ∀ kind, now + (ttls.ofKind kind).nanos < Store.clockEnd
  bundle : now + ttls.bundle.nanos < Store.clockEnd

/-- New entries live for a while. -/
structure Ttls.Positive (ttls : Ttls) : Prop where
  ofKind : ∀ kind, 0 < (ttls.ofKind kind).nanos
  bundle : 0 < ttls.bundle.nanos

theorem Ttls.positive_default : Ttls.default.Positive where
  ofKind kind := by cases kind <;> decide
  bundle := by decide

theorem Ttls.inRange_default : Ttls.default.InRange 0 where
  ofKind kind := by cases kind <;> decide
  bundle := by decide

/-- The entry of a new document of some kind. -/
def Ttls.entry (ttls : Ttls) (now : Nat) (kind : Kind) (value : kind.Value) : Entry :=
  ⟨kind.encode value, now + (ttls.ofKind kind).nanos⟩

/-- The entry of a new bundle. -/
def Ttls.bundleEntry (ttls : Ttls) (now : Nat) (bundle : Bundle) : Entry :=
  ⟨bundle.encode, now + ttls.bundle.nanos⟩

/-- An entry with a lifetime is live when it is new. -/
theorem Entry.isLive_of_pos {lifetime : Nat} (h : 0 < lifetime) (value : Json) (now : Nat) :
    (Entry.mk value (now + lifetime)).isLive now := by
  rw [Entry.isLive, decide_eq_true_iff]
  show now < now + lifetime
  omega

theorem Ttls.Positive.isLive_entry {ttls : Ttls} (h : ttls.Positive) (now : Nat) (kind : Kind)
    (value : kind.Value) : (ttls.entry now kind value).isLive now :=
  Entry.isLive_of_pos (h.ofKind kind) _ now

theorem Ttls.Positive.isLive_bundleEntry {ttls : Ttls} (h : ttls.Positive) (now : Nat)
    (bundle : Bundle) : (ttls.bundleEntry now bundle).isLive now :=
  Entry.isLive_of_pos h.bundle _ now

namespace Store

/-! ## Dropping what is no document -/

/-- The second store has the live entries of the first, but for keys of the project that hold no
document of their kind. -/
def Sifted (store : Store) (now : Nat) (project : String) (sifted : Store) : Prop :=
  ∀ key, sifted.live? now key = store.live? now key ∨
    sifted.live? now key = none ∧ ∃ kind backend, Key.entry project kind backend = .ok key ∧
      store.document? kind.decode now key = none

namespace Sifted

variable {store sifted : Store}

theorem refl (store : Store) (now : Nat) (project : String) : store.Sifted now project store :=
  fun _ => .inl rfl

theorem of_sift {kind : Kind} {backend : Option String} {key : String}
    (hkey : Key.entry project kind backend = .ok key) :
    store.Sifted now project (store.sift kind.decode now key) := by
  intro other
  cases h : store.document? kind.decode now key with
  | some value => exact .inl (by rw [sift_of_document? h])
  | none =>
    by_cases hother : other = key
    · subst hother
      refine .inr ⟨?_, kind, backend, hkey, h⟩
      rw [sift_of_document?_eq_none h, live?_drop, if_pos rfl]
    · exact .inl (live?_sift_of_ne hother)

/-- The same documents are there before and after. -/
theorem document?_eq (h : store.Sifted now project sifted) {kind : Kind} {backend : Option String}
    {key : String} (hkey : Key.entry project kind backend = .ok key) :
    sifted.document? kind.decode now key = store.document? kind.decode now key := by
  rcases h key with hsame | ⟨hnone, other, backend', hother, hdocument⟩
  · exact document?_congr hsame kind.decode
  · obtain rfl := Key.kind_of_entry hkey hother
    rw [hdocument, document?, hnone]
    rfl

theorem remainder (h : store.Sifted now project sifted) : store.Remainder now sifted now := by
  intro key entry hlive
  rcases h key with hsame | ⟨hnone, -⟩
  · rwa [hsame] at hlive
  · rw [hnone] at hlive
    cases hlive

/-- Keys that hold no documents of the project keep what they hold. -/
theorem live?_of_ne (h : store.Sifted now project sifted) {key : String}
    (hkey : ∀ kind backend, Key.entry project kind backend ≠ .ok key) :
    sifted.live? now key = store.live? now key := by
  rcases h key with hsame | ⟨-, kind, backend, hentry, -⟩
  · exact hsame
  · exact absurd hentry (hkey kind backend)

theorem live?_bundle (h : store.Sifted now project sifted) :
    sifted.live? now (Key.bundle project) = store.live? now (Key.bundle project) :=
  h.live?_of_ne fun _ _ hkey => Key.entry_ne_bundle hkey rfl

end Sifted

/-- Drops the configuration of inline agents when it holds no document. -/
def siftInlineAgent (store : Store) (now : Nat) (project : String) : Store :=
  store.sift (Kind.decode .inlineAgent) now (Key.plain project .inlineAgent)

theorem sifted_siftInlineAgent (store : Store) (now : Nat) (project : String) :
    store.Sifted now project (store.siftInlineAgent now project) :=
  .of_sift (Key.entry_of_ne_team (by decide) project none)

/-! ## Bundles of stored documents -/

/-- The configuration of inline agents that is stored for a project. -/
def inlineAgent? (store : Store) (now : Nat) (project : String) : Option InlineAgent :=
  (store.document? (Kind.decode .inlineAgent) now (Key.plain project .inlineAgent)).getD none

/-- The bundle that the stored documents of a project make for a backend. -/
def assemble (store : Store) (now : Nat) (project backend : String) : Option Bundle := do
  let data ← store.document? (Kind.decode .data) now (Key.plain project .data)
  let contentBase ← store.document? (Kind.decode .contentBase) now (Key.plain project .contentBase)
  let team ← store.document? (Kind.decode .team) now (Key.team project backend)
  let guardrails ← store.document? (Kind.decode .guardrails) now (Key.plain project .guardrails)
  return (Bundle.ofParts data contentBase team guardrails
    (store.inlineAgent? now project)).withBackend backend

/-- A bundle is made of the documents that are stored for its backend. -/
theorem assemble_eq_some_iff {store : Store} {backend : String} {bundle : Bundle} :
    store.assemble now project backend = some bundle ↔
      store.document? (Kind.decode .data) now (Key.plain project .data) = some bundle.data ∧
      store.document? (Kind.decode .contentBase) now (Key.plain project .contentBase)
        = some bundle.contentBase ∧
      store.document? (Kind.decode .team) now (Key.team project backend) = some bundle.team ∧
      store.document? (Kind.decode .guardrails) now (Key.plain project .guardrails)
        = some bundle.guardrails ∧
      store.inlineAgent? now project = bundle.inlineAgent ∧
      bundle.project = bundle.data ∧ bundle.agentsBackend = some backend := by
  simp only [assemble, Option.bind_eq_bind, Option.bind_eq_some_iff]
  constructor
  · rintro ⟨data, hdata, contentBase, hcontentBase, team, hteam, guardrails, hguardrails, h⟩
    obtain rfl := Option.some.inj h
    exact ⟨hdata, hcontentBase, hteam, hguardrails, rfl, rfl, rfl⟩
  · rintro ⟨hdata, hcontentBase, hteam, hguardrails, hinlineAgent, hproject, hbackend⟩
    refine ⟨_, hdata, _, hcontentBase, _, hteam, _, hguardrails, ?_⟩
    rw [hinlineAgent]
    cases bundle
    cases hproject
    cases hbackend
    rfl

/-- Documents that were read make a plain bundle. -/
theorem plain_of_assemble {store : Store} {backend : String} {bundle : Bundle}
    (h : store.assemble now project backend = some bundle) : bundle.Plain := by
  obtain ⟨hdata, hcontentBase, hteam, hguardrails, hinlineAgent, hproject, -⟩ :=
    assemble_eq_some_iff.1 h
  have hplain : ∀ {kind : Kind} {key : String} {value : kind.Value},
      store.document? kind.decode now key = some value → kind.Plain value := by
    intro kind key value hvalue
    obtain ⟨entry, -, hdecode⟩ := document?_eq_some.1 hvalue
    exact Kind.plain_of_decode hdecode
  have hdataPlain : bundle.data.Plain := hplain hdata
  -- a configuration that is missing leaves nothing to show
  have hinlineAgentPlain : ∀ a ∈ bundle.inlineAgent, a.Plain := by
    rw [← hinlineAgent, inlineAgent?]
    cases hinline : store.document? (Kind.decode .inlineAgent) now (Key.plain project .inlineAgent)
      with
    | none => exact fun a ha => nomatch ha
    | some inlineAgent => exact hplain hinline
  exact ⟨hdataPlain, hproject ▸ hdataPlain, hplain hcontentBase, hplain hteam, hplain hguardrails,
    hinlineAgentPlain⟩

/-- The required documents of a bundle that could be built are there. -/
theorem document?_isSome_of_assemble {store : Store} {backend : String} {bundle : Bundle}
    (h : store.assemble now project backend = some bundle) {kind : Kind} {key : String}
    (hkind : kind ∈ Kind.required) (hkey : Key.entry project kind (some backend) = .ok key) :
    (store.document? kind.decode now key).isSome := by
  obtain ⟨hdata, hcontentBase, hteam, hguardrails, -⟩ := assemble_eq_some_iff.1 h
  simp only [Kind.required, List.mem_cons, List.not_mem_nil, or_false] at hkind
  rcases hkind with rfl | rfl | rfl | rfl
  · obtain rfl := Except.ok.inj hkey
    exact Option.isSome_of_eq_some hdata
  · obtain rfl := Except.ok.inj hkey
    exact Option.isSome_of_eq_some hcontentBase
  · obtain rfl := Except.ok.inj hkey
    exact Option.isSome_of_eq_some hteam
  · obtain rfl := Except.ok.inj hkey
    exact Option.isSome_of_eq_some hguardrails

/-- The backend for which the bundle of a project is repaired: the given one, or else the one that the
stored settings name. -/
def repairBackend (store : Store) (now : Nat) (project : String) (requested : Option String) :
    Option String :=
  requested <|> (store.document? (Kind.decode .data) now (Key.plain project .data)).bind
    fun data => Project.agentsBackend data

theorem repairBackend_some (store : Store) (now : Nat) (project backend : String) :
    store.repairBackend now project (some backend) = some backend := rfl

/-- The bundle that the stored documents of a project make for that backend. -/
def mend (store : Store) (now : Nat) (project : String) (requested : Option String) :
    Option Bundle :=
  (store.repairBackend now project requested).bind fun backend => store.assemble now project backend

/-- The bundle that was stored is the one that is read. -/
theorem eq_of_document?_put_bundle {store : Store} {ttls : Ttls} {bundle other : Bundle}
    (hplain : bundle.Plain)
    (h : (store.put (Key.bundle project) (ttls.bundleEntry now bundle)).document? Bundle.decode now
      (Key.bundle project) = some other) : other = bundle := by
  have hvalue : Bundle.decode (ttls.bundleEntry now bundle).value = .ok bundle :=
    Bundle.decode_encode hplain
  exact eq_of_document?_put hvalue h

end Store

namespace Cache

variable {store : Store} {ttls : Ttls} {backend : String}

/-! ## Reading -/

/-- A read returns the document, and drops an entry that holds none. -/
theorem yields_read (now : Nat) (store : Store) (decode : Decoder α) (key : String) :
    CacheM.Yields now store (read decode key) (store.document? decode now key)
      (store.sift decode now key) := by
  unfold read
  refine (CacheM.yields_get key).bind ?_
  cases hlive : store.live? now key with
  | none =>
    have hdocument : store.document? decode now key = none := by rw [Store.document?, hlive]; rfl
    rw [Store.sift_of_document?_eq_none hdocument, hdocument]
    exact CacheM.yields_pure none
  | some entry =>
    cases hdecode : decode entry.value with
    | ok value =>
      have hdocument := Store.document?_of_live hlive hdecode
      rw [Store.sift_of_document? hdocument, hdocument]
      simp only [Option.map_some, hdecode]
      exact CacheM.yields_pure (some value)
    | error e =>
      -- what does not decode counts as missing, and is deleted on the way
      have hdocument : store.document? decode now key = none := by
        rw [Store.document?, hlive, Option.bind_some, hdecode]
        rfl
      rw [Store.sift_of_document?_eq_none hdocument, hdocument]
      simp only [Option.map_some, hdecode]
      refine (CacheM.yields_log _ _).bind ((CacheM.yields_delete key).bind ?_)
      exact CacheM.yields_pure none

theorem yields_read_of_some {decode : Decoder α} {key : String} {value : α}
    (h : store.document? decode now key = some value) :
    CacheM.Yields now store (read decode key) (some value) store := by
  have hread := yields_read now store decode key
  rwa [h, Store.sift_of_document? h] at hread

theorem yields_read_of_none {decode : Decoder α} {key : String}
    (h : store.document? decode now key = none) :
    CacheM.Yields now store (read decode key) none (store.drop key) := by
  have hread := yields_read now store decode key
  rwa [h, Store.sift_of_document?_eq_none h] at hread

/-- A document that is there leaves the store alone; otherwise what follows starts without the
entry. -/
theorem ensures_read_bind {β : Type} (decode : Decoder α) {key : String}
    {f : Option α → CacheM β} {goal : Except Error β → Store → Prop}
    (hsome : ∀ value, store.document? decode now key = some value →
      CacheM.Ensures now store (f (some value)) goal)
    (hnone : store.document? decode now key = none →
      CacheM.Ensures now (store.drop key) (f none) goal) :
    CacheM.Ensures now store (read decode key >>= f) goal := by
  cases hdocument : store.document? decode now key with
  | some value => exact (yields_read_of_some hdocument).bind (hsome value hdocument)
  | none => exact (yields_read_of_none hdocument).bind (hnone hdocument)

/-! ## Building a bundle -/

/-- What building a bundle comes to. -/
inductive Rebuilt (ttls : Ttls) (now : Nat) (project backend : String) (store : Store) :
    Except Error Bool → Store → Prop where
  /-- All documents are there, and the bundle is stored. -/
  | stored {bundle : Bundle} (hbundle : store.assemble now project backend = some bundle)
      (hrange : now + ttls.bundle.nanos < Store.clockEnd) :
      Rebuilt ttls now project backend store (.ok true)
        ((store.siftInlineAgent now project).put (Key.bundle project) (ttls.bundleEntry now bundle))
  /-- All documents are there, but the bundle would live too long. -/
  | refused {bundle : Bundle} {e : Error}
      (hbundle : store.assemble now project backend = some bundle)
      (hrange : ¬ now + ttls.bundle.nanos < Store.clockEnd) :
      Rebuilt ttls now project backend store (.error e) (store.siftInlineAgent now project)
  /-- A document is missing. -/
  | missing {sifted : Store} (hsifted : store.Sifted now project sifted)
      (hbundle : store.assemble now project backend = none) :
      Rebuilt ttls now project backend store (.ok false) sifted

theorem Rebuilt.of_missing {kind : Kind} {required : Option String} {key : String}
    (hkey : Key.entry project kind required = .ok key)
    (hdocument : store.document? kind.decode now key = none)
    (hbundle : store.assemble now project backend = none) :
    Rebuilt ttls now project backend store (.ok false) (store.drop key) := by
  rw [← Store.sift_of_document?_eq_none hdocument]
  exact .missing (.of_sift hkey) hbundle

theorem ensures_rebuildBundle (ttls : Ttls) (now : Nat) (store : Store) (project backend : String) :
    CacheM.Ensures now store (rebuildBundle ttls project backend)
      (Rebuilt ttls now project backend store) := by
  have hentry : ∀ kind, kind ≠ .team → Key.entry project kind none = .ok (Key.plain project kind) :=
    fun kind hkind => Key.entry_of_ne_team hkind project none
  unfold rebuildBundle
  -- the first document that is missing ends the building
  refine ensures_read_bind (Kind.decode .data) (fun data hdata => ?_) fun hdata => ?_
  rotate_left
  · refine CacheM.ensures_pure (.of_missing (hentry .data nofun) hdata ?_)
    simp [Store.assemble, hdata]
  refine ensures_read_bind (Kind.decode .contentBase) (fun contentBase hcontentBase => ?_)
    fun hcontentBase => ?_
  rotate_left
  · refine CacheM.ensures_pure (.of_missing (hentry .contentBase nofun) hcontentBase ?_)
    simp [Store.assemble, hdata, hcontentBase]
  refine ensures_read_bind (Kind.decode .team) (fun team hteam => ?_) fun hteam => ?_
  rotate_left
  · refine CacheM.ensures_pure (.of_missing (Key.entry_team project backend) hteam ?_)
    simp [Store.assemble, hdata, hcontentBase, hteam]
  refine ensures_read_bind (Kind.decode .guardrails) (fun guardrails hguardrails => ?_)
    fun hguardrails => ?_
  rotate_left
  · refine CacheM.ensures_pure (.of_missing (hentry .guardrails nofun) hguardrails ?_)
    simp [Store.assemble, hdata, hcontentBase, hteam, hguardrails]
  refine (yields_read now store (Kind.decode .inlineAgent) (Key.plain project .inlineAgent)).bind ?_
  have hbundle : store.assemble now project backend = some
      ((Bundle.ofParts data contentBase team guardrails
        (store.inlineAgent? now project)).withBackend backend) := by
    simp [Store.assemble, hdata, hcontentBase, hteam, hguardrails]
  refine CacheM.ensures_set_bind ?_ ?_
  · exact fun hrange =>
      (CacheM.yields_count _).bind (CacheM.ensures_pure (.stored hbundle hrange))
  · exact fun hrange => .refused hbundle hrange

/-! ## Repairing a bundle -/

/-- What a repair comes to. -/
inductive Repaired (ttls : Ttls) (now : Nat) (project : String) (requested : Option String)
    (store : Store) : Except Error Bool → Store → Prop where
  /-- The bundle is what the stored documents make. -/
  | rebuilt {backend : String} {bundle : Bundle}
      (hbackend : store.repairBackend now project requested = some backend)
      (hbundle : store.assemble now project backend = some bundle)
      (hrange : now + ttls.bundle.nanos < Store.clockEnd) :
      Repaired ttls now project requested store (.ok true)
        ((store.siftInlineAgent now project).put (Key.bundle project) (ttls.bundleEntry now bundle))
  /-- There is no bundle, since the documents make none. -/
  | dropped {sifted : Store} (hsifted : store.Sifted now project sifted)
      (hbundle : store.mend now project requested = none) :
      Repaired ttls now project requested store (.ok false) (sifted.drop (Key.bundle project))
  /-- All documents are there, but the bundle would live too long; the old one stays. -/
  | refused {backend : String} {bundle : Bundle} {e : Error}
      (hbackend : store.repairBackend now project requested = some backend)
      (hbundle : store.assemble now project backend = some bundle)
      (hrange : ¬ now + ttls.bundle.nanos < Store.clockEnd) :
      Repaired ttls now project requested store (.error e) (store.siftInlineAgent now project)

theorem yields_dropBundle (project : String) :
    CacheM.Yields now store (dropBundle project) () (store.drop (Key.bundle project)) := by
  unfold dropBundle
  exact (CacheM.yields_delete _).bind (CacheM.yields_count _)

theorem yields_storedBackend (now : Nat) (store : Store) (project : String) :
    CacheM.Yields now store (storedBackend project)
      ((store.document? (Kind.decode .data) now (Key.plain project .data)).bind
        fun data => Project.agentsBackend data)
      (store.sift (Kind.decode .data) now (Key.plain project .data)) := by
  unfold storedBackend
  exact (yields_read now store (Kind.decode .data) _).bind (CacheM.yields_pure _)

theorem ensures_repairBundle (ttls : Ttls) (now : Nat) (store : Store) (project : String)
    (requested : Option String) :
    CacheM.Ensures now store (repairBundle ttls project requested)
      (Repaired ttls now project requested store) := by
  -- the two ways to go on: without a backend the bundle is dropped, with one it is built first
  have hdrop : ∀ {sifted : Store}, store.Sifted now project sifted →
      store.mend now project requested = none →
      CacheM.Ensures now sifted (do dropBundle project; return false)
        (Repaired ttls now project requested store) :=
    fun hsifted hbundle =>
      (yields_dropBundle project).bind (CacheM.ensures_pure (.dropped hsifted hbundle))
  have hknown : ∀ backend, store.repairBackend now project requested = some backend →
      CacheM.Ensures now store
        (do
          if ← rebuildBundle ttls project backend then return true
          dropBundle project
          return false)
        (Repaired ttls now project requested store) := by
    intro backend hbackend
    refine (ensures_rebuildBundle ttls now store project backend).bind ?_ ?_
    · intro built reached hbuilt
      cases hbuilt with
      | stored hbundle hrange => exact CacheM.ensures_pure (.rebuilt hbackend hbundle hrange)
      | missing hsifted hbundle =>
        refine hdrop hsifted ?_
        rw [Store.mend, hbackend, Option.bind_some, hbundle]
    · intro e reached hbuilt
      cases hbuilt with
      | refused hbundle hrange => exact .refused hbackend hbundle hrange
  unfold repairBundle
  cases requested with
  | some b =>
    exact (CacheM.yields_pure (some b)).bind (hknown b (store.repairBackend_some now project b))
  | none =>
    refine (yields_storedBackend now store project).bind ?_
    cases hdata : store.document? (Kind.decode .data) now (Key.plain project .data) with
    | some data =>
      have hnamed : store.repairBackend now project none = Project.agentsBackend data := by
        rw [Store.repairBackend, hdata]
        rfl
      rw [Store.sift_of_document? hdata, Option.bind_some]
      cases hbackend : Project.agentsBackend data with
      | some backend => exact hknown backend (hnamed.trans hbackend)
      | none =>
        refine hdrop (.refl store now project) ?_
        rw [Store.mend, hnamed, hbackend]
        rfl
    | none =>
      refine hdrop (.of_sift (Key.entry_of_ne_team (by decide) project none)) ?_
      rw [Store.mend, Store.repairBackend, hdata]
      rfl

end Cache

end ProjectCache
