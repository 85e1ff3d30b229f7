/-
# ProjectCache.Proofs.Cache.Mirror — what readers find after a document was pushed.

A store *mirrors* the documents of a project when its bundle, if there is one, is the bundle that the
stored documents make (`Store.Mirrors`). Whatever the store held before, a push that succeeds leaves
the pushed document where readers look for it, changes no other document, and leaves a store that
mirrors its documents (`Cache.Refreshed.pushed`). A reader then finds the documents without fetching
them, and a bundle that it is given shows what is stored or what the source answers.
-/
import ProjectCache.Proofs.Cache.Lookup

namespace ProjectCache

variable {now later : Nat} {project key : String} {ttls : Ttls} {kind : Kind}
  {store reached : Store}

namespace Store

/-- The document of a kind that is stored for a project, for kinds that need no backend. -/
def stored? (store : Store) (now : Nat) (project : String) (kind : Kind) : Option kind.Value :=
  store.document? kind.decode now (Key.plain project kind)

/-- The bundle shows the documents that are stored beside it. -/
structure Shows (store : Store) (now : Nat) (project : String) (bundle : Bundle) : Prop where
  project_eq : bundle.project = bundle.data
  data : store.stored? now project .data = some bundle.data
  contentBase : store.stored? now project .contentBase = some bundle.contentBase
  inlineAgent : store.inlineAgent? now project = bundle.inlineAgent

/-- The bundle of a project, if there is one, shows the documents that are stored beside it. -/
def Mirrors (store : Store) (now : Nat) (project : String) : Prop :=
  ∀ bundle ∈ store.document? Bundle.decode now (Key.bundle project), store.Shows now project bundle

/-- The second store has a new document of a kind, the other documents as the first, and mirrors
them. -/
structure Pushed (before : Store) (now : Nat) (project : String) (kind : Kind) (value : kind.Value)
    (after : Store) : Prop where
  stored : after.stored? now project kind = some value
  kept : ∀ other, other ≠ .team → other ≠ kind →
    after.stored? now project other = before.stored? now project other
  mirrors : after.Mirrors now project

theorem shows_of_assemble {backend : String} {bundle : Bundle}
    (h : store.assemble now project backend = some bundle) : store.Shows now project bundle := by
  obtain ⟨hdata, hcontentBase, -, -, hinlineAgent, hproject, -⟩ := assemble_eq_some_iff.1 h
  exact ⟨hproject, hdata, hcontentBase, hinlineAgent⟩

/-- The same documents show the same. -/
theorem Shows.congr {bundle : Bundle} (h : store.Shows now project bundle)
    (hsame : ∀ kind, kind ≠ .team →
      reached.stored? later project kind = store.stored? now project kind) :
    reached.Shows later project bundle where
  project_eq := h.project_eq
  data := (hsame .data (by decide)).trans h.data
  contentBase := (hsame .contentBase (by decide)).trans h.contentBase
  inlineAgent := by
    have hinline := hsame .inlineAgent (by decide)
    unfold stored? at hinline
    rw [← h.inlineAgent, inlineAgent?, inlineAgent?, hinline]

/-- While nothing expires the same documents are stored. -/
theorem Lasts.stored?_eq (h : store.Lasts now later) (project : String) (kind : Kind) :
    store.stored? later project kind = store.stored? now project kind :=
  h.document?_eq kind.decode _

theorem Lasts.mirrors (h : store.Lasts now later) (hmirrors : store.Mirrors now project) :
    store.Mirrors later project := by
  intro bundle hbundle
  rw [h.document?_eq] at hbundle
  exact (hmirrors bundle hbundle).congr fun kind _ => h.stored?_eq project kind

end Store

namespace Cache

/-! ## Pushing a document -/

/-- A repair keeps the documents of the project, but for the bundle. -/
theorem Repaired.stored?_eq {requested : Option String} {built : Except Error Bool}
    (h : Repaired ttls now project requested store built reached) (hkind : kind ≠ .team) :
    reached.stored? now project kind = store.stored? now project kind := by
  have hkey : Key.entry project kind none = .ok (Key.plain project kind) :=
    Key.entry_of_ne_team hkind project none
  have hne := Key.entry_ne_bundle hkey
  have hsifted := store.sifted_siftInlineAgent now project
  unfold Store.stored?
  cases h with
  | rebuilt =>
    rw [← hsifted.document?_eq hkey]
    apply Store.document?_congr
    rw [Store.live?_put, if_neg hne.symm]
  | dropped hsifted =>
    rw [← hsifted.document?_eq hkey]
    apply Store.document?_congr
    rw [Store.live?_drop, if_neg hne]
  | refused => exact hsifted.document?_eq hkey

/-- A repair that does not fail leaves a store that mirrors its documents. -/
theorem Repaired.mirrors {requested : Option String} {built : Except Error Bool}
    (h : Repaired ttls now project requested store built reached)
    (hrange : now + ttls.bundle.nanos < Store.clockEnd) : reached.Mirrors now project := by
  have hsame : ∀ kind, kind ≠ .team →
      reached.stored? now project kind = store.stored? now project kind :=
    fun kind hkind => h.stored?_eq hkind
  intro bundle hbundle
  cases h with
  | @rebuilt backend assembled _ hassembled =>
    obtain rfl := Store.eq_of_document?_put_bundle (Store.plain_of_assemble hassembled) hbundle
    exact (Store.shows_of_assemble hassembled).congr hsame
  | dropped =>
    rw [Store.document?_drop_self] at hbundle
    cases hbundle
  | refused _ _ hbeyond => exact absurd hrange hbeyond

/-- Whatever was stored before, a pushed document is found again, the others are kept, and the bundle
shows what is stored. -/
theorem Refreshed.pushed {value : kind.Value} {backend : Option String}
    {result : Except Error Unit}
    (h : Refreshed ttls now project ⟨kind, value⟩ backend store result reached)
    (hkind : kind ≠ .team) (hplain : kind.Plain value) (hpositive : ttls.Positive)
    (hrange : ttls.InRange now) :
    result = .ok () ∧ store.Pushed now project kind value reached := by
  cases h with
  | keyless hkey => exact absurd (Key.entry_eq_error hkey).1 hkind
  | refused hbeyond => exact absurd (hrange.ofKind kind) hbeyond
  | @repaired key built _ hkey _ hreached =>
    obtain rfl := Except.ok.inj (hkey.symm.trans (Key.entry_of_ne_team hkind project backend))
    -- the repair after the write touches neither this document nor another
    refine ⟨?_, ?_, ?_, hreached.mirrors hrange.bundle⟩
    · cases hreached with
      | rebuilt => rfl
      | dropped => rfl
      | refused _ _ hbeyond => exact absurd hrange.bundle hbeyond
    · rw [hreached.stored?_eq hkind]
      have hlive := Store.live?_put_self (hpositive.isLive_entry now kind value) store
        (Key.plain project kind)
      exact Store.document?_of_live hlive (Kind.decode_encode hplain)
    · intro other hother hne
      rw [hreached.stored?_eq hother]
      apply Store.document?_congr
      rw [Store.live?_put, if_neg]
      intro heq
      exact hne (Key.plain_inj.1 heq).symm

/-! ## Reading afterwards -/

/-- A stored document is returned, and the fetch function has no part in it. -/
theorem get_of_stored {world : World} {backend : Option String} {value : kind.Value}
    (hkind : kind ≠ .team) (houtages : world.outages = [])
    (hvalue : world.store.stored? world.now project kind = some value) :
    ∃ world', ∀ fetch, get ttls kind project backend fetch world = .ok value world' :=
  ⟨world.hit _, get_of_document? houtages (Key.entry_of_ne_team hkind project backend) hvalue ttls⟩

/-- A bundle that a reader is given shows what is stored, or is made of answers of the source. -/
theorem getBundle_of_mirrors {world world' : World} {source : Source} {requested : Option String}
    {bundle : Bundle} (hrun : getBundle ttls source project requested world = .ok bundle world')
    (houtages : world.outages = []) (hrange : ttls.InRange world.now)
    (hmirrors : world.store.Mirrors world.now project) :
    world.store.Shows world.now project bundle ∨
      ∃ backend, source.Supplies project backend bundle := by
  have hend : getBundle ttls source project requested world = CacheM.ending (.ok bundle) world' :=
    hrun
  obtain ⟨reached, -, hbundled⟩ :=
    (ensures_getBundle hrange world.store source project requested).of_ending
      ⟨rfl, houtages, rfl⟩ hend
  cases hbundled with
  | present hbundle => exact .inl (hmirrors bundle hbundle)
  | fetched _ hsupplies => exact .inr ⟨_, hsupplies⟩

end Cache

end ProjectCache
