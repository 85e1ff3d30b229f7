/-
# ProjectCache.Proofs.Cache.Refetch — what fetching a document anew does to the bundle.

A store is *complete* for a project when beside a bundle of some backend the required documents of
that backend are live (`Store.Complete`). Fetching a document anew deletes the old one first. It ends
with a repair when there is a new document to store, and then the store is complete again. When there
is none it ends at once, and a bundle with the deleted document stays where it is: the store is
complete afterwards exactly when the document was stored again, or was in no bundle
(`Cache.refreshWith_complete_iff`).
-/
import ProjectCache.Proofs.Cache.Outcomes

namespace ProjectCache

variable {now : Nat} {project key : String} {ttls : Ttls} {kind : Kind} {store reached : Store}

namespace Store

/-- Beside a bundle of some backend the required documents of that backend are live. -/
def Complete (store : Store) (now : Nat) (project : String) : Prop :=
  ∀ bundle ∈ store.document? Bundle.decode now (Key.bundle project),
    ∀ backend ∈ bundle.agentsBackend, ∀ kind ∈ Kind.required,
      (store.live? now (Key.part project kind backend)).isSome

instance (store : Store) (now : Nat) (project : String) : Decidable (store.Complete now project) :=
  inferInstanceAs (Decidable (∀ bundle ∈ store.document? Bundle.decode now (Key.bundle project),
    ∀ backend ∈ bundle.agentsBackend, ∀ kind ∈ Kind.required,
      (store.live? now (Key.part project kind backend)).isSome))

/-- Is the document that a kind and a backend stand for part of the project's bundle? -/
def InBundle (store : Store) (now : Nat) (project : String) (kind : Kind)
    (backend : Option String) : Prop :=
  ∃ bundle ∈ store.document? Bundle.decode now (Key.bundle project),
    ∃ b ∈ bundle.agentsBackend, Key.entry project kind backend = .ok (Key.part project kind b)

/-- Without a bundle a store is complete. -/
theorem complete_drop (store : Store) (now : Nat) (project : String) :
    (store.drop (Key.bundle project)).Complete now project := by
  intro bundle hbundle
  rw [document?_drop_self] at hbundle
  cases hbundle

/-- A required document is not the configuration of inline agents. -/
theorem live?_siftInlineAgent_of_required {backend : Option String} (hkind : kind ∈ Kind.required)
    (hkey : Key.entry project kind backend = .ok key) :
    (store.siftInlineAgent now project).live? now key = store.live? now key := by
  apply live?_sift_of_ne
  rintro rfl
  obtain rfl := Key.kind_of_entry hkey (Key.entry_of_ne_team (by decide) project none)
  exact absurd hkind (by decide)

end Store

namespace Cache

/-- The entry of a document that was deleted is missing exactly beside a bundle that it is part of. -/
theorem complete_drop_iff {backend : Option String} (hkind : kind ∈ Kind.required)
    (hkey : Key.entry project kind backend = .ok key) (hcomplete : store.Complete now project) :
    (store.drop key).Complete now project ↔ ¬ store.InBundle now project kind backend := by
  have hbundle : (store.drop key).document? Bundle.decode now (Key.bundle project)
      = store.document? Bundle.decode now (Key.bundle project) := by
    apply Store.document?_congr
    rw [Store.live?_drop, if_neg (Key.entry_ne_bundle hkey).symm]
  constructor
  · rintro h ⟨bundle, hmem, b, hb, hentry⟩
    obtain rfl := Except.ok.inj (hkey.symm.trans hentry)
    have hlive := h bundle (hbundle ▸ hmem) b hb kind hkind
    rw [Store.live?_drop, if_pos rfl] at hlive
    cases hlive
  · intro h bundle hmem b hb other hother
    rw [hbundle] at hmem
    rw [Store.live?_drop, if_neg]
    · exact hcomplete bundle hmem b hb other hother
    · -- a deleted component of the bundle is what the right side rules out
      intro heq
      obtain rfl := Key.kind_of_entry hkey (heq ▸ Key.entry_some project other b)
      exact h ⟨bundle, hmem, b, hb, heq ▸ hkey⟩

/-- A repair after a document was stored leaves the store complete. -/
theorem Repaired.complete {backend requested : Option String} {value : kind.Value}
    {built : Except Error Bool}
    (h : Repaired ttls now project requested (store.put key (ttls.entry now kind value)) built reached)
    (hkey : Key.entry project kind backend = .ok key) (hrequested : ∀ b ∈ backend, b ∈ requested)
    (hcomplete : store.Complete now project) : reached.Complete now project := by
  cases h with
  | @rebuilt backend' bundle hbackend hbundle hrange =>
    intro other hother b hb kind' hkind'
    obtain rfl := Store.eq_of_document?_put_bundle (Store.plain_of_assemble hbundle) hother
    obtain ⟨-, -, -, -, -, -, hagents⟩ := Store.assemble_eq_some_iff.1 hbundle
    obtain rfl : b = backend' := Option.some.inj (hb.symm.trans hagents)
    have hentry := Key.entry_some project kind' b
    rw [Store.live?_put, if_neg (Key.entry_ne_bundle hentry).symm,
      Store.live?_siftInlineAgent_of_required hkind' hentry]
    exact Store.isSome_live?_of_document? (Store.document?_isSome_of_assemble hbundle hkind' hentry)
  | dropped => exact Store.complete_drop _ now project
  | @refused backend' bundle e hbackend hbundle hrange =>
    -- the old bundle is still there, and its backend need not be the one of the repair
    intro old hold b hb kind' hkind'
    have hentry := Key.entry_some project kind' b
    rw [Store.live?_siftInlineAgent_of_required hkind' hentry]
    by_cases hsame : key = Key.part project kind' b
    · -- the new document is among those that the bundle could be built from
      obtain rfl := Key.kind_of_entry hkey (hsame ▸ hentry)
      have hbuilt : Key.entry project kind (some backend') = .ok key := by
        rcases Key.entry_eq_ok_iff.1 hkey with ⟨rfl, x, rfl, rfl⟩ | ⟨hteam, rfl⟩
        · rw [Option.mem_def.1 (hrequested x rfl), Store.repairBackend_some] at hbackend
          rw [← Option.some.inj hbackend, Key.entry_team]
        · exact Key.entry_of_ne_team hteam project _
      rw [← hsame]
      exact Store.isSome_live?_of_document?
        (Store.document?_isSome_of_assemble hbundle hkind' hbuilt)
    · rw [Store.live?_put, if_neg hsame]
      refine hcomplete old ?_ b hb kind' hkind'
      have hlive := (Store.sifted_siftInlineAgent (store.put key (ttls.entry now kind value)) now
        project).live?_bundle
      rw [Store.live?_put, if_neg (Key.entry_ne_bundle hkey)] at hlive
      exact (Store.document?_congr hlive Bundle.decode).symm.trans hold

/-- A document that is fetched anew leaves a complete store complete exactly when it is stored again
or was in no bundle. -/
theorem Refetched.complete_iff {backend : Option String} {answer result : Except Error kind.Value}
    (h : Refetched ttls now kind project backend (· = answer) store result reached)
    (hkind : kind ∈ Kind.required) (hcomplete : store.Complete now project) :
    reached.Complete now project ↔
      (∃ value, answer = .ok value ∧ now + (ttls.ofKind kind).nanos < Store.clockEnd) ∨
        ¬ store.InBundle now project kind backend := by
  cases h with
  | @keyless e hkey =>
    refine iff_of_true hcomplete (.inr ?_)
    rintro ⟨bundle, hbundle, b, hb, hentry⟩
    obtain ⟨rfl, rfl⟩ := Key.entry_eq_error hkey
    cases hentry
  | @failed key e hkey hcause =>
    have hnone : ¬ ∃ value, answer = .ok value ∧ now + (ttls.ofKind kind).nanos < Store.clockEnd := by
      rintro ⟨value, rfl, hrange⟩
      rcases hcause with he | ⟨_, -, hbeyond⟩
      · cases he
      · exact hbeyond hrange
    rw [complete_drop_iff hkind hkey hcomplete]
    exact ⟨.inr, fun h => h.resolve_left hnone⟩
  | @repaired key value built _ hkey hfetched hrange hreached =>
    refine iff_of_true (hreached.complete hkey ?_ hcomplete) (.inl ⟨value, hfetched.symm, hrange⟩)
    rintro b hb
    rw [Option.mem_def.1 hb]
    rfl

/-- Whatever the fetch function answers, fetching a required document anew ends, and leaves a complete
store complete exactly when the answer is a document that is stored, or the deleted one was not part
of the bundle. -/
theorem refreshWith_complete_iff {backend : Option String} {fetch : Fetch kind}
    {answer : Except Error kind.Value} {world : World} (hkind : kind ∈ Kind.required)
    (hfetch : (fetch (requestFor kind project backend)).Fetches (· = answer))
    (houtages : world.outages = []) (hcomplete : world.store.Complete world.now project) :
    ∃ result world',
      refreshWith ttls kind project backend fetch world = CacheM.ending result world' ∧
      (world'.store.Complete world'.now project ↔
        (∃ value, answer = .ok value ∧
          world.now + (ttls.ofKind kind).nanos < Store.clockEnd) ∨
        ¬ world.store.InBundle world.now project kind backend) := by
  obtain ⟨result, reached, world', hrun, hcalm, hrefetched⟩ :=
    ensures_refreshWith hfetch ttls world.now world.store world ⟨rfl, houtages, rfl⟩
  refine ⟨result, world', hrun, ?_⟩
  rw [hcalm.now_eq, hcalm.store_eq]
  exact hrefetched.complete_iff hkind hcomplete

theorem refreshWith_complete_iff_of_outage :
    Store.lone.Complete 0 "p" ∧
    ∃ result world', refreshWith .default .guardrails "p" none
        (fun _ => throw (.fetch "guardrails" "down")) { now := 0, store := .lone }
          = CacheM.ending result world' ∧
      (world'.store.Complete world'.now "p" ↔
        (∃ value, (Except.error (.fetch "guardrails" "down") : Except Error Guardrails) = .ok value ∧
          0 + (Ttls.default.ofKind .guardrails).nanos < Store.clockEnd) ∨
        ¬ Store.lone.InBundle 0 "p" .guardrails none) := by
  have hcomplete : Store.lone.Complete 0 "p" := by decide +kernel
  refine ⟨hcomplete, ?_⟩
  exact refreshWith_complete_iff (by decide) (fun _ _ => CacheM.ensures_throw ⟨rfl, rfl⟩) rfl hcomplete

/-- When the fetch fails, the bundle is left behind without its guardrails. -/
theorem refreshWith_leaves_incomplete :
    Store.lone.Complete 0 "p" ∧
    ∃ result world', refreshWith .default .guardrails "p" none
        (fun _ => throw (.fetch "guardrails" "down")) { now := 0, store := .lone }
          = CacheM.ending result world' ∧
      ¬ world'.store.Complete world'.now "p" := by
  decide +kernel

end Cache

end ProjectCache
