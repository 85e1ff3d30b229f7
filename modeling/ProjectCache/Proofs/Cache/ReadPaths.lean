/-
# ProjectCache.Proofs.Cache.ReadPaths — a turn and a bundle show the same documents.

There are two ways to read a project. A turn reads its documents one after the other under their own
keys, and a bundle has them in one. As long as what a store holds of a project is what the source
answers (`Store.Reflects`), whichever documents these are, a turn that comes to an end has the answers
of the source in it (`Turn.Loaded.supplies`); so does a bundle that is fetched, and storing it with its
documents keeps the store a reflection of the source. Where the cache held nothing of the project, the
two ways therefore agree, whichever is taken first.
-/
import ProjectCache.Proofs.Cache.Furnishing

namespace ProjectCache

variable {now later : Nat} {project key backend : String} {requested : Option String} {ttls : Ttls}
  {kind : Kind} {store reached : Store} {source : Source}

/-- Keys of one kind differ in the backend only where the requests do. -/
theorem Cache.requestFor_of_part_eq {other : String}
    (h : Key.part project kind backend = Key.part project kind other) :
    requestFor kind project (some backend) = requestFor kind project (some other) := by
  cases kind with
  | team => exact congrArg (fun b => Request.mk project (some b)) (Key.team_inj.1 h)
  | _ => rfl

namespace Store

/-- The store holds nothing of the project. -/
structure Lacks (store : Store) (now : Nat) (project : String) : Prop where
  document : ∀ kind backend, store.live? now (Key.part project kind backend) = none
  bundle : store.live? now (Key.bundle project) = none

/-- What the store holds of the project, the bundle apart, is what the source answers. -/
def Reflects (store : Store) (now : Nat) (source : Source) (project : String) : Prop :=
  ∀ kind backend value,
    store.document? kind.decode now (Key.part project kind backend) = some value →
      source.answer kind (Cache.requestFor kind project (some backend)) = .ok value

/-- What is not live now is no document later. -/
theorem document?_eq_none_of_le {α : Type} {decode : Decoder α} (hle : now ≤ later)
    (h : store.live? now key = none) : store.document? decode later key = none := by
  cases hdocument : store.document? decode later key with
  | none => rfl
  | some value =>
    obtain ⟨entry, hlive, -⟩ := document?_eq_some.1 hdocument
    rw [Remainder.of_le store hle key entry hlive] at h
    cases h

theorem Lacks.reflects (h : store.Lacks now project) (source : Source) :
    store.Reflects now source project := by
  intro kind backend value hvalue
  obtain ⟨entry, hlive, -⟩ := document?_eq_some.1 hvalue
  rw [h.document kind backend] at hlive
  cases hlive

namespace Reflects

theorem of_remainder (h : store.Reflects now source project)
    (hreached : store.Remainder now reached later) : reached.Reflects later source project := by
  intro kind backend value hvalue
  obtain ⟨entry, hlive, hdecode⟩ := document?_eq_some.1 hvalue
  exact h kind backend value (document?_of_live (hreached _ _ hlive) hdecode)

theorem put_bundle (h : store.Reflects now source project) (entry : Entry) :
    (store.put (Key.bundle project) entry).Reflects now source project := by
  intro kind backend value hvalue
  have hne := Key.entry_ne_bundle (Key.entry_some project kind backend)
  have hsame : (store.put (Key.bundle project) entry).live? now (Key.part project kind backend)
      = store.live? now (Key.part project kind backend) := by
    rw [live?_put, if_neg hne.symm]
  rw [document?_congr hsame] at hvalue
  exact h kind backend value hvalue

/-- An answer of the source may be stored. -/
theorem put_part (h : store.Reflects now source project) {value : kind.Value}
    (hplain : kind.Plain value)
    (hanswer : source.answer kind (Cache.requestFor kind project (some backend)) = .ok value) :
    (store.put (Key.part project kind backend) (ttls.entry now kind value)).Reflects now source
      project := by
  intro other backend' found hfound
  by_cases hkey : Key.part project kind backend = Key.part project other backend'
  · -- under one key there is one kind of documents, and one request
    obtain rfl := Key.kind_of_part hkey
    rw [← hkey] at hfound
    have hsame := eq_of_document?_put (Kind.decode_encode hplain) hfound
    rw [← Cache.requestFor_of_part_eq hkey, hsame]
    exact hanswer
  · have hsame : (store.put (Key.part project kind backend) (ttls.entry now kind value)).live? now
        (Key.part project other backend') = store.live? now (Key.part project other backend') := by
      rw [live?_put, if_neg hkey]
    rw [document?_congr hsame] at hfound
    exact h other backend' found hfound

end Reflects

end Store

/-! ## Turns -/

/-- What a turn furnishes is the answer of its source. -/
theorem Operation.Furnishes.answer {document : Document}
    (h : (Operation.turn source project).Furnishes ttls store now key document) :
    ∃ backend, key = Key.part project document.kind backend ∧
      source.answer document.kind (Cache.requestFor document.kind project (some backend))
        = .ok document.value := by
  cases h with
  | @turnResolved _ _ resolved kind value hresolved hpart =>
    refine ⟨"", ?_, hresolved.answer hpart _⟩
    cases kind with
    | team => cases hpart
    | _ => rfl
  | @turnRead _ _ backend _ kind value _ _ _ _ _ hfetched => exact ⟨backend, rfl, hfetched⟩

namespace Turn

/-- The bundle of the documents of a turn. -/
def bundle (turn : Turn) : Bundle where
  data := turn.project
  project := turn.project
  contentBase := turn.contentBase
  team := turn.team
  guardrails := turn.guardrails
  inlineAgent := turn.inlineAgent
  agentsBackend := some turn.agentsBackend

/-- A document that is accounted for in a store that reflects the source is the source's answer. -/
theorem Accounted.answer {value : kind.Value} (hreflects : store.Reflects now source project)
    (h : Accounted ttls now source project backend store kind value) :
    source.answer kind (Cache.requestFor kind project (some backend)) = .ok value := by
  rcases h with hstored | hfurnished
  · exact hreflects kind backend value hstored
  · obtain ⟨other, hkey, hanswer⟩ := hfurnished.answer
    rw [Cache.requestFor_of_part_eq hkey]
    exact hanswer

/-- A turn that comes to an end over a store that reflects the source has the answers of the source in
it, for the backend that the settings name. -/
theorem Loaded.supplies {turn : Turn} (hreflects : store.Reflects now source project)
    (h : Loaded ttls now source project store turn reached) :
    source.Supplies project turn.agentsBackend turn.bundle ∧
      turn.project.agentsBackend = some turn.agentsBackend := by
  have hanswer : ∀ kind, source.answer kind
      (Cache.requestFor kind project (some turn.agentsBackend)) = .ok (turn.part kind) :=
    fun kind => (h.accounted kind).answer hreflects
  obtain ⟨resolved, hresolves, hbackend⟩ := h.backend
  -- the settings that were read are those of the source, so both name the same backend
  have hsame : resolved.project = turn.project :=
    Except.ok.inj (hresolves.data.symm.trans (hanswer .data))
  rw [hsame] at hbackend
  refine ⟨⟨hanswer .data, rfl, hanswer .contentBase, hanswer .team, hanswer .guardrails,
    hanswer .inlineAgent, rfl⟩, ?_⟩
  cases hnamed : turn.project.agentsBackend with
  | none =>
    rw [hnamed] at hbackend
    cases hbackend
  | some b =>
    rw [hnamed] at hbackend
    exact hbackend

end Turn

/-! ## Bundles -/

/-- The documents of a bundle that the source supplies are its answers. -/
theorem Source.Supplies.answer {bundle : Bundle} {value : kind.Value}
    (h : source.Supplies project backend bundle) (hpart : bundle.part kind = some value) :
    source.answer kind (Cache.requestFor kind project (some backend)) = .ok value := by
  cases kind with
  | data => exact Option.some.inj hpart ▸ h.data
  | contentBase => exact Option.some.inj hpart ▸ h.contentBase
  | team => exact Option.some.inj hpart ▸ h.team
  | guardrails => exact Option.some.inj hpart ▸ h.guardrails
  | inlineAgent =>
    obtain ⟨inlineAgent, hsome, rfl⟩ := Option.map_eq_some_iff.1 hpart
    exact h.inlineAgent.trans (congrArg Except.ok hsome)
  | instructions => cases hpart
  | agent => cases hpart

/-- A document that the source has is fetched. -/
theorem Source.yields_fetch {request : Request} {value : kind.Value}
    (h : source.answer kind request = .ok value) :
    CacheM.Yields now store (source.fetch kind request) value store :=
  (source.fetch_fetches kind request now store).mono fun _ _ hfetched =>
    ⟨hfetched.1.trans h, hfetched.2⟩

namespace Cache

/-- Reading a bundle stores nothing but answers of the source, also when it fails half way. -/
theorem ensures_getBundle_reflects (hplain : source.Plain)
    (h : store.Reflects now source project) (ttls : Ttls) (requested : Option String) :
    CacheM.Ensures now store (getBundle ttls source project requested)
      fun _ reached => reached.Reflects now source project := by
  refine ensures_getBundle_of (fun _ _ _ => h) fun _ => ?_
  have hsifted := h.of_remainder (.sift store Bundle.decode now (Key.bundle project))
  refine ensures_supplyBundle (fun _ => hsifted) fun bundle backend hbundle _ => ?_
  refine CacheM.Ensures.mono (ensures_writeParts (·.Reflects now source project)
    (fun store hstore => hstore.put_bundle _) (fun store kind value hvalue hstore => ?_) hsifted)
    fun _ _ hreached => hreached
  exact hstore.put_part ((hbundle.plain hplain).part hvalue) (hbundle.answer hvalue)

/-- A bundle that is missing is returned when the source has its documents and they can be stored. -/
theorem yields_getBundle {bundle : Bundle} (hrange : ttls.InRange now)
    (hmissing : store.document? Bundle.decode now (Key.bundle project) = none)
    (hbundle : source.Supplies project backend bundle)
    (hbackend : (requested <|> bundle.data.agentsBackend) = some backend) :
    CacheM.Yields now store (getBundle ttls source project requested) bundle
      ((store.sift Bundle.decode now (Key.bundle project)).withParts ttls now project backend
        bundle) := by
  refine ensures_getBundle_of (fun found hfound _ => ?_) fun _ => ?_
  · rw [hmissing] at hfound
    cases hfound
  have hparts : (Bundle.ofParts bundle.data bundle.contentBase bundle.team bundle.guardrails
      bundle.inlineAgent).withBackend backend = bundle := by
    have hproject := hbundle.project_eq
    have hnamed := hbundle.agentsBackend
    cases bundle
    cases hproject
    cases hnamed
    rfl
  unfold supplyBundle
  refine (CacheM.yields_count _).bind ((Source.yields_fetch hbundle.data).bind ?_)
  simp only [hbackend]
  have hfetched : CacheM.Yields now (store.sift Bundle.decode now (Key.bundle project))
      (fetchBundle source project bundle.data backend) bundle
      (store.sift Bundle.decode now (Key.bundle project)) := by
    unfold fetchBundle
    refine (Source.yields_fetch hbundle.contentBase).bind ?_
    refine (Source.yields_fetch hbundle.team).bind ?_
    refine (Source.yields_fetch hbundle.guardrails).bind ?_
    refine (Source.yields_fetch hbundle.inlineAgent).bind ?_
    rw [hparts]
    exact CacheM.yields_pure bundle
  refine hfetched.bind ((yields_writeParts hrange _ project backend bundle).bind ?_)
  exact CacheM.yields_pure bundle

end Cache

/-! ## The two together -/

/-- Where the cache holds nothing of a project, a turn that comes to an end and a bundle that is read for
any backend have the same documents in them, whichever is read first. Time may pass between the two and
entries expire; the bundle's are within the time that the clock can count. -/
theorem read_paths_agree {ttls : Ttls} {slow : Span} {source : Source} {project : String}
    (world : World) {first : World} {later : Nat} (hplain : source.Plain) (houtages : world.outages = [])
    (hlacks : world.store.Lacks world.now project) (hle : world.now ≤ later)
    (hrange : ttls.InRange world.now) (hlater : ttls.InRange later) :
    (∀ turn, Turn.prepare ttls slow source project world = .ok turn first →
      ∃ last, Cache.getBundle ttls source project none { first with now := later }
        = .ok turn.bundle last) ∧
    ∀ result, Cache.getBundle ttls source project none world = CacheM.ending result first →
      ∀ turn last, Turn.prepare ttls slow source project { first with now := later }
        = .ok turn last → result = .ok turn.bundle := by
  have hcalm : world.Calm world.now world.store := ⟨rfl, houtages, rfl⟩
  constructor
  · intro turn hturn
    obtain ⟨_, hcalm', -, hloaded⟩ := (Turn.ensures_prepare
      (Turn.ensures_load_renewed hplain ttls world.now project world.store) slow).of_ending hcalm
      (show _ = CacheM.ending (.ok turn) first from hturn)
    obtain ⟨hbundle, hnamed⟩ := (hloaded turn rfl).supplies (hlacks.reflects source)
    have hbackend : (none <|> turn.bundle.data.agentsBackend) = some turn.agentsBackend := hnamed
    -- the turn did not touch the bundle, so it is still missing and is fetched
    have hmissing : first.store.document? Bundle.decode later (Key.bundle project) = none := by
      apply Store.document?_eq_none_of_le hle
      rw [hcalm'.store_eq, (hloaded turn rfl).bundle]
      exact hlacks.bundle
    obtain ⟨result, _, last, hlast, -, rfl, -⟩ :=
      Cache.yields_getBundle hlater hmissing hbundle hbackend
        { first with now := later } ⟨rfl, hcalm'.outages_eq, rfl⟩
    exact ⟨last, hlast⟩
  · intro result hresult turn last hturn
    obtain ⟨_, ⟨-, houtages', rfl⟩, hreflects⟩ :=
      (Cache.ensures_getBundle_reflects hplain (hlacks.reflects source) ttls none).of_ending hcalm
        hresult
    have hcalm' : ({ first with now := later } : World).Calm later first.store :=
      ⟨rfl, houtages', rfl⟩
    obtain ⟨_, -, -, hloaded⟩ := (Turn.ensures_prepare
      (Turn.ensures_load_renewed hplain ttls later project first.store) slow).of_ending hcalm'
      (show _ = CacheM.ending (.ok turn) last from hturn)
    obtain ⟨hbundle, hnamed⟩ :=
      (hloaded turn rfl).supplies (hreflects.of_remainder (.of_le first.store hle))
    have hbackend : (none <|> turn.bundle.data.agentsBackend) = some turn.agentsBackend := hnamed
    -- what the turn shows the source to have is all that the bundle needed
    have hmissing : world.store.document? Bundle.decode world.now (Key.bundle project) = none :=
      Store.document?_eq_none_of_le (Nat.le_refl _) hlacks.bundle
    exact ((Cache.yields_getBundle hrange hmissing hbundle hbackend).of_ending hcalm
      hresult).elim fun _ hreached => hreached.2.1

/-- A single project is read in both orders, a nanosecond apart. -/
theorem read_paths_agree_of_lone : ∃ turn first last bundle first' turn' last',
    Turn.prepare .default Turn.slowThreshold (.sole .lone) "p" { now := 0 } = .ok turn first ∧
    Cache.getBundle .default (.sole .lone) "p" none { first with now := 1 }
      = .ok turn.bundle last ∧
    Cache.getBundle .default (.sole .lone) "p" none { now := 0 } = .ok bundle first' ∧
    Turn.prepare .default Turn.slowThreshold (.sole .lone) "p" { first' with now := 1 }
      = .ok turn' last' ∧ bundle = turn'.bundle := by
  obtain ⟨turn, first, hturn, -⟩ : ∃ turn first,
      Turn.prepare .default Turn.slowThreshold (.sole .lone) "p" { now := 0 } = .ok turn first ∧
        turn.agentsBackend = "b" := by decide +kernel
  obtain ⟨bundle, first', hbundle, turn', last', hturn', -⟩ : ∃ bundle first',
      Cache.getBundle .default (.sole .lone) "p" none { now := 0 } = .ok bundle first' ∧
        ∃ turn' last', Turn.prepare .default Turn.slowThreshold (.sole .lone) "p"
          { first' with now := 1 } = .ok turn' last' ∧ turn'.agentsBackend = "b" := by
    decide +kernel
  have hplain := Source.plain_sole Project.plain_lone
  have hlacks : Store.empty.Lacks 0 "p" := ⟨fun _ _ => rfl, rfl⟩
  have hlater : Ttls.default.InRange 1 :=
    ⟨fun kind => by cases kind <;> decide, by decide⟩
  obtain ⟨last, hlast⟩ := (read_paths_agree { now := 0 } hplain rfl hlacks (Nat.zero_le 1)
    Ttls.inRange_default hlater).1 turn hturn
  have hsame := (read_paths_agree { now := 0 } hplain rfl hlacks (Nat.zero_le 1)
    Ttls.inRange_default hlater).2 (.ok bundle) hbundle turn' last' hturn'
  exact ⟨turn, first, last, bundle, first', turn', last', hturn, hlast, hbundle, hturn',
    Except.ok.inj hsame⟩

end ProjectCache
