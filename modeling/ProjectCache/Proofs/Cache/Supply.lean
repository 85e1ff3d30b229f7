/-
# ProjectCache.Proofs.Cache.Supply — rosters in a store were supplied for their backend.

All backends of a project share the key of its bundle, and each has a key for its roster. A store is
sourced by a supply (`Store.Sourced`) when the roster under each of these keys, and the roster of each
bundle that names a backend, was supplied for just that project and backend. Taking entries away keeps
a store sourced, and so does putting a document that the supply covers (`Supply.Covers`) or a bundle of
stored documents. That is all that the operations of a cache do.
-/
import ProjectCache.Proofs.Cache.Outcomes

namespace ProjectCache

variable {now later : Nat} {project key : String} {backend requested : Option String} {ttls : Ttls}
  {kind : Kind} {store reached : Store}

/-- Which rosters were supplied, for which project and backend. -/
abbrev Supply := String → String → List TeamMember → Prop

variable {supply : Supply}

/-- The document is the roster that was supplied for the backend, or it is no roster. -/
def Supply.Covers (supply : Supply) (project : String) (backend : Option String)
    (document : Document) : Prop :=
  ∀ b team, backend = some b → document = ⟨.team, team⟩ → supply project b team

theorem Supply.covers_of_ne_team {document : Document} (h : document.kind ≠ .team) :
    supply.Covers project backend document := by
  rintro b team - rfl
  exact absurd rfl h

theorem Supply.covers_team {b : String} {team : List TeamMember} :
    supply.Covers project (some b) ⟨.team, team⟩ ↔ supply project b team := by
  constructor
  · intro h
    exact h b team rfl rfl
  · rintro h _ _ ⟨⟩ ⟨⟩
    exact h

namespace Store

/-- Each roster, and the roster of each bundle that names a backend, was supplied for its project and
backend. -/
structure Sourced (store : Store) (now : Nat) (supply : Supply) : Prop where
  roster : ∀ {project backend team}, ':' ∉ project.toList →
    store.document? (Kind.decode .team) now (Key.team project backend) = some team →
      supply project backend team
  bundle : ∀ {project backend bundle}, ':' ∉ project.toList →
    store.document? Bundle.decode now (Key.bundle project) = some bundle →
      bundle.agentsBackend = some backend → supply project backend bundle.team

namespace Sourced

theorem empty (now : Nat) (supply : Supply) : Store.empty.Sourced now supply where
  roster _ h := nomatch h
  bundle _ h := nomatch h

theorem mono (h : store.Sourced now supply) {supply' : Supply}
    (hsupply : ∀ project backend team, supply project backend team → supply' project backend team) :
    store.Sourced now supply' where
  roster hproject hteam := hsupply _ _ _ (h.roster hproject hteam)
  bundle hproject hbundle hbackend := hsupply _ _ _ (h.bundle hproject hbundle hbackend)

theorem of_remainder (h : store.Sourced now supply) (hreached : store.Remainder now reached later) :
    reached.Sourced later supply where
  roster hproject hteam := by
    obtain ⟨entry, hlive, hdecode⟩ := document?_eq_some.1 hteam
    exact h.roster hproject (document?_of_live (hreached _ _ hlive) hdecode)
  bundle hproject hbundle hbackend := by
    obtain ⟨entry, hlive, hdecode⟩ := document?_eq_some.1 hbundle
    exact h.bundle hproject (document?_of_live (hreached _ _ hlive) hdecode) hbackend

/-- An entry may be put where it is no roster and no bundle, or one that was supplied. -/
theorem put (h : store.Sourced now supply) {entry : Entry}
    (hroster : ∀ {project backend team}, ':' ∉ project.toList → key = Key.team project backend →
      Kind.decode .team entry.value = .ok team → supply project backend team)
    (hbundle : ∀ {project backend bundle}, ':' ∉ project.toList → key = Key.bundle project →
      Bundle.decode entry.value = .ok bundle → bundle.agentsBackend = some backend →
        supply project backend bundle.team) :
    (store.put key entry).Sourced now supply where
  roster := by
    intro project backend team hproject hteam
    obtain ⟨found, hlive, hdecode⟩ := document?_eq_some.1 hteam
    by_cases hkey : key = Key.team project backend
    · rw [hkey] at hlive
      obtain rfl := eq_of_live?_put hlive
      exact hroster hproject hkey hdecode
    · rw [live?_put, if_neg hkey] at hlive
      exact h.roster hproject (document?_of_live hlive hdecode)
  bundle := by
    intro project backend bundle hproject hdocument hbackend
    obtain ⟨found, hlive, hdecode⟩ := document?_eq_some.1 hdocument
    by_cases hkey : key = Key.bundle project
    · rw [hkey] at hlive
      obtain rfl := eq_of_live?_put hlive
      exact hbundle hproject hkey hdecode hbackend
    · rw [live?_put, if_neg hkey] at hlive
      exact h.bundle hproject (document?_of_live hlive hdecode) hbackend

/-- An entry that belongs to no project is no matter of rosters. -/
theorem put_foreign (h : store.Sourced now supply) (hkey : ∀ project, ¬ Key.InScope project key)
    (entry : Entry) : (store.put key entry).Sourced now supply := by
  refine h.put ?_ ?_
  · rintro project backend team - rfl
    exact absurd (Key.team_inScope project backend) (hkey project)
  · rintro project backend bundle - rfl
    exact absurd (Key.bundle_inScope project) (hkey project)

theorem put_document (h : store.Sourced now supply) (hproject : ':' ∉ project.toList)
    {value : kind.Value} (hkey : Key.entry project kind backend = .ok key)
    (hplain : kind.Plain value) (hcovers : supply.Covers project backend ⟨kind, value⟩) :
    (store.put key (ttls.entry now kind value)).Sourced now supply := by
  have hscope := Key.entry_inScope hkey
  refine h.put ?_ ?_
  · rintro other b team hother rfl hdecode
    -- the key is the one of a roster, so it is this project's and the document is a roster
    obtain rfl := Key.eq_of_inScope hproject hother hscope (Key.team_inScope other b)
    obtain rfl := Key.kind_of_entry hkey (Key.entry_team project b)
    obtain rfl : value = team := Except.ok.inj ((Kind.decode_encode hplain).symm.trans hdecode)
    rcases Key.entry_eq_ok_iff.1 hkey with ⟨-, b', rfl, hb⟩ | ⟨hkind, -⟩
    · exact hcovers b value (congrArg some (Key.team_inj.1 hb).symm) rfl
    · exact absurd rfl hkind
  · rintro other b bundle hother rfl
    obtain rfl := Key.eq_of_inScope hproject hother hscope (Key.bundle_inScope other)
    exact absurd rfl (Key.entry_ne_bundle hkey)

theorem put_bundle (h : store.Sourced now supply) (hproject : ':' ∉ project.toList)
    {bundle : Bundle} (hplain : bundle.Plain)
    (hteam : ∀ backend, bundle.agentsBackend = some backend → supply project backend bundle.team) :
    (store.put (Key.bundle project) (ttls.bundleEntry now bundle)).Sourced now supply := by
  have hscope := Key.bundle_inScope project
  refine h.put ?_ ?_
  · rintro other b team hother hkey
    obtain rfl := Key.eq_of_inScope hproject hother hscope (hkey ▸ Key.team_inScope other b)
    exact absurd hkey (Key.bundle_ne_team project b)
  · rintro other b found hother hkey hdecode hbackend
    obtain rfl := Key.eq_of_inScope hproject hother hscope (hkey ▸ Key.bundle_inScope other)
    obtain rfl := Except.ok.inj ((Bundle.decode_encode hplain).symm.trans hdecode)
    exact hteam b hbackend

/-- A bundle of stored documents has the roster that is stored for its backend. -/
theorem put_assembled (h : store.Sourced now supply) (hproject : ':' ∉ project.toList)
    {backend : String} {bundle : Bundle}
    (hbundle : store.assemble now project backend = some bundle) :
    ((store.siftInlineAgent now project).put (Key.bundle project)
      (ttls.bundleEntry now bundle)).Sourced now supply := by
  obtain ⟨-, -, hroster, -, -, -, hnamed⟩ := assemble_eq_some_iff.1 hbundle
  refine (h.of_remainder (store.sifted_siftInlineAgent now project).remainder).put_bundle hproject
    (plain_of_assemble hbundle) ?_
  intro b hb
  obtain rfl := Option.some.inj (hnamed.symm.trans hb)
  exact h.roster hproject hroster

/-- A document that is stored is covered. -/
theorem covers (h : store.Sourced now supply) (hproject : ':' ∉ project.toList)
    {value : kind.Value} (hkey : Key.entry project kind backend = .ok key)
    (hvalue : store.document? kind.decode now key = some value) :
    supply.Covers project backend ⟨kind, value⟩ := by
  rintro b team rfl ⟨⟩
  obtain rfl := Except.ok.inj ((Key.entry_team project b).symm.trans hkey)
  exact h.roster hproject hvalue

end Sourced

end Store

namespace Cache

/-! ## Outcomes -/

theorem Created.sourced {outcome : Except Error kind.Value → Prop}
    {result : Except Error kind.Value} (hcreated : Created ttls now kind key outcome store result reached)
    (hproject : ':' ∉ project.toList) (hkey : Key.entry project kind backend = .ok key)
    (hplain : ∀ value, outcome (.ok value) → kind.Plain value)
    (hcovers : store.document? kind.decode now key = none → ∀ value, outcome (.ok value) →
      supply.Covers project backend ⟨kind, value⟩)
    (h : store.Sourced now supply) :
    reached.Sourced now supply ∧
      ∀ value, result = .ok value → supply.Covers project backend ⟨kind, value⟩ := by
  cases hcreated with
  | present hvalue =>
    refine ⟨h, ?_⟩
    rintro _ ⟨⟩
    exact h.covers hproject hkey hvalue
  | failed =>
    refine ⟨h.of_remainder (.drop store now key), ?_⟩
    rintro _ ⟨⟩
  | created hmissing hfetched =>
    have hdocument := hcovers hmissing _ hfetched
    refine ⟨h.put_document hproject hkey (hplain _ hfetched) hdocument, ?_⟩
    rintro _ ⟨⟩
    exact hdocument

theorem Repaired.sourced {built : Except Error Bool}
    (hrepaired : Repaired ttls now project requested store built reached)
    (hproject : ':' ∉ project.toList) (h : store.Sourced now supply) :
    reached.Sourced now supply := by
  cases hrepaired with
  | rebuilt _ hbundle => exact h.put_assembled hproject hbundle
  | dropped hsifted => exact (h.of_remainder hsifted.remainder).of_remainder (.drop _ now _)
  | refused => exact h.of_remainder (store.sifted_siftInlineAgent now project).remainder

theorem Rebuilt.sourced {backend : String} {built : Except Error Bool}
    (hrebuilt : Rebuilt ttls now project backend store built reached)
    (hproject : ':' ∉ project.toList) (h : store.Sourced now supply) :
    reached.Sourced now supply := by
  cases hrebuilt with
  | stored hbundle => exact h.put_assembled hproject hbundle
  | refused => exact h.of_remainder (store.sifted_siftInlineAgent now project).remainder
  | missing hsifted => exact h.of_remainder hsifted.remainder

theorem Refreshed.sourced {document : Document} {result : Except Error Unit}
    (hrefreshed : Refreshed ttls now project document backend store result reached)
    (hproject : ':' ∉ project.toList) (hplain : document.kind.Plain document.value)
    (hcovers : supply.Covers project backend document) (h : store.Sourced now supply) :
    reached.Sourced now supply := by
  cases hrefreshed with
  | keyless => exact h
  | refused => exact h
  | repaired hkey _ hreached =>
    exact hreached.sourced hproject (h.put_document hproject hkey hplain hcovers)

theorem Refetched.sourced {outcome : Except Error kind.Value → Prop}
    {result : Except Error kind.Value}
    (hrefetched : Refetched ttls now kind project backend outcome store result reached)
    (hproject : ':' ∉ project.toList) (hplain : ∀ value, outcome (.ok value) → kind.Plain value)
    (hcovers : ∀ value, outcome (.ok value) → supply.Covers project backend ⟨kind, value⟩)
    (h : store.Sourced now supply) : reached.Sourced now supply := by
  cases hrefetched with
  | keyless => exact h
  | failed => exact h.of_remainder (.drop store now _)
  | repaired hkey hfetched _ hreached =>
    exact hreached.sourced hproject
      (h.put_document hproject hkey (hplain _ hfetched) (hcovers _ hfetched))

theorem Invalidated.sourced {result : Except Error Unit}
    (hinvalidated : Invalidated ttls now kind project backend store result reached)
    (hproject : ':' ∉ project.toList) (h : store.Sourced now supply) :
    reached.Sourced now supply := by
  cases hinvalidated with
  | repaired _ hreached => exact hreached.sourced hproject (h.of_remainder (.drop store now _))
  | @rosters tokens =>
    exact (h.of_remainder (.without store now tokens)).of_remainder (.drop _ now _)
  | unreadable => exact h

/-! ## Operations that fetch rosters -/

/-- A document that is read through the cache was supplied, when the cache had it or when it comes
from a fetch that supplies it. -/
theorem ensures_get_sourced {fetch : Fetch kind} {outcome : Except Error kind.Value → Prop}
    (hproject : ':' ∉ project.toList)
    (hfetch : (fetch (requestFor kind project backend)).Fetches outcome)
    (hplain : ∀ value, outcome (.ok value) → kind.Plain value)
    (hcovers : ∀ key, Key.entry project kind backend = .ok key →
      store.document? kind.decode now key = none → ∀ value, outcome (.ok value) →
        supply.Covers project backend ⟨kind, value⟩)
    (h : store.Sourced now supply) (ttls : Ttls) :
    CacheM.Ensures now store (get ttls kind project backend fetch) fun result reached =>
      reached.Sourced now supply ∧
        ∀ value, result = .ok value → supply.Covers project backend ⟨kind, value⟩ := by
  refine (ensures_get hfetch ttls now store).mono ?_
  rintro result reached (⟨key, hkey, hcreated⟩ | ⟨⟨e, -, rfl⟩, rfl⟩)
  · exact hcreated.sourced hproject hkey hplain (hcovers key hkey) h
  · refine ⟨h, ?_⟩
    rintro _ ⟨⟩

/-- The roster of a bundle was supplied for the backend that the bundle names, when the bundle was
there or when its documents are fetched. No time to live is asked to be in range: what is stored
before one is refused was supplied as well. -/
theorem ensures_getBundle_sourced {source : Source} (hproject : ':' ∉ project.toList)
    (hplain : source.Plain)
    (hsupply : (∀ bundle, store.document? Bundle.decode now (Key.bundle project) = some bundle →
        bundle.serves requested = false) →
      ∀ bundle backend, source.Supplies project backend bundle →
        (requested <|> bundle.data.agentsBackend) = some backend →
          supply project backend bundle.team)
    (h : store.Sourced now supply) (ttls : Ttls) :
    CacheM.Ensures now store (getBundle ttls source project requested) fun result reached =>
      reached.Sourced now supply ∧ ∀ bundle backend, result = .ok bundle →
        bundle.agentsBackend = some backend → supply project backend bundle.team := by
  refine ensures_getBundle_of ?_ fun hmiss => ?_
  · rintro bundle hbundle -
    refine ⟨h, ?_⟩
    rintro _ backend ⟨⟩ hbackend
    exact h.bundle hproject hbundle hbackend
  · have hsifted := h.of_remainder (.sift store Bundle.decode now (Key.bundle project))
    refine ensures_supplyBundle ?_ fun bundle backend hbundle hbackend => ?_
    · refine fun e => ⟨hsifted, ?_⟩
      rintro _ _ ⟨⟩
    have hteam := hsupply hmiss bundle backend hbundle hbackend
    have hnamed : ∀ b, bundle.agentsBackend = some b → supply project b bundle.team := by
      intro b hb
      obtain rfl := Option.some.inj (hbundle.agentsBackend.symm.trans hb)
      exact hteam
    refine CacheM.Ensures.mono (ensures_writeParts (·.Sourced now supply) ?_ ?_ hsifted) ?_
    · exact fun store hstore => hstore.put_bundle hproject (hbundle.plain hplain) hnamed
    · intro store kind value hvalue hstore
      refine hstore.put_document hproject (Key.entry_some project kind backend)
        ((hbundle.plain hplain).part hvalue) ?_
      rintro b team ⟨⟩ ⟨⟩
      exact Option.some.inj hvalue ▸ hteam
    · intro result reached hreached
      refine ⟨hreached, ?_⟩
      intro found b hfound hb
      cases result with
      | ok =>
        obtain rfl := Except.ok.inj hfound
        exact hnamed b hb
      | error e => cases hfound

/-- A bundle that is returned names the backend that was asked for, whatever the store holds. -/
theorem ensures_getBundle_backend (ttls : Ttls) (now : Nat) (store : Store) (source : Source)
    (project : String) (requested : Option String) :
    CacheM.Ensures now store (getBundle ttls source project requested) fun result _ =>
      ∀ bundle backend, result = .ok bundle → requested = some backend →
        bundle.agentsBackend = some backend := by
  refine ensures_getBundle_of ?_ fun _ => ?_
  · rintro bundle - hserves _ backend ⟨⟩ rfl
    exact eq_of_beq hserves
  · refine ensures_supplyBundle ?_ fun bundle b hbundle hb => ?_
    · rintro e _ _ ⟨⟩
    refine CacheM.Ensures.mono
      (ensures_writeParts (fun _ => True) (fun _ _ => trivial) (fun _ _ _ _ _ => trivial) trivial) ?_
    rintro result - - found backend hfound rfl
    cases result with
    | ok =>
      obtain rfl := Except.ok.inj hfound
      exact hbundle.agentsBackend.trans hb.symm
    | error e => cases hfound

end Cache

end ProjectCache
