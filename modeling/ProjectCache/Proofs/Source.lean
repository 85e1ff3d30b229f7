/-
# ProjectCache.Proofs.Source — what a source answers with.

A source is plain when every document that it answers with is (`Source.Plain`), and it is when its
records are (`Source.plain_of_records`). Fetching from a source leaves the store alone and comes to
the source's answer.
-/
import ProjectCache.Source
import ProjectCache.Proofs.Document.RoundTrip
import ProjectCache.Proofs.World

namespace ProjectCache

variable {now : Nat} {store : Store} {kind : Kind} {project : String}

/-! ## Plain sources -/

/-- Each document of the record is plain. -/
structure Record.Plain (record : Record) : Prop where
  project : ∀ project ∈ record.project, project.Plain
  contentBase : ∀ contentBase ∈ record.contentBase, contentBase.Plain
  teams : ∀ backend, ∀ team ∈ record.teams.find? backend, ∀ member ∈ team, member.Plain
  guardrails : ∀ guardrails ∈ record.guardrails, guardrails.Plain
  inlineAgent : ∀ inlineAgent ∈ record.inlineAgent, inlineAgent.Plain

/-- A project with a backend. -/
def Project.lone : Project := { uuid := "p", agentsBackend := some "b" }

theorem Project.plain_lone : lone.Plain := fun _ _ => rfl

namespace Source

/-- Every document that the source answers with is plain. -/
def Plain (source : Source) : Prop :=
  ∀ kind request value, source.answer kind request = .ok value → kind.Plain value

theorem eq_some_of_required {α : Type} {what project : String} {part : Option α} {a : α}
    (h : required what project part = .ok a) : part = some a := by
  cases part with
  | none => cases h
  | some b => exact congrArg some (Except.ok.inj h)

/-- A plain record answers with plain documents. -/
theorem plain_of_part {record : Record} (hrecord : record.Plain) {request : Request}
    {value : kind.Value} (h : part record request kind = .ok value) : kind.Plain value := by
  cases kind with
  | data => exact hrecord.project value (eq_some_of_required h)
  | contentBase => exact hrecord.contentBase value (eq_some_of_required h)
  | team =>
    obtain rfl := Except.ok.inj h
    intro member hmember
    cases hteam : record.teams.find? (request.backend.getD "") with
    | none =>
      rw [hteam] at hmember
      cases hmember
    | some team =>
      rw [hteam] at hmember
      exact hrecord.teams _ team hteam member hmember
  | guardrails => exact hrecord.guardrails value (eq_some_of_required h)
  | inlineAgent =>
    obtain rfl := Except.ok.inj h
    exact hrecord.inlineAgent
  | instructions => trivial
  | agent => trivial

theorem plain_of_records {source : Source}
    (h : ∀ project, ∀ record ∈ source.records.find? project, record.Plain) : source.Plain := by
  intro kind request value hanswer
  unfold answer at hanswer
  -- an answer is a part of a record: failures that were asked for give none
  split at hanswer
  · cases hanswer
  · cases hrecord : source.records.find? request.project with
    | none =>
      rw [hrecord] at hanswer
      cases hanswer
    | some record =>
      rw [hrecord] at hanswer
      exact plain_of_part (h request.project record hrecord) hanswer

/-- A source with one project, all of whose other documents are bare. -/
def sole (project : Project) : Source where
  records := (∅ : Keyed Record).insert project.uuid {
    project := some project
    contentBase := some { uuid := "c" }
    guardrails := some {} }

theorem plain_sole {project : Project} (h : project.Plain) : (sole project).Plain := by
  refine plain_of_records fun uuid record hrecord => ?_
  have hfind : (sole project).records.find? uuid = if project.uuid = uuid then some _ else none :=
    Keyed.find?_insert _ _ _ _
  rw [hfind] at hrecord
  split at hrecord
  · obtain rfl := Option.some.inj hrecord
    refine ⟨?_, ?_, ?_, ?_, ?_⟩
    · rintro _ ⟨⟩
      exact h
    · rintro _ ⟨⟩ _ _
      rfl
    · rintro _ _ ⟨⟩
    · rintro _ ⟨⟩ _ _
      rfl
    · rintro _ ⟨⟩
  · cases hrecord

/-- A plain source stays plain when some of its fetches fail. -/
theorem Plain.setFailing {source : Source} (h : source.Plain) (kind : Kind) :
    (source.setFailing kind true).Plain := by
  intro other request value hanswer
  refine h other request value ?_
  have hothers : (source.setFailing kind true).failing.contains other = false →
      source.failing.contains other = false := by
    simp +contextual [Source.setFailing]
  unfold answer at hanswer ⊢
  cases hfailing : (source.setFailing kind true).failing.contains other with
  | true =>
    rw [hfailing, if_pos rfl] at hanswer
    cases hanswer
  | false =>
    rw [hfailing] at hanswer
    rw [hothers hfailing]
    exact hanswer

/-! ## Fetching -/

/-- A source fetches its answer. -/
theorem fetch_fetches (source : Source) (kind : Kind) (request : Request) :
    (source.fetch kind request).Fetches (· = source.answer kind request) := by
  intro now store
  refine CacheM.Yields.bind (CacheM.yields_note _) ?_
  exact CacheM.ensures_ofExcept ⟨rfl, rfl⟩

/-- What follows a fetch from a source is carried out with its answer. -/
theorem ensures_fetch_bind {β : Type} (source : Source) (kind : Kind) {request : Request}
    {f : kind.Value → CacheM β} {goal : Except Error β → Store → Prop}
    (hok : ∀ value, source.answer kind request = .ok value → CacheM.Ensures now store (f value) goal)
    (herror : ∀ e, source.answer kind request = .error e → goal (.error e) store) :
    CacheM.Ensures now store (source.fetch kind request >>= f) goal := by
  refine (source.fetch_fetches kind request now store).bind ?_ ?_
  · rintro value _ ⟨hvalue, rfl⟩
    exact hok value hvalue.symm
  · rintro e _ ⟨he, rfl⟩
    exact herror e he.symm

/-- What comes of a fetch and more fetches satisfies a condition when it does so for each answer. -/
theorem fetches_bind {β : Type} (source : Source) (kind : Kind) {request : Request}
    {f : kind.Value → CacheM β} {outcome : β → Prop}
    (h : ∀ value, source.answer kind request = .ok value →
      (f value).Fetches fun result => ∀ b, result = .ok b → outcome b) :
    (source.fetch kind request >>= f).Fetches fun result => ∀ b, result = .ok b → outcome b := by
  intro now store
  refine source.ensures_fetch_bind kind (fun value hvalue => h value hvalue now store) ?_
  intro e _
  refine ⟨?_, rfl⟩
  rintro b ⟨⟩

/-! ## Bundles -/

/-- The documents of the bundle are the answers of the source for a backend. -/
structure Supplies (source : Source) (project backend : String) (bundle : Bundle) :
    Prop where
  data : source.answer .data ⟨project, none⟩ = .ok bundle.data
  project_eq : bundle.project = bundle.data
  contentBase : source.answer .contentBase ⟨project, none⟩ = .ok bundle.contentBase
  team : source.answer .team ⟨project, some backend⟩ = .ok bundle.team
  guardrails : source.answer .guardrails ⟨project, none⟩ = .ok bundle.guardrails
  inlineAgent : source.answer .inlineAgent ⟨project, none⟩ = .ok bundle.inlineAgent
  agentsBackend : bundle.agentsBackend = some backend

theorem Supplies.plain {source : Source} {backend : String} {bundle : Bundle}
    (h : source.Supplies project backend bundle) (hplain : source.Plain) : bundle.Plain where
  data := hplain .data _ _ h.data
  project := h.project_eq ▸ hplain .data _ _ h.data
  contentBase := hplain .contentBase _ _ h.contentBase
  team := hplain .team _ _ h.team
  guardrails := hplain .guardrails _ _ h.guardrails
  inlineAgent := hplain .inlineAgent _ _ h.inlineAgent

end Source

end ProjectCache
