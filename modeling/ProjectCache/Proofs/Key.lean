/-
# ProjectCache.Proofs.Key — keys of different documents are different.

All keys of a project begin with its scope, the text up to the second colon. Within a scope, what
follows tells the kinds, the rosters of the backends and the bundle apart (`Key.plain_inj`,
`Key.team_inj` and the inequalities beside them); this holds of every identifier. Identifiers without
a colon have disjoint scopes (`Key.eq_of_inScope`).
-/
import ProjectCache.Key

namespace ProjectCache

namespace Kind

theorem name_injective {kind other : Kind} (h : kind.name = other.name) : kind = other := by
  cases kind <;> cases other <;> first | rfl | (exact absurd h (by decide))

/-- No name of a kind has a colon in it. -/
theorem colon_not_mem_name (kind : Kind) : ':' ∉ kind.name.toList := by
  cases kind <;> decide

theorem name_ne_bundleName (kind : Kind) : kind.name ≠ Key.bundleName := by
  cases kind <;> decide

end Kind

namespace Key

/-- What all keys of a project begin with. -/
def scope (project : String) : String := "project:" ++ project ++ ":"

/-- Does a key begin with the scope of a project? -/
def InScope (project key : String) : Prop := ∃ rest, key = scope project ++ rest

/-! ## Within one scope -/

theorem plain_eq (project : String) (kind : Kind) : plain project kind = scope project ++ kind.name :=
  rfl

theorem bundle_eq (project : String) : bundle project = scope project ++ bundleName := rfl

theorem team_eq (project backend : String) :
    team project backend = scope project ++ ("team:" ++ backend) := by
  have hprefix : "team" ++ ":" = "team:" := rfl
  show scope project ++ "team" ++ ":" ++ backend = _
  rw [← hprefix, String.append_assoc, String.append_assoc, String.append_assoc]

@[simp] theorem plain_inj {project : String} {kind other : Kind} :
    plain project kind = plain project other ↔ kind = other := by
  constructor
  · intro h
    rw [plain_eq, plain_eq, String.append_right_inj] at h
    exact Kind.name_injective h
  · exact congrArg _

@[simp] theorem team_inj {project backend other : String} :
    team project backend = team project other ↔ backend = other := by
  rw [team_eq, team_eq, String.append_right_inj, String.append_right_inj]

@[simp] theorem plain_ne_bundle (project : String) (kind : Kind) :
    plain project kind ≠ bundle project := by
  intro h
  rw [plain_eq, bundle_eq, String.append_right_inj] at h
  exact kind.name_ne_bundleName h

@[simp] theorem plain_ne_team (project backend : String) (kind : Kind) :
    plain project kind ≠ team project backend := by
  intro h
  rw [plain_eq, team_eq, String.append_right_inj] at h
  apply kind.colon_not_mem_name
  rw [h, String.toList_append]
  exact List.mem_append_left _ (by decide)

@[simp] theorem team_ne_bundle (project backend : String) :
    team project backend ≠ bundle project := by
  intro h
  rw [team_eq, bundle_eq, String.append_right_inj] at h
  have hcolon : ':' ∈ ("team:" ++ backend).toList := by
    rw [String.toList_append]
    exact List.mem_append_left _ (by decide)
  rw [h] at hcolon
  exact absurd hcolon (by decide)

@[simp] theorem bundle_ne_plain (project : String) (kind : Kind) :
    bundle project ≠ plain project kind := (plain_ne_bundle project kind).symm

@[simp] theorem team_ne_plain (project backend : String) (kind : Kind) :
    team project backend ≠ plain project kind := (plain_ne_team project backend kind).symm

@[simp] theorem bundle_ne_team (project backend : String) :
    bundle project ≠ team project backend := (team_ne_bundle project backend).symm

theorem plain_inScope (project : String) (kind : Kind) : InScope project (plain project kind) :=
  ⟨_, plain_eq project kind⟩

theorem team_inScope (project backend : String) : InScope project (team project backend) :=
  ⟨_, team_eq project backend⟩

theorem bundle_inScope (project : String) : InScope project (bundle project) :=
  ⟨_, bundle_eq project⟩

/-- The state of a workflow is in no project's scope. -/
theorem not_inScope_workflow (project id dataType : String) :
    ¬ InScope project (workflow id dataType) := by
  rintro ⟨rest, hrest⟩
  have hlist := congrArg String.toList hrest
  simp [workflow, scope, String.toList_append] at hlist

/-! ## The keys that documents are stored under -/

theorem entry_team (project backend : String) :
    entry project .team (some backend) = .ok (team project backend) := rfl

/-- The key of a document when a backend is known. -/
def part (project : String) (kind : Kind) (backend : String) : String :=
  if kind.isPerBackend then team project backend else plain project kind

theorem entry_some (project : String) (kind : Kind) (backend : String) :
    entry project kind (some backend) = .ok (part project kind backend) := by
  cases kind <;> rfl

/-- A roster has its key for a backend, the other documents have one key. -/
theorem entry_eq_ok_iff {project : String} {kind : Kind} {backend : Option String} {key : String} :
    entry project kind backend = .ok key ↔
      (kind = .team ∧ ∃ b, backend = some b ∧ key = team project b) ∨
      (kind ≠ .team ∧ key = plain project kind) := by
  by_cases hkind : kind = .team
  · subst hkind
    cases backend <;> simp [entry, Kind.isPerBackend, team, eq_comm]
  · simp [entry, Kind.isPerBackend, hkind, eq_comm]

theorem entry_of_ne_team {kind : Kind} (h : kind ≠ .team) (project : String)
    (backend : Option String) : entry project kind backend = .ok (plain project kind) :=
  entry_eq_ok_iff.2 (.inr ⟨h, rfl⟩)

/-- A roster needs a backend to have a key. -/
theorem exists_entry {kind : Kind} {backend : Option String} (h : kind = .team → backend.isSome)
    (project : String) : ∃ key, entry project kind backend = .ok key := by
  by_cases hkind : kind = .team
  · obtain ⟨b, rfl⟩ := Option.isSome_iff_exists.1 (h hkind)
    exact ⟨_, entry_some project kind b⟩
  · exact ⟨_, entry_of_ne_team hkind project backend⟩

/-- Only rosters have no key, and only without a backend. -/
theorem entry_eq_error {project : String} {kind : Kind} {backend : Option String} {e : Error}
    (h : entry project kind backend = .error e) : kind = .team ∧ backend = none := by
  by_cases hkind : kind = .team
  · subst hkind
    cases backend with
    | none => exact ⟨rfl, rfl⟩
    | some b => cases h
  · rw [entry_of_ne_team hkind] at h
    cases h

theorem entry_ne_bundle {project : String} {kind : Kind} {backend : Option String} {key : String}
    (h : entry project kind backend = .ok key) : key ≠ bundle project := by
  rcases entry_eq_ok_iff.1 h with ⟨-, b, -, rfl⟩ | ⟨-, rfl⟩
  · exact team_ne_bundle project b
  · exact plain_ne_bundle project kind

theorem entry_inScope {project : String} {kind : Kind} {backend : Option String} {key : String}
    (h : entry project kind backend = .ok key) : InScope project key := by
  rcases entry_eq_ok_iff.1 h with ⟨-, b, -, rfl⟩ | ⟨-, rfl⟩
  · exact team_inScope project b
  · exact plain_inScope project kind

/-- A key belongs to one kind of documents. -/
theorem kind_of_entry {project : String} {kind other : Kind} {backend backend' : Option String}
    {key : String} (h : entry project kind backend = .ok key)
    (h' : entry project other backend' = .ok key) : kind = other := by
  rcases entry_eq_ok_iff.1 h with ⟨rfl, b, -, rfl⟩ | ⟨-, rfl⟩
  · rcases entry_eq_ok_iff.1 h' with ⟨rfl, -⟩ | ⟨-, h'⟩
    · rfl
    · exact absurd h' (team_ne_plain project b other)
  · rcases entry_eq_ok_iff.1 h' with ⟨-, b, -, h'⟩ | ⟨-, h'⟩
    · exact absurd h' (plain_ne_team project b kind)
    · exact plain_inj.1 h'

theorem kind_of_part {project backend backend' : String} {kind other : Kind}
    (h : part project kind backend = part project other backend') : kind = other :=
  kind_of_entry (entry_some project kind backend) (h ▸ entry_some project other backend')

/-- Documents that are no rosters are under the same key for every backend. -/
theorem entry_eq_part {kind : Kind} (h : kind ≠ .team) (project backend : String)
    (requested : Option String) : entry project kind requested = .ok (part project kind backend) := by
  rw [entry_of_ne_team h, ← entry_some, entry_of_ne_team h]

/-! ## Different scopes -/

/-- Cutting at the first colon gives one result. -/
theorem eq_of_append_colon {a b : List Char} (ha : ':' ∉ a) (hb : ':' ∉ b) {r s : List Char}
    (h : a ++ ':' :: r = b ++ ':' :: s) : a = b := by
  induction a generalizing b with
  | nil =>
    cases b with
    | nil => rfl
    | cons d b =>
      have hd : ':' = d := (List.cons.inj h).1
      exact absurd (hd ▸ List.mem_cons_self) hb
  | cons c a ih =>
    cases b with
    | nil =>
      have hc : c = ':' := (List.cons.inj h).1
      exact absurd (hc ▸ List.mem_cons_self) ha
    | cons d b =>
      obtain ⟨hcd, hrest⟩ := List.cons.inj h
      rw [hcd, ih (fun hm => ha (List.mem_cons_of_mem _ hm))
        (fun hm => hb (List.mem_cons_of_mem _ hm)) hrest]

/-- A key is in the scope of one project, among those whose identifiers have no colon. -/
theorem eq_of_inScope {project other key : String} (hp : ':' ∉ project.toList)
    (ho : ':' ∉ other.toList) (h : InScope project key) (h' : InScope other key) :
    project = other := by
  obtain ⟨r, rfl⟩ := h
  obtain ⟨s, h'⟩ := h'
  -- behind the common prefix both keys go on with an identifier and its first colon
  rw [scope, scope, String.append_assoc, String.append_assoc, String.append_assoc,
    String.append_assoc, String.append_right_inj] at h'
  have hlist := congrArg String.toList h'
  simp only [String.toList_append] at hlist
  exact String.toList_inj.1 (eq_of_append_colon hp ho hlist)

end Key

end ProjectCache
