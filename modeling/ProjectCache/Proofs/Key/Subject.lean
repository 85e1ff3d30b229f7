/-
# ProjectCache.Proofs.Key.Subject — what can be told from a key.

A key names a document of a project, the bundle of a project, or the state of a workflow
(`Key.Subject`). Its sort can always be told; of a project whose identifier has no colon the identifier
as well, with the kind of the document and, for a roster, the backend, whatever characters that has
(`Subject.agrees_of_key`). The parts of a workflow's key can run into each other, so nothing is said of
them.

The names in a bucket have a point for each colon. They tell keys apart as long as these have no point
themselves (`Key.pointed_injective`), and keys whose parts are of storable characters have one
(`Subject.joined_of_key`, `Key.Joined.isName`).
-/
import ProjectCache.Proofs.Key

namespace ProjectCache.Key

/-- What a key is the key of. -/
inductive Subject where
  /-- A document of a project, for a backend if it is a roster. -/
  | document (project : String) (kind : Kind) (backend : Option String)
  /-- The bundle of a project. -/
  | bundle (project : String)
  /-- The state of a workflow of some type. -/
  | workflow (id dataType : String)

namespace Subject

/-- The key. Only a roster without a backend has none. -/
def key : Subject → Except Error String
  | .document project kind backend => Key.entry project kind backend
  | .bundle project => .ok (Key.bundle project)
  | .workflow id dataType => .ok (Key.workflow id dataType)

/-- The parts of the key that are not the same for all subjects of its sort. -/
def parts : Subject → List String
  | .document project kind backend =>
    project :: (if kind.isPerBackend then backend.toList else [])
  | .bundle project => [project]
  | .workflow id dataType => [id, dataType]

/-- The identifier of the project, if the subject has one, has no colon. -/
def Regular : Subject → Prop
  | .document project _ _ => ':' ∉ project.toList
  | .bundle project => ':' ∉ project.toList
  | .workflow _ _ => True

/-- Subjects of one sort, and if they are of a project, of the same project; documents are of the same
kind, and rosters for the same backend. -/
def Agrees : Subject → Subject → Prop
  | .document project kind backend, .document other kind' backend' =>
    project = other ∧ kind = kind' ∧ (kind = .team → backend = backend')
  | .bundle project, .bundle other => project = other
  | .workflow _ _, .workflow _ _ => True
  | _, _ => False

/-! ## Reading a key -/

variable {project other : String} {kind kind' : Kind} {backend backend' : Option String}
  {key : String}

/-- Documents under one key are of one kind, and rosters under one key for one backend. -/
theorem agrees_of_entry (hp : ':' ∉ project.toList) (ho : ':' ∉ other.toList)
    (h : entry project kind backend = .ok key) (h' : entry other kind' backend' = .ok key) :
    Agrees (.document project kind backend) (.document other kind' backend') := by
  obtain rfl := eq_of_inScope hp ho (entry_inScope h) (entry_inScope h')
  obtain rfl := kind_of_entry h h'
  refine ⟨rfl, rfl, ?_⟩
  rintro rfl
  obtain ⟨-, b, rfl, rfl⟩ | ⟨hne, -⟩ := entry_eq_ok_iff.1 h
  · obtain ⟨-, c, rfl, hc⟩ | ⟨hne, -⟩ := entry_eq_ok_iff.1 h'
    · rw [team_inj.1 hc]
    · exact absurd rfl hne
  · exact absurd rfl hne

/-- No document is stored under the key of a bundle. -/
theorem entry_ne_bundle_of_regular (hp : ':' ∉ project.toList) (ho : ':' ∉ other.toList)
    (h : entry project kind backend = .ok key) : key ≠ Key.bundle other := by
  rintro rfl
  obtain rfl := eq_of_inScope hp ho (entry_inScope h) (bundle_inScope other)
  exact entry_ne_bundle h rfl

/-- Only the state of a workflow has such a key. -/
theorem eq_workflow_of_key {subject : Subject} {id dataType : String}
    (h : subject.key = .ok (Key.workflow id dataType)) :
    ∃ id' dataType', subject = .workflow id' dataType' := by
  cases subject with
  | document project kind backend =>
    exact absurd (entry_inScope h) (not_inScope_workflow project id dataType)
  | bundle project =>
    have hscope := bundle_inScope project
    rw [Except.ok.inj h] at hscope
    exact absurd hscope (not_inScope_workflow project id dataType)
  | workflow id' dataType' => exact ⟨id', dataType', rfl⟩

/-- Regular subjects with the same key agree. -/
theorem agrees_of_key {a b : Subject} (ha : a.Regular) (hb : b.Regular) (hkey : a.key = .ok key)
    (hkey' : b.key = .ok key) : a.Agrees b := by
  cases a with
  | document project kind backend =>
    cases b with
    | document other kind' backend' => exact agrees_of_entry ha hb hkey hkey'
    | bundle other => exact entry_ne_bundle_of_regular ha hb hkey (Except.ok.inj hkey').symm
    | workflow id dataType =>
      obtain ⟨_, _, hsubject⟩ := eq_workflow_of_key (hkey.trans hkey'.symm)
      cases hsubject
  | bundle project =>
    cases b with
    | document other kind backend =>
      exact entry_ne_bundle_of_regular hb ha hkey' (Except.ok.inj hkey).symm
    | bundle other =>
      have hscope := bundle_inScope other
      rw [Except.ok.inj (hkey'.trans hkey.symm)] at hscope
      exact eq_of_inScope ha hb (bundle_inScope project) hscope
    | workflow id dataType =>
      obtain ⟨_, _, hsubject⟩ := eq_workflow_of_key (hkey.trans hkey'.symm)
      cases hsubject
  | workflow id dataType =>
    obtain ⟨_, _, rfl⟩ := eq_workflow_of_key (hkey'.trans hkey.symm)
    trivial

end Subject

/-! ## Names in a bucket -/

/-- A list of characters that a bucket accepts as a name. -/
structure IsName (name : List Char) : Prop where
  storable : ∀ c ∈ name, Key.storable c = true
  ne_nil : name ≠ []
  head : name.head? ≠ some '.'
  last : name.getLast? ≠ some '.'

/-- A key has a name in a bucket if the key with points for its colons is one. -/
theorem bucketName_eq_ok_iff {key name : String} :
    bucketName key = .ok name ↔ name.toList = pointed key.toList ∧ IsName (pointed key.toList) := by
  have hname : (pointed key.toList).all Key.storable && ! (pointed key.toList).isEmpty
      && (pointed key.toList).head? != some '.' && (pointed key.toList).getLast? != some '.'
        ↔ IsName (pointed key.toList) := by
    simp only [Bool.and_eq_true, List.all_eq_true, Bool.not_eq_true', List.isEmpty_eq_false_iff,
      bne_iff_ne]
    exact ⟨fun ⟨⟨⟨hall, hne⟩, hhead⟩, hlast⟩ => ⟨hall, hne, hhead, hlast⟩,
      fun h => ⟨⟨⟨h.storable, h.ne_nil⟩, h.head⟩, h.last⟩⟩
  show (if _ then Except.ok (String.ofList (pointed key.toList)) else Except.error _) = .ok name ↔ _
  by_cases h : IsName (pointed key.toList)
  · rw [if_pos (hname.2 h), Except.ok.injEq]
    exact ⟨fun heq => ⟨heq ▸ String.toList_ofList, h⟩,
      fun heq => heq.1 ▸ String.ofList_toList⟩
  · rw [if_neg (mt hname.1 h)]
    exact ⟨nofun, fun heq => absurd heq.2 h⟩

/-- Points for colons do not make keys without points the same. -/
theorem pointed_injective {a b : List Char} (ha : '.' ∉ a) (hb : '.' ∉ b)
    (h : pointed a = pointed b) : a = b := by
  induction a generalizing b with
  | nil => exact (List.map_eq_nil_iff.1 h.symm).symm
  | cons c a ih =>
    cases b with
    | nil => cases h
    | cons d b =>
      rw [List.mem_cons, not_or] at ha hb
      obtain ⟨hhead, htail⟩ := List.cons.inj h
      have hcd : c = d := by
        by_cases hc : c = ':' <;> by_cases hd : d = ':' <;> simp_all
      rw [hcd, ih ha.2 hb.2 htail]

/-- A part of a key that is not empty and has letters, digits and a few marks, but neither colons nor
points. -/
def IsPlainPart (text : String) : Prop :=
  text ≠ "" ∧ ∀ c ∈ text.toList, c.isAlphanum ∨ c = '-' ∨ c = '_' ∨ c = '=' ∨ c = '/'

theorem IsPlainPart.storable {text : String} (h : IsPlainPart text) {c : Char}
    (hc : c ∈ text.toList) : Key.storable c = true ∧ c ≠ ':' ∧ c ≠ '.' := by
  rcases h.2 c hc with hc | rfl | rfl | rfl | rfl
  · refine ⟨by simp [Key.storable, hc], ?_, ?_⟩
    · rintro rfl
      exact absurd hc (by decide)
    · rintro rfl
      exact absurd hc (by decide)
  all_goals decide

/-- A plain part is a name. -/
theorem IsPlainPart.isName {text : String} (h : IsPlainPart text) : IsName text.toList where
  storable _ hc := (h.storable hc).1
  ne_nil hnil := h.1 (String.toList_eq_nil_iff.1 hnil)
  head hhead := (h.storable (List.mem_of_head? hhead)).2.2 rfl
  last hlast := (h.storable (List.mem_of_getLast? hlast)).2.2 rfl

theorem IsPlainPart.pointed_eq {text : String} (h : IsPlainPart text) :
    pointed text.toList = text.toList := by
  calc pointed text.toList = text.toList.map id :=
        List.map_congr_left fun c hc => if_neg (h.storable hc).2.1
    _ = text.toList := List.map_id _

/-- Names with a point between them are a name. -/
theorem IsName.join {front back : List Char} (hfront : IsName front) (hback : IsName back) :
    IsName (front ++ '.' :: back) where
  storable c hc := by
    rcases List.mem_append.1 hc with hc | hc
    · exact hfront.storable c hc
    · rcases List.mem_cons.1 hc with rfl | hc
      · decide
      · exact hback.storable c hc
  ne_nil := by simp
  head := by
    obtain ⟨c, rest, rfl⟩ := List.exists_cons_of_ne_nil hfront.ne_nil
    exact hfront.head
  last := by
    obtain ⟨c, rest, rfl⟩ := List.exists_cons_of_ne_nil hback.ne_nil
    simpa [List.getLast?_cons] using hback.last

/-- Plain parts with colons between them. -/
inductive Joined : String → Prop where
  | part {text : String} (h : IsPlainPart text) : Joined text
  | join {front back : String} (hfront : Joined front) (hback : IsPlainPart back) :
      Joined (front ++ ":" ++ back)

theorem Joined.isName {key : String} (h : Joined key) : IsName (pointed key.toList) := by
  induction h with
  | part htext =>
    rw [htext.pointed_eq]
    exact htext.isName
  | @join front back _ hback ih =>
    have hsplit : pointed (front ++ ":" ++ back).toList
        = pointed front.toList ++ '.' :: pointed back.toList := by
      simp [pointed, String.toList_append]
    rw [hsplit, hback.pointed_eq]
    exact ih.join hback.isName

/-- The key of a subject with plain parts is made of plain parts. -/
theorem Subject.joined_of_key {subject : Subject} {key : String}
    (hparts : ∀ part ∈ subject.parts, IsPlainPart part) (hkey : subject.key = .ok key) :
    Joined key := by
  have hproject : IsPlainPart "project" := by simp [IsPlainPart]
  have hworkflow : IsPlainPart "workflow" := by simp [IsPlainPart]
  have hall : IsPlainPart bundleName := by simp [IsPlainPart, bundleName]
  have hkind : ∀ kind : Kind, IsPlainPart kind.name := by
    intro kind
    cases kind <;> simp [IsPlainPart, Kind.name]
  cases subject with
  | document project kind backend =>
    have hplain : Joined (plain project kind) :=
      ((Joined.part hproject).join (hparts project List.mem_cons_self)).join (hkind kind)
    obtain ⟨rfl, b, rfl, rfl⟩ | ⟨-, rfl⟩ := entry_eq_ok_iff.1 hkey
    · exact hplain.join (hparts b (by simp [Subject.parts, Kind.isPerBackend]))
    · exact hplain
  | bundle project =>
    obtain rfl := Except.ok.inj hkey
    exact ((Joined.part hproject).join (hparts project List.mem_cons_self)).join hall
  | workflow id dataType =>
    obtain rfl := Except.ok.inj hkey
    exact ((Joined.part hworkflow).join (hparts id (by simp [Subject.parts]))).join
      (hparts dataType (by simp [Subject.parts]))

/-! ## Keys and their subjects -/

/-- Regular subjects with the same key agree. Keys without points and with the same name in a bucket
are the same, and the key of a subject with plain parts has a name in a bucket: itself with points for
colons. -/
theorem keys_tell_subjects_apart :
    (∀ (a b : Subject) (key : String), a.Regular → b.Regular → a.key = .ok key → b.key = .ok key →
      a.Agrees b) ∧
    (∀ key other name : String, '.' ∉ key.toList → '.' ∉ other.toList →
      bucketName key = .ok name → bucketName other = .ok name → key = other) ∧
    ∀ (a : Subject) (key : String), (∀ part ∈ a.parts, IsPlainPart part) → a.key = .ok key →
      bucketName key = .ok (String.ofList (pointed key.toList)) := by
  refine ⟨fun a b key => Subject.agrees_of_key, ?_, ?_⟩
  · intro key other name hkey hother h h'
    obtain ⟨hname, -⟩ := bucketName_eq_ok_iff.1 h
    obtain ⟨hname', -⟩ := bucketName_eq_ok_iff.1 h'
    exact String.toList_inj.1 (pointed_injective hkey hother (hname.symm.trans hname'))
  · intro a key hparts hkey
    exact bucketName_eq_ok_iff.2
      ⟨String.toList_ofList, (Subject.joined_of_key hparts hkey).isName⟩

/-- The roster of a project, for a backend with a colon in its name, has the key of no other roster;
the one for a plain backend has a name in a bucket. -/
theorem keys_tell_subjects_apart_of_roster :
    Subject.Regular (.document "p-1" .team (some "a:b")) ∧
    (∀ b : Subject, b.Regular → b.key = .ok "project:p-1:team:a:b" →
      Subject.Agrees (.document "p-1" .team (some "a:b")) b) ∧
    (∀ part ∈ Subject.parts (.document "p-1" .team (some "B")), IsPlainPart part) ∧
    bucketName "project:p-1:team:B" = .ok "project.p-1.team.B" ∧
    ∀ other : String, '.' ∉ other.toList → bucketName other = .ok "project.p-1.team.B" →
      other = "project:p-1:team:B" := by
  obtain ⟨hagree, hbucket, hname⟩ := keys_tell_subjects_apart
  have hregular : Subject.Regular (.document "p-1" .team (some "a:b")) := by
    show ':' ∉ "p-1".toList
    decide
  have hplain : ∀ part ∈ Subject.parts (.document "p-1" .team (some "B")), IsPlainPart part := by
    show ∀ part ∈ ["p-1", "B"], IsPlainPart part
    simp [IsPlainPart]
  have hB : bucketName "project:p-1:team:B" = .ok "project.p-1.team.B" := hname _ _ hplain rfl
  exact ⟨hregular, fun b hb hkey => hagree _ b _ hregular hb rfl hkey, hplain, hB,
    fun other hother h => hbucket _ _ _ hother (by decide) h hB⟩

end ProjectCache.Key
