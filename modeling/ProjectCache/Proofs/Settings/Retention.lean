/-
# ProjectCache.Proofs.Settings.Retention — how long the bucket keeps what is stored in it.

A bucket is opened as soon as the server lets a client connect, and a new one is made as it is configured
(`Server.openBucket_eq_ok_iff`). The settings ask for one that keeps its entries for the longest of the
times to live of documents and bundles (`Settings.connect_eq_bucket_iff`, `Ttls.longest_eq`), and so it
outlives everything that an operation on a project stores. The state of workflows has a time to live of
its own, which is not among those times: it is outlived exactly when some kind of documents lives as long
(`Settings.bucket_outlives_iff`), and valid settings can give it a longer one
(`Settings.bucket_drops_workflows`).
-/
import ProjectCache.Settings.Basic
import ProjectCache.Proofs.Cache.Lifetimes

namespace ProjectCache

/-! ## The longest of some times -/

namespace Span

variable {a b : Span} {spans : List Span}

theorem le_trans {c : Span} (hab : a ≤ b) (hbc : b ≤ c) : a ≤ c := Nat.le_trans hab hbc

theorem le_longer (a b : Span) : a ≤ longer a b ∧ b ≤ longer a b := by
  unfold longer
  split
  · rename_i h
    exact ⟨h, Nat.le_refl _⟩
  · rename_i h
    exact ⟨Nat.le_refl _, Nat.le_of_not_le h⟩

theorem longer_eq (a b : Span) : longer a b = a ∨ longer a b = b := by
  unfold longer
  split
  · exact .inr rfl
  · exact .inl rfl

/-- The longest is not shorter than any. -/
theorem le_foldl_longer (spans : List Span) (a : Span) :
    a ≤ spans.foldl longer a ∧ ∀ b ∈ spans, b ≤ spans.foldl longer a := by
  induction spans generalizing a with
  | nil => exact ⟨Nat.le_refl _, nofun⟩
  | cons c rest ih =>
    rw [List.foldl_cons]
    obtain ⟨hleft, hright⟩ := le_longer a c
    obtain ⟨hlonger, hrest⟩ := ih (longer a c)
    refine ⟨le_trans hleft hlonger, ?_⟩
    intro b hb
    rcases List.mem_cons.1 hb with rfl | hb
    · exact le_trans hright hlonger
    · exact hrest b hb

/-- The longest is one of them. -/
theorem foldl_longer_mem (spans : List Span) (a : Span) : spans.foldl longer a ∈ a :: spans := by
  induction spans generalizing a with
  | nil => exact List.mem_singleton_self a
  | cons c rest ih =>
    rw [List.foldl_cons]
    rcases List.mem_cons.1 (ih (longer a c)) with h | h
    · rw [h]
      rcases longer_eq a c with h | h <;> simp [h]
    · exact List.mem_cons_of_mem _ (List.mem_cons_of_mem _ h)

end Span

namespace Ttls

variable (ttls : Ttls)

theorem ofKind_le_longest (kind : Kind) : ttls.ofKind kind ≤ ttls.longest :=
  (Span.le_foldl_longer _ _).2 _ (List.mem_map_of_mem kind.mem_all)

theorem bundle_le_longest : ttls.bundle ≤ ttls.longest :=
  (Span.le_foldl_longer _ _).1

theorem longest_eq : ttls.longest = ttls.bundle ∨ ∃ kind, ttls.longest = ttls.ofKind kind := by
  rcases List.mem_cons.1 (Span.foldl_longer_mem (Kind.all.map ttls.ofKind) ttls.bundle) with h | h
  · exact .inl h
  · obtain ⟨kind, -, hkind⟩ := List.mem_map.1 h
    exact .inr ⟨kind, hkind.symm⟩

end Ttls

/-! ## Opening a bucket -/

namespace Server

variable {B : Type} {server : Server B} {config : BucketConfig}

/-- When all attempts are refused, the last refusal is told. -/
theorem refused?_eq_some_iff {attempt remaining : Nat} {reason : String} :
    server.refused? config attempt remaining = some reason ↔
      (∀ i < remaining, server.refusal? config (attempt + i) ≠ none) ∧
        server.refusal? config (attempt + remaining) = some reason := by
  induction remaining generalizing attempt with
  | zero => simp [refused?]
  | succ remaining ih =>
    rw [refused?]
    cases hrefusal : server.refusal? config attempt with
    | none =>
      constructor
      · intro h
        cases h
      · rintro ⟨hbefore, -⟩
        exact absurd hrefusal (hbefore 0 (Nat.succ_pos _))
    | some _ =>
      show server.refused? config (attempt + 1) remaining = some reason ↔ _
      have hshift : ∀ i, attempt + 1 + i = attempt + (i + 1) := by omega
      rw [ih, hshift]
      simp only [hshift]
      refine and_congr_left fun _ => ⟨fun h i hi => ?_, fun h i hi => h (i + 1) (by omega)⟩
      cases i with
      | zero => simp [hrefusal]
      | succ i => exact h i (by omega)

theorem refused?_eq_none_iff {attempt remaining : Nat} :
    server.refused? config attempt remaining = none ↔
      ∃ i ≤ remaining, server.refusal? config (attempt + i) = none := by
  rw [Option.eq_none_iff_forall_ne_some]
  constructor
  · intro hnever
    refine Classical.byContradiction fun hall => ?_
    have hrefused : ∀ i ≤ remaining, server.refusal? config (attempt + i) ≠ none :=
      fun i hi hnone => hall ⟨i, hi, hnone⟩
    obtain ⟨reason, hlast⟩ := Option.ne_none_iff_exists'.1 (hrefused remaining (Nat.le_refl _))
    exact hnever reason (refused?_eq_some_iff.2 ⟨fun i hi => hrefused i (Nat.le_of_lt hi), hlast⟩)
  · rintro ⟨i, hle, hnone⟩ reason hreason
    obtain ⟨hbefore, hlast⟩ := refused?_eq_some_iff.1 hreason
    rcases Nat.lt_or_eq_of_le hle with hlt | rfl
    · exact hbefore i hlt hnone
    · cases hnone.symm.trans hlast

/-- A bucket is opened when one of the attempts to connect is not refused: the one that is there, or else
a new one. -/
theorem openBucket_eq_ok_iff {bucket : B} :
    server.openBucket config = .ok bucket ↔
      (∃ i ≤ config.reconnectAttempts - 1, server.refusal? config (1 + i) = none) ∧
      (server.find? config.bucket = some bucket ∨
        server.find? config.bucket = none ∧ server.create config = .ok bucket) := by
  rw [openBucket, ← refused?_eq_none_iff]
  cases server.refused? config 1 (config.reconnectAttempts - 1) with
  | some reason => simp
  | none =>
    cases server.find? config.bucket with
    | some found => simp
    | none => cases server.create config <;> simp

end Server

/-! ## The bucket -/

namespace Settings

theorem maxAge_bucketConfig (s : Settings) : s.bucketConfig.maxAge = s.cache.ttls.longest := by
  have hbucket : ∀ maxAge, (s.store.bucketConfig maxAge).maxAge = maxAge := fun _ => rfl
  rw [bucketConfig, hbucket]

theorem ofKind_le_maxAge (s : Settings) (kind : Kind) :
    s.cacheConfig.ttls.ofKind kind ≤ s.bucketConfig.maxAge := by
  rw [maxAge_bucketConfig]
  exact s.cache.ttls.ofKind_le_longest kind

theorem bundle_le_maxAge (s : Settings) : s.cacheConfig.ttls.bundle ≤ s.bucketConfig.maxAge := by
  rw [maxAge_bucketConfig]
  exact s.cache.ttls.bundle_le_longest

/-- The bucket keeps entries for the time of some kind of documents. -/
theorem exists_maxAge_eq (s : Settings) :
    ∃ kind, s.bucketConfig.maxAge = s.cacheConfig.ttls.ofKind kind := by
  rw [maxAge_bucketConfig]
  rcases s.cache.ttls.longest_eq with h | h
  · exact ⟨.data, h⟩
  · exact h

theorem workflowTtl_le_maxAge_iff (s : Settings) :
    s.cacheConfig.workflowTtl ≤ s.bucketConfig.maxAge ↔
      ∃ kind, s.cacheConfig.workflowTtl ≤ s.cacheConfig.ttls.ofKind kind := by
  constructor
  · intro h
    obtain ⟨kind, hlongest⟩ := s.exists_maxAge_eq
    exact ⟨kind, hlongest ▸ h⟩
  · rintro ⟨kind, h⟩
    exact Span.le_trans h (s.ofKind_le_maxAge kind)

/-- Operations on a project store nothing for longer than the bucket keeps it. -/
theorem le_maxAge_of_livesIn {s : Settings} {operation : Operation} {project : String} {ttl : Span}
    (howner : operation.owner = .project project) (h : operation.LivesIn s.cacheConfig ttl) :
    ttl ≤ s.bucketConfig.maxAge := by
  rw [Operation.LivesIn, howner] at h
  obtain rfl | ⟨kind, rfl⟩ := h
  · exact s.bundle_le_maxAge
  · exact s.ofKind_le_maxAge kind

/-- The store of the settings is a bucket when one is opened with the age that they ask for. -/
theorem connect_eq_bucket_iff {B : Type} {s : Settings} {server : Server B} {bucket : B} :
    s.store.connect s.cache.ttls server = .ok (.bucket bucket) ↔
      s.store.backend = .nats ∧ server.openBucket s.bucketConfig = .ok bucket := by
  rw [StoreSettings.connect, bucketConfig]
  cases s.store.backend with
  | memory => simp
  | nats => cases server.openBucket (s.store.bucketConfig s.cache.ttls.longest) <;> simp

/-- The bucket keeps documents and bundles for at least their times to live, and no longer than the
longest of these, whatever an operation on a project stores. It keeps the state of workflows, and so all
that any operation stores, for at least the time to live if and only if some kind of documents has as
long a time to live. -/
theorem bucket_outlives_iff (s : Settings) :
    (∀ kind, s.cacheConfig.ttls.ofKind kind ≤ s.bucketConfig.maxAge) ∧
    s.cacheConfig.ttls.bundle ≤ s.bucketConfig.maxAge ∧
    (∃ kind, s.bucketConfig.maxAge = s.cacheConfig.ttls.ofKind kind) ∧
    (s.cacheConfig.workflowTtl ≤ s.bucketConfig.maxAge ↔
      ∃ kind, s.cacheConfig.workflowTtl ≤ s.cacheConfig.ttls.ofKind kind) ∧
    (∀ (operation : Operation) (project : String), operation.owner = .project project →
      operation.Quiet →
      (operation.run s.cacheConfig).Does (·.LivesFor (· ≤ s.bucketConfig.maxAge))) ∧
    ((∀ operation : Operation, operation.Quiet →
        (operation.run s.cacheConfig).Does (·.LivesFor (· ≤ s.bucketConfig.maxAge))) ↔
      ∃ kind, s.cacheConfig.workflowTtl ≤ s.cacheConfig.ttls.ofKind kind) := by
  -- what an operation stores is stored for one of its times to live
  have hruns : ∀ operation : Operation, operation.Quiet →
      (∀ ttl, operation.LivesIn s.cacheConfig ttl → ttl ≤ s.bucketConfig.maxAge) →
      (operation.run s.cacheConfig).Does (·.LivesFor (· ≤ s.bucketConfig.maxAge)) :=
    fun operation hquiet hle =>
      (Operation.does_run hquiet s.cacheConfig).mono fun _ hlives => hlives.mono hle
  refine ⟨s.ofKind_le_maxAge, s.bundle_le_maxAge, s.exists_maxAge_eq, s.workflowTtl_le_maxAge_iff,
    fun operation project howner hquiet =>
      hruns operation hquiet fun ttl hlives => le_maxAge_of_livesIn howner hlives, ?_⟩
  rw [← s.workflowTtl_le_maxAge_iff]
  constructor
  · intro h
    -- a single write of a workflow's state tells
    have hwrite : (Workflow.set s.cacheConfig.workflowTtl "w" "state" .null).Does
        (·.LivesFor (· ≤ s.bucketConfig.maxAge)) :=
      CacheM.does_map_iff.1 (h (.setWorkflow "w" "state" .null) trivial)
    have hle := CacheM.allowed_of_does_set hwrite
    exact hle
  · intro hle operation hquiet
    refine hruns operation hquiet fun ttl hlives => ?_
    cases howner : operation.owner with
    | project project => exact le_maxAge_of_livesIn howner hlives
    | workflow id =>
      rw [Operation.LivesIn, howner] at hlives
      exact hlives ▸ hle

/-- By default the bucket outlives the state of workflows. -/
theorem bucket_outlives_default :
    (Operation.run ({} : Settings).cacheConfig (.setWorkflow "w" "state" .null)).Does
      (·.LivesFor (· ≤ ({} : Settings).bucketConfig.maxAge)) := by
  obtain ⟨-, -, -, -, -, hall⟩ := bucket_outlives_iff {}
  exact hall.2 ⟨.data, by decide⟩ (.setWorkflow "w" "state" .null) trivial

/-- Settings under which the state of workflows lives for two days, and all else for one. -/
def lastingWorkflows : Settings := { cache := { workflow := 172800 } }

/-- They are valid, and the bucket drops the state of workflows before its time. -/
theorem bucket_drops_workflows :
    lastingWorkflows.cache.validate = .ok () ∧
    lastingWorkflows.bucketConfig.maxAge = .ofSeconds 86400 ∧
    lastingWorkflows.cacheConfig.workflowTtl = .ofSeconds 172800 ∧
    ¬ ∀ s : Settings, s.cache.validate = .ok () →
      s.cacheConfig.workflowTtl ≤ s.bucketConfig.maxAge := by
  have hvalid : lastingWorkflows.cache.validate = .ok () := rfl
  refine ⟨hvalid, by decide, by decide, fun h => ?_⟩
  exact absurd (h lastingWorkflows hvalid) (by decide)

end Settings

end ProjectCache
