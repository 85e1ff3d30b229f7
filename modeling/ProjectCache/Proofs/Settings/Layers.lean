/-
# ProjectCache.Proofs.Settings.Layers — which source each setting comes from.

The environment is laid over the file and the file over the defaults, setting by setting
(`Slot.layered`). So settings that load have in each place what the uppermost source with that setting
converts to, whatever stands in the others (`Settings.Gathers`), and the bound on times to live is put on
what comes out, whatever source it comes from (`Settings.load_layered`). Of a file only the table counts
that it holds, and the readers of formats may be any (`Settings.Library`).
-/
import ProjectCache.Proofs.Document.NormalForm
import ProjectCache.Proofs.Settings.Overlay

namespace ProjectCache

namespace Settings

/-! ## Reading one setting -/

/-- What is found converts to a value, or nothing is found and the value is the default. -/
def Converts {α : Type} (convert : Json → Option α) (default : α) (found : Option Json) (a : α) : Prop :=
  match found with
  | none => a = default
  | some json => convert json = some a

instance {α : Type} [DecidableEq α] (convert : Json → Option α) (default : α) (found : Option Json)
    (a : α) : Decidable (Converts convert default found a) :=
  match found with
  | none => inferInstanceAs (Decidable (a = default))
  | some json => inferInstanceAs (Decidable (convert json = some a))

section Reading

variable {α : Type} {name : String} {default a : α} {ms : Keyed Json}

theorem ofMembers_converted {convert : Json → Option α} {expected : String} :
    (Fields.defaulted name default (Lenient.converted convert expected)).ofMembers ms = .ok a ↔
      Converts convert default (ms.find? name) a := by
  simp only [Fields.defaulted, Fields.field, Converts, Lenient.converted]
  cases ms.find? name with
  | none => simp [eq_comm]
  | some json => cases hconvert : convert json <;> simp [hconvert]

/-- A section that is a table, or is left out, has read its settings from what is there. -/
theorem ofMembers_section {fields : Fields α} {title : String}
    (hempty : fields.ofMembers ∅ = .ok default)
    (htable : ∀ value, ms.find? name = some value → ∃ members, value = .object members) :
    (Fields.defaulted name default (Lenient.record title fields)).ofMembers ms = .ok a ↔
      fields.ofMembers (Layer.tableOf ((ms.find? name).getD .null)) = .ok a := by
  simp only [Fields.defaulted, Fields.field]
  cases hfind : ms.find? name with
  | none =>
    show Except.ok default = .ok a ↔ fields.ofMembers ∅ = .ok a
    rw [hempty]
  | some value =>
    obtain ⟨members, rfl⟩ := htable value hfind
    show _ ↔ fields.ofMembers (Keyed.ofList members) = .ok a
    simp only [Lenient.record, Fields.readMembers]
    cases fields.ofMembers (Keyed.ofList members) <;> simp

end Reading

/-! ## Reading all settings -/

/-- The settings that are natural numbers, and where they stand. -/
def naturals : List (Slot × (Settings → Nat)) :=
  [(.member "store" "connection_timeout_secs", (·.store.connectionTimeout)),
   (.member "store" "reconnect_attempts", (·.store.reconnectAttempts)),
   (.member "cache" "project_data_ttl_secs", (·.cache.data)),
   (.member "cache" "content_base_data_ttl_secs", (·.cache.contentBase)),
   (.member "cache" "team_data_ttl_secs", (·.cache.team)),
   (.member "cache" "guardrails_data_ttl_secs", (·.cache.guardrails)),
   (.member "cache" "inline_agent_config_ttl_secs", (·.cache.inlineAgent)),
   (.member "cache" "instructions_data_ttl_secs", (·.cache.instructions)),
   (.member "cache" "agent_data_ttl_secs", (·.cache.agent)),
   (.member "cache" "workflow_data_ttl_secs", (·.cache.workflow)),
   (.member "events" "worker_threads", (·.events.workers)),
   (.member "events" "shutdown_grace_secs", (·.events.grace)),
   (.member "pre_generation" "slow_threshold_ms", (·.turn.slowMillis))]

/-- The settings that are texts. -/
def texts : List (Slot × (Settings → String)) :=
  [(.member "store" "nats_url", (·.store.natsUrl)), (.member "store" "bucket", (·.store.bucket)),
   (.member "events" "subject_prefix", (·.events.subjectRoot)),
   (.single "log_level", (·.logLevel))]

/-- The settings that are places of a store. -/
def backends : List (Slot × (Settings → StoreBackend)) :=
  [(.member "store" "backend", (·.store.backend))]

/-- These are all settings. -/
example : ∀ slot ∈ slots,
    slot ∈ naturals.map Prod.fst ++ texts.map Prod.fst ++ backends.map Prod.fst := by decide +kernel

/-- Each setting is what is found in its slot, converted, or its default. -/
structure Gathers (found : Slot → Option Json) (s : Settings) : Prop where
  naturals : ∀ leaf ∈ naturals, Converts Lenient.natural? (leaf.2 {}) (found leaf.1) (leaf.2 s)
  texts : ∀ leaf ∈ texts, Converts Lenient.text? (leaf.2 {}) (found leaf.1) (leaf.2 s)
  backends : ∀ leaf ∈ backends, Converts Lenient.backend? (leaf.2 {}) (found leaf.1) (leaf.2 s)

variable {tree : Keyed Json} {s : Settings}

theorem store_eq_ok {ms : Keyed Json} {store : StoreSettings} :
    Lenient.form.store.ofMembers ms = .ok store ↔
      Converts Lenient.backend? .memory (ms.find? "backend") store.backend ∧
      Converts Lenient.text? "nats://localhost:4222" (ms.find? "nats_url") store.natsUrl ∧
      Converts Lenient.text? "router_cache" (ms.find? "bucket") store.bucket ∧
      Converts Lenient.natural? 10 (ms.find? "connection_timeout_secs") store.connectionTimeout ∧
      Converts Lenient.natural? 5 (ms.find? "reconnect_attempts") store.reconnectAttempts := by
  simp only [SettingsForm.store, Lenient.form, Fields.ofMembers_seq_eq_ok, Fields.ofMembers_map_eq_ok,
    ofMembers_converted]
  constructor
  · rintro ⟨_, ⟨_, ⟨_, ⟨_, ⟨a, ha, rfl⟩, b, hb, rfl⟩, c, hc, rfl⟩, d, hd, rfl⟩, e, he, rfl⟩
    exact ⟨ha, hb, hc, hd, he⟩
  · rintro ⟨ha, hb, hc, hd, he⟩
    exact ⟨_, ⟨_, ⟨_, ⟨_, ⟨_, ha, rfl⟩, _, hb, rfl⟩, _, hc, rfl⟩, _, hd, rfl⟩, _, he, rfl⟩

theorem cache_eq_ok {ms : Keyed Json} {cache : TtlSettings} :
    Lenient.form.cache.ofMembers ms = .ok cache ↔
      Converts Lenient.natural? 86400 (ms.find? "project_data_ttl_secs") cache.data ∧
      Converts Lenient.natural? 86400 (ms.find? "content_base_data_ttl_secs") cache.contentBase ∧
      Converts Lenient.natural? 86400 (ms.find? "team_data_ttl_secs") cache.team ∧
      Converts Lenient.natural? 86400 (ms.find? "guardrails_data_ttl_secs") cache.guardrails ∧
      Converts Lenient.natural? 86400 (ms.find? "inline_agent_config_ttl_secs") cache.inlineAgent ∧
      Converts Lenient.natural? 86400 (ms.find? "instructions_data_ttl_secs") cache.instructions ∧
      Converts Lenient.natural? 86400 (ms.find? "agent_data_ttl_secs") cache.agent ∧
      Converts Lenient.natural? 600 (ms.find? "workflow_data_ttl_secs") cache.workflow := by
  simp only [SettingsForm.cache, Lenient.form, Fields.ofMembers_seq_eq_ok, Fields.ofMembers_map_eq_ok,
    ofMembers_converted]
  constructor
  · rintro ⟨_, ⟨_, ⟨_, ⟨_, ⟨_, ⟨_, ⟨_, ⟨a, ha, rfl⟩, b, hb, rfl⟩, c, hc, rfl⟩, d, hd, rfl⟩, e, he, rfl⟩,
      f, hf, rfl⟩, g, hg, rfl⟩, h, hh, rfl⟩
    exact ⟨ha, hb, hc, hd, he, hf, hg, hh⟩
  · rintro ⟨ha, hb, hc, hd, he, hf, hg, hh⟩
    exact ⟨_, ⟨_, ⟨_, ⟨_, ⟨_, ⟨_, ⟨_, ⟨_, ha, rfl⟩, _, hb, rfl⟩, _, hc, rfl⟩, _, hd, rfl⟩, _, he, rfl⟩,
      _, hf, rfl⟩, _, hg, rfl⟩, _, hh, rfl⟩

theorem events_eq_ok {ms : Keyed Json} {events : EventSettings} :
    Lenient.form.events.ofMembers ms = .ok events ↔
      Converts Lenient.natural? 5 (ms.find? "worker_threads") events.workers ∧
      Converts Lenient.natural? 10 (ms.find? "shutdown_grace_secs") events.grace ∧
      Converts Lenient.text? Event.subjectRoot (ms.find? "subject_prefix") events.subjectRoot := by
  simp only [SettingsForm.events, Lenient.form, Fields.ofMembers_seq_eq_ok, Fields.ofMembers_map_eq_ok,
    ofMembers_converted]
  constructor
  · rintro ⟨_, ⟨_, ⟨a, ha, rfl⟩, b, hb, rfl⟩, c, hc, rfl⟩
    exact ⟨ha, hb, hc⟩
  · rintro ⟨ha, hb, hc⟩
    exact ⟨_, ⟨_, ⟨_, ha, rfl⟩, _, hb, rfl⟩, _, hc, rfl⟩

theorem turn_eq_ok {ms : Keyed Json} {turn : TurnSettings} :
    Lenient.form.turn.ofMembers ms = .ok turn ↔
      Converts Lenient.natural? 5000 (ms.find? "slow_threshold_ms") turn.slowMillis := by
  simp only [SettingsForm.turn, Lenient.form, Fields.ofMembers_map_eq_ok, ofMembers_converted]
  constructor
  · rintro ⟨a, ha, rfl⟩
    exact ha
  · exact fun ha => ⟨_, ha, rfl⟩

/-- The settings that a tree with proper sections is read as. -/
theorem settings_eq_ok (h : Sectioned tree) :
    Lenient.form.settings.ofMembers tree = .ok s ↔ Gathers (Slot.find? tree) s := by
  have hstore : ∀ store, (Fields.defaulted "store" {} (Lenient.form.record "StoreSettings"
      Lenient.form.store)).ofMembers tree = .ok store ↔ _ :=
    fun store => (ofMembers_section rfl (h "store" (by decide))).trans store_eq_ok
  have hcache : ∀ cache, (Fields.defaulted "cache" {} (Lenient.form.record "CacheSettings"
      Lenient.form.cache)).ofMembers tree = .ok cache ↔ _ :=
    fun cache => (ofMembers_section rfl (h "cache" (by decide))).trans cache_eq_ok
  have hevents : ∀ events, (Fields.defaulted "events" {} (Lenient.form.record "EventSettings"
      Lenient.form.events)).ofMembers tree = .ok events ↔ _ :=
    fun events => (ofMembers_section rfl (h "events" (by decide))).trans events_eq_ok
  have hturn : ∀ turn, (Fields.defaulted "pre_generation" {} (Lenient.form.record
      "PreGenerationSettings" Lenient.form.turn)).ofMembers tree = .ok turn ↔ _ :=
    fun turn => (ofMembers_section rfl (h "pre_generation" (by decide))).trans turn_eq_ok
  have hlevel : ∀ level, (Fields.defaulted "log_level" "info" Lenient.form.text).ofMembers tree
      = .ok level ↔ _ := fun level => ofMembers_converted
  simp only [SettingsForm.settings, Fields.ofMembers_seq_eq_ok, Fields.ofMembers_map_eq_ok, hstore,
    hcache, hevents, hturn, hlevel]
  constructor
  · rintro ⟨_, ⟨_, ⟨_, ⟨_, ⟨store, hs, rfl⟩, cache, hc, rfl⟩, events, he, rfl⟩, turn, ht, rfl⟩,
      level, hl, rfl⟩
    obtain ⟨hbackend, hurl, hbucket, htimeout, hattempts⟩ := hs
    obtain ⟨hdata, hbase, hteam, hguardrails, hinline, hinstructions, hagent, hworkflow⟩ := hc
    obtain ⟨hworkers, hgrace, hroot⟩ := he
    constructor
    · simp only [Settings.naturals, List.forall_mem_cons, Slot.find?_member]
      exact ⟨htimeout, hattempts, hdata, hbase, hteam, hguardrails, hinline, hinstructions, hagent,
        hworkflow, hworkers, hgrace, ht, nofun⟩
    · simp only [Settings.texts, List.forall_mem_cons, Slot.find?_member, Slot.find?_single]
      exact ⟨hurl, hbucket, hroot, hl, nofun⟩
    · simp only [Settings.backends, List.forall_mem_cons, Slot.find?_member]
      exact ⟨hbackend, nofun⟩
  · rintro ⟨hnaturals, htexts, hbackends⟩
    simp only [Settings.naturals, List.forall_mem_cons, Slot.find?_member] at hnaturals
    simp only [Settings.texts, List.forall_mem_cons, Slot.find?_member, Slot.find?_single] at htexts
    simp only [Settings.backends, List.forall_mem_cons, Slot.find?_member] at hbackends
    obtain ⟨htimeout, hattempts, hdata, hbase, hteam, hguardrails, hinline, hinstructions, hagent,
      hworkflow, hworkers, hgrace, hturn, -⟩ := hnaturals
    obtain ⟨hurl, hbucket, hroot, hlevel, -⟩ := htexts
    exact ⟨_, ⟨_, ⟨_, ⟨_, ⟨_, ⟨hbackends.1, hurl, hbucket, htimeout, hattempts⟩, rfl⟩, _,
      ⟨hdata, hbase, hteam, hguardrails, hinline, hinstructions, hagent, hworkflow⟩, rfl⟩, _,
      ⟨hworkers, hgrace, hroot⟩, rfl⟩, _, hturn, rfl⟩, _, hlevel, rfl⟩

/-! ## The sources -/

/-- What the environment gives for a slot, or else the file. -/
def Slot.layered (table : Keyed Json) (environment : Keyed String) (slot : Slot) : Option Json :=
  ((environment.find? slot.variableName).map .string).or (slot.find? table)

theorem Gathers.congr {found found' : Slot → Option Json} (h : ∀ slot ∈ slots, found slot = found' slot)
    (hs : Gathers found s) : Gathers found' s := by
  have hnaturals : ∀ leaf ∈ Settings.naturals, leaf.1 ∈ slots := by decide +kernel
  have htexts : ∀ leaf ∈ Settings.texts, leaf.1 ∈ slots := by decide +kernel
  have hbackends : ∀ leaf ∈ Settings.backends, leaf.1 ∈ slots := by decide +kernel
  constructor
  · exact fun leaf hleaf => h leaf.1 (hnaturals leaf hleaf) ▸ hs.naturals leaf hleaf
  · exact fun leaf hleaf => h leaf.1 (htexts leaf hleaf) ▸ hs.texts leaf hleaf
  · exact fun leaf hleaf => h leaf.1 (hbackends leaf hleaf) ▸ hs.backends leaf hleaf

variable {table : Keyed Json} {environment : Keyed String}

/-- The sources make a tree, which has in each slot what the uppermost of them has there. -/
theorem exists_treeOf? (hfile : ∀ entry ∈ table.entries, IsDeclared entry)
    (henvironment : NamesSettings environment.entries) :
    ∃ tree, treeOf? table.entries (environmentSource environment) = some tree ∧ Sectioned tree ∧
      ∀ slot ∈ slots, slot.find? tree = slot.layered table environment := by
  have hempty : Sectioned ∅ := fun _ _ _ hfind => by cases hfind
  obtain ⟨base, hbase, hsections, hfind⟩ := overlay_declared table.sorted hfile hempty
  obtain ⟨tree, htree, hsectioned, hfound⟩ :=
    overlay_environment environment.sorted henvironment hsections
  refine ⟨tree, ?_, hsectioned, ?_⟩
  · rw [treeOf?, hbase]
    exact htree
  · intro slot hslot
    have hnone : slot.find? ∅ = none := rfl
    rw [hfound slot hslot, hfind slot hslot, hnone, Option.or_none, Keyed.ofList_entries]
    rfl

end Settings

/-! ## The bound on times to live -/

namespace TtlSettings

/-- Settings are in order, or the first time to live that is too long is reported. -/
theorem validate_cases (s : TtlSettings) :
    (s.validate = .ok () ∧ ∀ e ∈ s.named, e.2 ≤ maxTtl) ∨
    ∃ before name seconds after, s.named = before ++ (name, seconds) :: after ∧
      (∀ e ∈ before, e.2 ≤ maxTtl) ∧ maxTtl < seconds ∧
      s.validate = .error (.configuration (.ttlTooLong name seconds maxTtl)) := by
  rw [validate]
  generalize hfind : s.named.find? _ = found
  cases found with
  | none =>
    refine .inl ⟨rfl, fun e he => ?_⟩
    have hle := List.find?_eq_none.1 hfind e he
    simpa using hle
  | some first =>
    obtain ⟨name, seconds⟩ := first
    obtain ⟨hlong, before, after, hnamed, hbefore⟩ := List.find?_eq_some_iff_append.1 hfind
    refine .inr ⟨before, name, seconds, after, hnamed, fun e he => ?_, by simpa using hlong, rfl⟩
    simpa using hbefore e he

theorem le_of_validate {s : TtlSettings} (h : s.validate = .ok ()) :
    ∀ e ∈ s.named, e.2 ≤ maxTtl := by
  rcases s.validate_cases with ⟨-, hle⟩ | ⟨_, _, _, _, -, -, -, hrefused⟩
  · exact hle
  · rw [h] at hrefused
    cases hrefused

end TtlSettings

namespace Settings

variable {library : Library} {files : Files} {path : Option String} {table : Keyed Json}
  {environment : Keyed String}

/-- Loading reads the settings that the sources gather, if they gather any, and checks them. -/
theorem load_eq (hpath : fileSource? library files path = some table.entries)
    (hfile : ∀ entry ∈ table.entries, IsDeclared entry)
    (henvironment : NamesSettings environment.entries) :
    ∃ read : Option Settings, (∀ s, read = some s ↔ Gathers (Slot.layered table environment) s) ∧
      load library files environment path = match read with
        | some s => checked s
        | none => .error (.refused (.settings (library.complaint files environment path))) := by
  obtain ⟨tree, htree, hsectioned, hfind⟩ := exists_treeOf? hfile henvironment
  refine ⟨ofTree? tree, fun s => ?_, ?_⟩
  · have hread : ofTree? tree = some s ↔ Lenient.form.settings.ofMembers tree = .ok s := by
      rw [ofTree?, Fields.readMembers]
      cases Lenient.form.settings.ofMembers tree <;> simp [Except.toOption]
    rw [hread, settings_eq_ok hsectioned]
    exact ⟨Gathers.congr hfind, Gathers.congr fun slot hslot => (hfind slot hslot).symm⟩
  · simp only [load, hpath, htree]
    cases ofTree? tree <;> rfl

/-- Settings that are in order pass the check, and of others the first time to live that is too long is
reported. -/
theorem checked_cases (s : Settings) :
    (checked s = .ok s ∧ ∀ e ∈ s.cache.named, e.2 ≤ TtlSettings.maxTtl) ∨
    ∃ before name seconds after, s.cache.named = before ++ (name, seconds) :: after ∧
      (∀ e ∈ before, e.2 ≤ TtlSettings.maxTtl) ∧ TtlSettings.maxTtl < seconds ∧
      checked s
        = .error (.refused (.configuration (.ttlTooLong name seconds TtlSettings.maxTtl))) := by
  rcases s.cache.validate_cases with
    ⟨hvalid, hle⟩ | ⟨before, name, seconds, after, hnamed, hbefore, hlong, hrefused⟩
  · exact .inl ⟨by rw [checked, hvalid], hle⟩
  · exact .inr ⟨before, name, seconds, after, hnamed, hbefore, hlong, by rw [checked, hrefused]⟩

/-- Whatever settings a file has in their sections, in whatever format it is, and whatever settings the
environment gives:

* when loading returns settings, each of them is what its variable converts to, else what the file has in
  its place, and else its default, and no time to live is longer than the bound;
* when all convert and no time to live is too long, loading returns the settings they convert to;
* when all convert and a time to live is too long, the first one in the order of declaration is reported;
* when one does not convert, this is reported. -/
theorem load_layered (hpath : fileSource? library files path = some table.entries)
    (hfile : ∀ entry ∈ table.entries, IsDeclared entry)
    (henvironment : NamesSettings environment.entries) :
    (∀ s, load library files environment path = .ok s →
      Gathers (Slot.layered table environment) s ∧ ∀ e ∈ s.cache.named, e.2 ≤ TtlSettings.maxTtl) ∧
    (∀ s, Gathers (Slot.layered table environment) s →
      (∀ e ∈ s.cache.named, e.2 ≤ TtlSettings.maxTtl) →
      load library files environment path = .ok s) ∧
    (∀ s, Gathers (Slot.layered table environment) s →
      (∃ e ∈ s.cache.named, TtlSettings.maxTtl < e.2) →
      ∃ before name seconds after, s.cache.named = before ++ (name, seconds) :: after ∧
        (∀ e ∈ before, e.2 ≤ TtlSettings.maxTtl) ∧ TtlSettings.maxTtl < seconds ∧
        load library files environment path
          = .error (.refused (.configuration (.ttlTooLong name seconds TtlSettings.maxTtl)))) ∧
    ((∀ s, ¬ Gathers (Slot.layered table environment) s) →
      load library files environment path
        = .error (.refused (.settings (library.complaint files environment path)))) := by
  obtain ⟨read, hread, hload⟩ := load_eq hpath hfile henvironment
  rw [hload]
  refine ⟨fun s hs => ?_, fun s hs hle => ?_, fun s hs hlong => ?_, fun hnone => ?_⟩
  · cases read with
    | none => cases hs
    | some s' =>
      rcases checked_cases s' with ⟨hchecked, hle⟩ | ⟨_, _, _, _, -, -, -, hrefused⟩
      · obtain rfl : s' = s := Except.ok.inj (hchecked.symm.trans hs)
        exact ⟨(hread s').1 rfl, hle⟩
      · cases hrefused.symm.trans hs
  · rw [(hread s).2 hs]
    rcases checked_cases s with ⟨hchecked, -⟩ | ⟨_, name, seconds, _, hnamed, -, hlong, -⟩
    · exact hchecked
    · have hmem : (name, seconds) ∈ s.cache.named := by simp [hnamed]
      exact absurd (hle _ hmem) (Nat.not_le_of_lt hlong)
  · rw [(hread s).2 hs]
    rcases checked_cases s with ⟨-, hle⟩ | hrefused
    · obtain ⟨e, he, hlt⟩ := hlong
      exact absurd (hle e he) (Nat.not_le_of_lt hlt)
    · exact hrefused
  · cases read with
    | some s => exact absurd ((hread s).1 rfl) (hnone s)
    | none => rfl

/-- A library that reads one text in YAML, and nothing in the other formats that it is asked for. -/
def teamLibrary : Library :=
  { Library.bare fun _ _ _ => "" with
    yaml? := fun text =>
      if text = "cache:\n  team_data_ttl_secs: 60\n" then
        some (Keyed.ofList [("cache", .ofFields [("team_data_ttl_secs", .nat 60)])])
      else none }

/-- A file in TOML and two variables: the bucket comes from the environment, which has the file below it,
one time to live from each, and the other settings are left at their defaults. A file in YAML, which is
found by its name without the extension, gives its time to live as well. -/
theorem load_layered_of_file :
    let environment : Keyed String := Keyed.ofList
      [("PATH", "/bin"), ("ROUTER_CACHE__STORE__BUCKET", "variable"),
       ("ROUTER_CACHE__CACHE__AGENT_DATA_TTL_SECS", "120")]
    let toml := "[store]\nbucket = \"file\"\n[cache]\nteam_data_ttl_secs = 60\n"
    let yaml := "cache:\n  team_data_ttl_secs: 60\n"
    load teamLibrary (Keyed.ofList [("cache.toml", toml)]) environment (some "cache.toml")
        = .ok { store := { bucket := "variable" }, cache := { team := 60, agent := 120 } } ∧
      load teamLibrary (Keyed.ofList [("cache.yaml", yaml)]) environment (some "cache")
        = .ok { store := { bucket := "variable" }, cache := { team := 60, agent := 120 } } := by
  intro environment toml yaml
  have henvironment : NamesSettings environment.entries := by
    unfold NamesSettings
    decide +kernel
  have hcache : IsDeclared ("cache", .object [("team_data_ttl_secs", .nat 60)]) :=
    isDeclared_singleton (.tail _ (.head _)) (by decide) rfl
  have hstore : IsDeclared ("store", .object [("bucket", .string "file")]) :=
    isDeclared_singleton (.head _) (by decide) rfl
  constructor
  · let table : Keyed Json := Keyed.ofList
      [("store", .ofFields [("bucket", .string "file")]),
       ("cache", .ofFields [("team_data_ttl_secs", .nat 60)])]
    have hpath : fileSource? teamLibrary (Keyed.ofList [("cache.toml", toml)]) (some "cache.toml")
        = some table.entries := by decide +kernel
    have hfile : ∀ entry ∈ table.entries, IsDeclared entry := by
      have hentries : table.entries
          = [("cache", .object [("team_data_ttl_secs", .nat 60)]),
             ("store", .object [("bucket", .string "file")])] := by decide +kernel
      rw [hentries, List.forall_mem_cons, List.forall_mem_singleton]
      exact ⟨hcache, hstore⟩
    obtain ⟨-, hload, -⟩ := load_layered hpath hfile henvironment
    refine hload _ ⟨?_, ?_, ?_⟩ ?_
    · decide +kernel
    · decide +kernel
    · decide +kernel
    · decide +kernel
  · let table : Keyed Json := Keyed.ofList [("cache", .ofFields [("team_data_ttl_secs", .nat 60)])]
    have hpath : fileSource? teamLibrary (Keyed.ofList [("cache.yaml", yaml)]) (some "cache")
        = some table.entries := by decide +kernel
    have hfile : ∀ entry ∈ table.entries, IsDeclared entry := by
      have hentries : table.entries = [("cache", .object [("team_data_ttl_secs", .nat 60)])] := by
        decide +kernel
      rw [hentries, List.forall_mem_singleton]
      exact hcache
    obtain ⟨-, hload, -⟩ := load_layered hpath hfile henvironment
    refine hload _ ⟨?_, ?_, ?_⟩ ?_
    · decide +kernel
    · decide +kernel
    · decide +kernel
    · decide +kernel

end Settings

end ProjectCache
