/-
# ProjectCache.Proofs.Document.RoundTrip — documents are read back as they were written.

A document that keeps unknown members is *plain* when none of them has the name of a declared
member: such a member would take the declared one's place in the written object. A plain document is
read back as it was (`Kind.decode_encode`, `Bundle.decode_encode`), and every document that was read
is plain (`Kind.plain_of_decode`), so a document that has gone through the cache once goes through it
unchanged from then on.
-/
import ProjectCache.Document.Bundle
import ProjectCache.Proofs.Decode.Fields

namespace ProjectCache

/-! ## Settings of a project -/

namespace Project

/-- No other member has the name of a declared one. -/
def Plain (p : Project) : Prop := p.extra.Avoids fields.names

theorem names_fields :
    fields.names = ["uuid", "name", "agents_backend", "human_support", "human_support_prompt",
      "rationale_switch", "use_components", "default_supervisor_foundation_model",
      "conversation_turns_to_include", "exclude_previous_thinking_steps"] := rfl

@[simp] theorem optional_turns (o : Option UInt32) :
    Decoder.optional turns (.ofOption (fun n => .nat n.toNat) o) = .ok o := by
  apply Decoder.optional_ofOption fun n : UInt32 => .nat n.toNat
  · intro n _
    have hn : n.toNat < Word.count 32 := n.toNat_lt
    rw [turns, Decoder.natural_nat "u32" hn]
    simp [Except.map]
  · intro n _
    simp [Json.nat]

theorem names_of_declared (p : Project) : ∀ e ∈ p.declared, e.1 ∈ fields.names := by
  simp [declared, names_fields]

theorem decode_encode {p : Project} (h : p.Plain) : decode p.encode = .ok p := by
  refine Fields.keepingExtra_ofMap (fun extra => { p with extra }) ?_ ?_ h
  · simp only [Plain, Keyed.Avoids, names_fields, List.forall_mem_cons] at h
    simp [fields, Fields.required, Fields.defaulted, Fields.optional, Fields.field, declared, h,
      Except.map]
  · exact names_of_declared p

theorem extra_of_fields : fields.Always fun make => ∀ e, (make e).extra = e := by
  -- only the innermost function of the fields is given the other members
  iterate 9 apply Fields.Always.seq
  apply Fields.Always.map
  intros
  rfl

theorem plain_of_decode {json : Json} {p : Project} (h : decode json = .ok p) : p.Plain :=
  Fields.avoids_of_keepingExtra Project.extra extra_of_fields h

end Project

/-! ## Content bases -/

namespace ContentBase

/-- No other member has the name of a declared one. -/
def Plain (c : ContentBase) : Prop := c.extra.Avoids fields.names

theorem names_fields : fields.names = ["uuid", "title", "intelligence_uuid"] := rfl

theorem names_of_declared (c : ContentBase) : ∀ e ∈ c.declared, e.1 ∈ fields.names := by
  simp [declared, names_fields]

theorem decode_encode {c : ContentBase} (h : c.Plain) : decode c.encode = .ok c := by
  refine Fields.keepingExtra_ofMap (fun extra => { c with extra }) ?_ ?_ h
  · simp only [Plain, Keyed.Avoids, names_fields, List.forall_mem_cons] at h
    simp [fields, Fields.required, Fields.defaulted, Fields.optional, Fields.field, declared, h,
      Except.map]
  · exact names_of_declared c

theorem extra_of_fields : fields.Always fun make => ∀ e, (make e).extra = e := by
  iterate 2 apply Fields.Always.seq
  apply Fields.Always.map
  intros
  rfl

theorem plain_of_decode {json : Json} {c : ContentBase} (h : decode json = .ok c) : c.Plain :=
  Fields.avoids_of_keepingExtra ContentBase.extra extra_of_fields h

end ContentBase

/-! ## Members of a team -/

namespace TeamMember

/-- No other member has the name of a declared one. -/
def Plain (m : TeamMember) : Prop := m.extra.Avoids fields.names

theorem names_fields :
    fields.names = ["agentName", "agentDisplayName", "instruction", "description",
      "foundationModel", "collaborationInstructions"] := rfl

/-- A member that may be left out is looked up as what it was written from. -/
@[simp] theorem find?_whenPresent (key name : String) (o : Option String) :
    (Keyed.ofList (whenPresent name o)).find? key
      = if name = key then o.map Json.string else none := by
  cases o <;> simp [whenPresent]

theorem fst_of_mem_whenPresent {name : String} {o : Option String} {e : String × Json}
    (h : e ∈ whenPresent name o) : e.1 = name := by
  cases o with
  | none => cases h
  | some text => rw [List.mem_singleton.1 h]

theorem names_of_declared (m : TeamMember) : ∀ e ∈ m.declared, e.1 ∈ fields.names := by
  intro e he
  simp only [declared, List.mem_cons, List.mem_append] at he
  rw [names_fields]
  rcases he with rfl | (((he | he) | he) | he) | he
  · simp
  all_goals simp [fst_of_mem_whenPresent he]

theorem decode_encode {m : TeamMember} (h : m.Plain) : decode m.encode = .ok m := by
  refine Fields.keepingExtra_ofMap (fun extra => { m with extra }) ?_ ?_ h
  · simp only [Plain, Keyed.Avoids, names_fields, List.forall_mem_cons] at h
    -- the members that may be left out have no fixed place in the list, so they are looked up
    generalize hms : (Keyed.ofList m.declared).union m.extra = ms
    have hname : ms.find? "agentName" = some (.string m.agentName) := by
      simp [← hms, declared, h]
    have hdisplay : ms.find? "agentDisplayName" = m.agentDisplayName.map Json.string := by
      simp [← hms, declared, h]
    have hinstruction : ms.find? "instruction" = m.instruction.map Json.string := by
      simp [← hms, declared, h]
    have hdescription : ms.find? "description" = m.description.map Json.string := by
      simp [← hms, declared, h]
    have hmodel : ms.find? "foundationModel" = m.foundationModel.map Json.string := by
      simp [← hms, declared, h]
    have hcollaboration :
        ms.find? "collaborationInstructions" = m.collaborationInstructions.map Json.string := by
      simp [← hms, declared, h]
    simp [fields, Fields.required, Fields.field, hname, Except.map,
      Fields.ofMembers_optional_text hdisplay, Fields.ofMembers_optional_text hinstruction,
      Fields.ofMembers_optional_text hdescription, Fields.ofMembers_optional_text hmodel,
      Fields.ofMembers_optional_text hcollaboration]
  · exact names_of_declared m

theorem extra_of_fields : fields.Always fun make => ∀ e, (make e).extra = e := by
  iterate 5 apply Fields.Always.seq
  apply Fields.Always.map
  intros
  rfl

theorem plain_of_decode {json : Json} {m : TeamMember} (h : decode json = .ok m) : m.Plain :=
  Fields.avoids_of_keepingExtra TeamMember.extra extra_of_fields h

end TeamMember

/-! ## Guardrails -/

namespace Guardrails

/-- No other member has the name of a declared one. -/
def Plain (g : Guardrails) : Prop := g.extra.Avoids fields.names

theorem names_fields : fields.names = ["guardrail_identifier", "guardrail_version"] := rfl

theorem names_of_declared (g : Guardrails) : ∀ e ∈ g.declared, e.1 ∈ fields.names := by
  simp [declared, names_fields]

theorem decode_encode {g : Guardrails} (h : g.Plain) : decode g.encode = .ok g := by
  refine Fields.keepingExtra_ofMap (fun extra => { g with extra }) ?_ ?_ h
  · simp only [Plain, Keyed.Avoids, names_fields, List.forall_mem_cons] at h
    simp [fields, Fields.optional, Fields.field, declared, h, Except.map]
  · exact names_of_declared g

theorem extra_of_fields : fields.Always fun make => ∀ e, (make e).extra = e := by
  apply Fields.Always.seq
  apply Fields.Always.map
  intros
  rfl

theorem plain_of_decode {json : Json} {g : Guardrails} (h : decode json = .ok g) : g.Plain :=
  Fields.avoids_of_keepingExtra Guardrails.extra extra_of_fields h

end Guardrails

/-! ## Inline agents -/

namespace InlineAgent

/-- No other member has the name of a declared one. -/
def Plain (a : InlineAgent) : Prop := a.extra.Avoids fields.names

theorem names_fields :
    fields.names = ["agents_backend", "default_instructions_for_collaborators",
      "default_supervisor_instruction"] := rfl

theorem names_of_declared (a : InlineAgent) : ∀ e ∈ a.declared, e.1 ∈ fields.names := by
  simp [declared, names_fields]

theorem decode_encode {a : InlineAgent} (h : a.Plain) : decode a.encode = .ok a := by
  refine Fields.keepingExtra_ofMap (fun extra => { a with extra }) ?_ ?_ h
  · simp only [Plain, Keyed.Avoids, names_fields, List.forall_mem_cons] at h
    simp [fields, Fields.optional, Fields.field, declared, h, Except.map]
  · exact names_of_declared a

theorem extra_of_fields : fields.Always fun make => ∀ e, (make e).extra = e := by
  iterate 2 apply Fields.Always.seq
  apply Fields.Always.map
  intros
  rfl

theorem plain_of_decode {json : Json} {a : InlineAgent} (h : decode json = .ok a) : a.Plain :=
  Fields.avoids_of_keepingExtra InlineAgent.extra extra_of_fields h

end InlineAgent

/-! ## Personalities -/

theorem Personality.decode_encode (p : Personality) : decode p.encode = .ok p := by
  apply Fields.record_ofFields
  simp [fields, Fields.defaulted, Fields.field, Except.map]

/-! ## Documents of any kind -/

namespace Kind

/-- Each part of the document that keeps other members is plain. -/
def Plain : (kind : Kind) → kind.Value → Prop
  | .data, v => Project.Plain v
  | .contentBase, v => ContentBase.Plain v
  | .team, v => ∀ m ∈ (v : List TeamMember), m.Plain
  | .guardrails, v => Guardrails.Plain v
  | .inlineAgent, v => ∀ a ∈ (v : Option InlineAgent), a.Plain
  | .instructions, _ => True
  | .agent, _ => True

/-- A plain document is read back as it was written. -/
theorem decode_encode {kind : Kind} {v : kind.Value} (h : kind.Plain v) :
    kind.decode (kind.encode v) = .ok v := by
  cases kind with
  | data => exact Project.decode_encode h
  | contentBase => exact ContentBase.decode_encode h
  | team => exact Decoder.list_map fun m hm => TeamMember.decode_encode (h m hm)
  | guardrails => exact Guardrails.decode_encode h
  | inlineAgent =>
    apply Decoder.optional_ofOption InlineAgent.encode
    · exact fun a ha => InlineAgent.decode_encode (h a ha)
    · exact fun a _ hnull => nomatch hnull
  | instructions => exact Decoder.list_map fun s _ => rfl
  | agent =>
    apply Decoder.optional_ofOption Personality.encode
    · exact fun p _ => Personality.decode_encode p
    · exact fun p _ hnull => nomatch hnull

/-- A document that was read is plain. -/
theorem plain_of_decode {kind : Kind} {json : Json} {v : kind.Value}
    (h : kind.decode json = .ok v) : kind.Plain v := by
  cases kind with
  | data => exact Project.plain_of_decode h
  | contentBase => exact ContentBase.plain_of_decode h
  | team =>
    intro m hm
    obtain ⟨json, hjson⟩ := Decoder.exists_of_mem_list h m hm
    exact TeamMember.plain_of_decode hjson
  | guardrails => exact Guardrails.plain_of_decode h
  | inlineAgent => exact fun a ha => InlineAgent.plain_of_decode (Decoder.of_optional h a ha)
  | instructions => trivial
  | agent => trivial

end Kind

/-! ## Bundles -/

namespace Bundle

/-- Each document of the bundle is plain. -/
structure Plain (b : Bundle) : Prop where
  data : b.data.Plain
  project : b.project.Plain
  contentBase : b.contentBase.Plain
  team : ∀ m ∈ b.team, m.Plain
  guardrails : b.guardrails.Plain
  inlineAgent : ∀ a ∈ b.inlineAgent, a.Plain

/-- A plain bundle is read back as it was written. -/
theorem decode_encode {b : Bundle} (h : b.Plain) : decode b.encode = .ok b := by
  apply Fields.record_ofFields
  have hdata := Project.decode_encode h.data
  have hproject := Project.decode_encode h.project
  have hcontentBase := ContentBase.decode_encode h.contentBase
  have hteam : Decoder.list TeamMember.decode (.array (b.team.map TeamMember.encode)) = .ok b.team :=
    Decoder.list_map fun m hm => TeamMember.decode_encode (h.team m hm)
  have hguardrails := Guardrails.decode_encode h.guardrails
  have hinline : ∀ a ∈ b.inlineAgent, InlineAgent.decode a.encode = .ok a :=
    fun a ha => InlineAgent.decode_encode (h.inlineAgent a ha)
  simp only [fields, Fields.ofMembers_seq, Fields.ofMembers_map]
  rw [Fields.ofMembers_optional InlineAgent.encode (by simp) hinline
      (fun _ _ hnull => nomatch hnull),
    Fields.ofMembers_optional_text (o := b.agentsBackend) (by simp)]
  simp [Fields.required, Fields.field, hdata, hproject, hcontentBase, hteam, hguardrails,
    Except.map]

/-- A bundle that was read is plain. -/
theorem plain_of_decode {json : Json} {b : Bundle} (h : decode json = .ok b) : b.Plain := by
  refine Fields.Gives.of_record ?_ h
  have hteam : ∀ json team, Decoder.list TeamMember.decode json = .ok team →
      ∀ m ∈ team, m.Plain := by
    intro json team h m hm
    obtain ⟨json, hjson⟩ := Decoder.exists_of_mem_list h m hm
    exact TeamMember.plain_of_decode hjson
  have hinline : ∀ json inline, Decoder.optional InlineAgent.decode json = .ok inline →
      ∀ a ∈ inline, a.Plain :=
    fun json inline h a ha => InlineAgent.plain_of_decode (Decoder.of_optional h a ha)
  -- from the last field to the first
  refine Fields.Gives.seq ?_ (Fields.Gives.field (fun _ _ _ => trivial) fun _ _ => trivial)
  refine Fields.Gives.seq ?_ (Fields.Gives.field hinline (by simp))
  refine Fields.Gives.seq ?_ (Fields.Gives.field (fun _ _ => Guardrails.plain_of_decode) (by simp))
  refine Fields.Gives.seq ?_ (Fields.Gives.field hteam (by simp))
  refine Fields.Gives.seq ?_ (Fields.Gives.field (fun _ _ => ContentBase.plain_of_decode) (by simp))
  refine Fields.Gives.seq ?_ (Fields.Gives.field (fun _ _ => Project.plain_of_decode) (by simp))
  refine Fields.Gives.map (Fields.Gives.field (fun _ _ => Project.plain_of_decode) (by simp)) ?_
  intro data hdata project hproject contentBase hcontentBase team hteam guardrails hguardrails
    inlineAgent hinlineAgent backend _
  exact ⟨hdata, hproject, hcontentBase, hteam, hguardrails, hinlineAgent⟩

/-- Plain bundles that are written alike are the same. -/
theorem encode_inj {a b : Bundle} (ha : a.Plain) (hb : b.Plain) :
    a.encode = b.encode ↔ a = b := by
  constructor
  · intro h
    have hdecode := decode_encode ha
    rw [h, decode_encode hb] at hdecode
    exact (Except.ok.inj hdecode).symm
  · exact congrArg encode

end Bundle

end ProjectCache
