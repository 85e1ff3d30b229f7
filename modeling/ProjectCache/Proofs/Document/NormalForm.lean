/-
# ProjectCache.Proofs.Document.NormalForm — what reading and writing again does to an object.

A record that keeps other members is written with every declared member. So an object that was read
comes back with all its members and with the declared ones that it lacked, which have their
defaults; only the optional members of an agent are left out when they are `null`
(`Outline.normalize`, `Form.encode_of_decode`). Nothing more happens when the result is read and
written once more, since what was read is plain, and what is plain is read back as it was
(`Form.rewrite_rewrite`, `Form.written_as_read`).
-/
import ProjectCache.Proofs.Document.RoundTrip

namespace ProjectCache

/-! ## Readers that accept only the written form -/

namespace Decoder

variable {α : Type}

/-- Only the written form of a value is read as the value. -/
def Exact (value : Decoder α) (encode : α → Json) : Prop :=
  ∀ json a, value json = .ok a → encode a = json

theorem exact_text : Exact text Json.string := by
  intro json s h
  cases json with
  | string t => exact congrArg Json.string (Except.ok.inj h).symm
  | _ => cases h

theorem exact_flag : Exact flag Json.bool := by
  intro json b h
  cases json with
  | bool c => exact congrArg Json.bool (Except.ok.inj h).symm
  | _ => cases h

/-- A number is read as itself, and is within its bits. -/
theorem of_natural {bits n : Nat} {name : String} {json : Json} (h : natural bits name json = .ok n) :
    Json.nat n = json ∧ n < Word.count bits := by
  cases json with
  | number numeral =>
    cases numeral with
    | int k =>
      by_cases hk : 0 ≤ k ∧ k < (Word.count bits : Int)
      · rw [natural, integer, if_pos hk] at h
        obtain rfl := Except.ok.inj h
        constructor
        · show Json.number (.int (k.toNat : Int)) = _
          rw [Int.toNat_of_nonneg hk.1]
        · omega
      · rw [natural, integer, if_neg hk] at h
        cases h
    | float x => cases h
  | _ => cases h

theorem Exact.optional {value : Decoder α} {encode : α → Json} (h : Exact value encode) :
    Exact (optional value) (Json.ofOption encode) := by
  intro json o ho
  cases o with
  | some a => exact h json a (of_optional ho a rfl)
  | none =>
    cases json with
    | null => rfl
    | _ =>
      revert ho
      simp only [Decoder.optional]
      cases value _ <;> intro ho <;> cases ho

end Decoder

/-! ## What the fields of a record have read -/

namespace Fields

variable {α β : Type} {ms : Keyed Json}

theorem ofMembers_map_eq_ok {f : α → β} {as : Fields α} {b : β} :
    (f <$> as).ofMembers ms = .ok b ↔ ∃ a, as.ofMembers ms = .ok a ∧ f a = b := by
  rw [ofMembers_map]
  cases as.ofMembers ms <;> simp [Except.map]

theorem ofMembers_seq_eq_ok {fs : Fields (α → β)} {as : Fields α} {b : β} :
    (fs <*> as).ofMembers ms = .ok b ↔
      ∃ f, fs.ofMembers ms = .ok f ∧ ∃ a, as.ofMembers ms = .ok a ∧ f a = b := by
  rw [ofMembers_seq]
  cases fs.ofMembers ms <;> cases as.ofMembers ms <;> simp

/-- A field has read the member of its name, or has its default when there is none. -/
theorem some_encode_of_field {name : String} {value : Decoder α} {default : Option α} {a : α}
    {encode : α → Json} (hexact : Decoder.Exact value encode)
    (h : (field name value default).ofMembers ms = .ok a) :
    some (encode a) = (ms.find? name).or (default.map encode) := by
  simp only [field] at h
  cases hfind : ms.find? name with
  | some json =>
    cases hvalue : value json with
    | error e => simp [hfind, hvalue] at h
    | ok b =>
      simp only [hfind, hvalue, Except.ok.injEq] at h
      rw [Option.some_or, ← h, hexact json b hvalue]
  | none =>
    cases default with
    | none => simp [hfind] at h
    | some b =>
      simp only [hfind, Except.ok.injEq] at h
      rw [Option.none_or, Option.map_some, h]

end Fields

/-! ## The normal form of an object -/

/-- The declared members of a record that keeps others: their names, the defaults of those that may
be missing and are written nevertheless, and the names of those that are left out when they are
`null`. -/
structure Outline where
  names : List String
  defaults : List (String × Json)
  leftOut : List String := []
  of_defaults : ∀ e ∈ defaults, e.1 ∈ names ∧ e.1 ∉ leftOut
  of_leftOut : ∀ name ∈ leftOut, name ∈ names

namespace Outline

/-- Is the member written again? -/
def keeps (outline : Outline) (key : String) (json : Json) : Bool :=
  ! (json = .null ∧ key ∈ outline.leftOut)

/-- The object with the defaults of the declared members that it lacks, and without those that are
left out. -/
def normalize (outline : Outline) (ms : Keyed Json) : Keyed Json :=
  (Keyed.ofList outline.defaults).union (ms.filter outline.keeps)

@[simp] theorem find?_normalize (outline : Outline) (ms : Keyed Json) (key : String) :
    (outline.normalize ms).find? key
      = ((ms.find? key).filter (outline.keeps key)).or ((Keyed.ofList outline.defaults).find? key) := by
  rw [normalize, Keyed.find?_union, Keyed.find?_filter]

theorem find?_defaults_of_leftOut {outline : Outline} {name : String} (h : name ∈ outline.leftOut) :
    (Keyed.ofList outline.defaults).find? name = none :=
  Keyed.find?_ofList_eq_none fun e he heq => (outline.of_defaults e he).2 (heq ▸ h)

theorem filter_keeps {outline : Outline} {key : String} (h : key ∉ outline.leftOut)
    (found : Option Json) : found.filter (outline.keeps key) = found := by
  cases found <;> simp [keeps, h]

variable {α β : Type} {outline : Outline} {ms : Keyed Json}

/-- A member that is always written is the one that was read, or the default. -/
theorem find?_normalize_of_field (outline : Outline) {name : String} {value : Decoder β}
    {default : Option β} {b : β} {encode : β → Json} (hexact : Decoder.Exact value encode)
    (h : (Fields.field name value default).ofMembers ms = .ok b)
    (hname : name ∉ outline.leftOut ∧
      (Keyed.ofList outline.defaults).find? name = default.map encode) :
    (outline.normalize ms).find? name = some (encode b) := by
  obtain ⟨hkept, hdefault⟩ := hname
  rw [find?_normalize, filter_keeps hkept, hdefault]
  exact (Fields.some_encode_of_field hexact h).symm

/-- A member that is left out when it is `null` is written when it has a value. -/
theorem find?_normalize_of_optional_text (outline : Outline) {name : String} {o : Option String}
    (h : (Fields.optional name Decoder.text).ofMembers ms = .ok o)
    (hname : name ∈ outline.leftOut ∧ (Keyed.ofList outline.defaults).find? name = none) :
    (outline.normalize ms).find? name = o.map Json.string := by
  obtain ⟨hleftOut, hdefault⟩ := hname
  have hread := Fields.some_encode_of_field Decoder.exact_text.optional h
  rw [find?_normalize, hdefault, Option.or_none]
  cases hfind : ms.find? name with
  | none =>
    rw [hfind] at hread
    cases o with
    | none => rfl
    | some s => cases hread
  | some json =>
    rw [hfind] at hread
    obtain rfl := Option.some.inj hread
    cases o <;> simp [keeps, hleftOut, Json.ofOption]

/-- The record is read and written as the outline says. -/
structure Describes (outline : Outline) (fields : Fields (Keyed Json → α))
    (declared : α → List (String × Json)) (extra : α → Keyed Json) : Prop where
  names : fields.names = outline.names
  of_declared : ∀ a, ∀ e ∈ declared a, e.1 ∈ outline.names
  keeps : fields.Always fun make => ∀ e, extra (make e) = e
  written : ∀ ms make e, fields.ofMembers ms = .ok make → ∀ name ∈ outline.names,
    (Keyed.ofList (declared (make e))).find? name = (outline.normalize ms).find? name

/-- What was read from an object is written as its normal form. -/
theorem Describes.union_eq {fields : Fields (Keyed Json → α)}
    {declared : α → List (String × Json)} {extra : α → Keyed Json}
    (h : outline.Describes fields declared extra) (title : String) {ms : List (String × Json)} {a : α}
    (hread : Fields.keepingExtra title fields (.object ms) = .ok a) :
    (Keyed.ofList (declared a)).union (extra a) = outline.normalize (Keyed.ofList ms) := by
  simp only [Fields.keepingExtra, Fields.readMembers] at hread
  cases hmake : fields.ofMembers (Keyed.ofList ms) with
  | error fault => simp [hmake, Except.map] at hread
  | ok make =>
    simp only [hmake, Except.map, Except.ok.injEq] at hread
    subst hread
    apply Keyed.ext_find?
    intro key
    rw [Keyed.find?_union, h.keeps _ _ hmake, Fields.extraOf, Keyed.find?_filter, h.names]
    by_cases hkey : key ∈ outline.names
    · have hextra : ∀ found : Option Json,
          (found.filter fun _ => ! outline.names.contains key) = none := by
        intro found
        cases found <;> simp [hkey]
      rw [h.written _ _ _ hmake key hkey, hextra, Option.none_or]
    · have hdeclared : ∀ a, (Keyed.ofList (declared a)).find? key = none := fun a =>
        Keyed.find?_ofList_eq_none fun e he heq => hkey (heq ▸ h.of_declared a e he)
      have hdefaults : (Keyed.ofList outline.defaults).find? key = none :=
        Keyed.find?_ofList_eq_none fun e he heq => hkey (heq ▸ (outline.of_defaults e he).1)
      rw [hdeclared, find?_normalize, hdefaults,
        filter_keeps fun hmem => hkey (outline.of_leftOut key hmem)]
      cases (Keyed.ofList ms).find? key <;> simp [hkey]

end Outline

/-! ## The records that keep other members -/

namespace Project

/-- The outline of the settings. -/
def outline : Outline where
  names := fields.names
  defaults := [("name", .string ""), ("agents_backend", .null), ("human_support", .bool false),
    ("human_support_prompt", .null), ("rationale_switch", .bool false),
    ("use_components", .bool false), ("default_supervisor_foundation_model", .null),
    ("conversation_turns_to_include", .null), ("exclude_previous_thinking_steps", .bool false)]
  of_defaults := by simp [names_fields]
  of_leftOut := by simp

theorem exact_turns : Decoder.Exact turns fun n => .nat n.toNat := by
  intro json n h
  simp only [turns] at h
  cases hnat : Decoder.natural 32 "u32" json with
  | error e => simp [hnat, Except.map] at h
  | ok k =>
    simp only [hnat, Except.map, Except.ok.injEq] at h
    obtain ⟨hk, hlt⟩ := Decoder.of_natural hnat
    rw [← h]
    show Json.nat (UInt32.ofNat k).toNat = json
    rw [UInt32.toNat_ofNat_of_lt' hlt, hk]

theorem describes_outline : outline.Describes fields declared extra where
  names := rfl
  of_declared := names_of_declared
  keeps := extra_of_fields
  written := by
    intro ms make e hmake
    simp only [fields, Fields.ofMembers_seq_eq_ok, Fields.ofMembers_map_eq_ok] at hmake
    obtain ⟨_, ⟨_, ⟨_, ⟨_, ⟨_, ⟨_, ⟨_, ⟨_, ⟨_, ⟨uuid, huuid, rfl⟩, name, hname, rfl⟩, backend,
      hbackend, rfl⟩, support, hsupport, rfl⟩, prompt, hprompt, rfl⟩, rationale, hrationale, rfl⟩,
      components, hcomponents, rfl⟩, model, hmodel, rfl⟩, turns, hturns, rfl⟩, steps, hsteps, rfl⟩ :=
      hmake
    replace huuid := outline.find?_normalize_of_field Decoder.exact_text huuid (by simp [outline])
    replace hname := outline.find?_normalize_of_field Decoder.exact_text hname (by simp [outline])
    replace hbackend := outline.find?_normalize_of_field Decoder.exact_text.optional hbackend
      (by simp [outline, Json.ofOption])
    replace hsupport := outline.find?_normalize_of_field Decoder.exact_flag hsupport
      (by simp [outline])
    replace hprompt := outline.find?_normalize_of_field Decoder.exact_text.optional hprompt
      (by simp [outline, Json.ofOption])
    replace hrationale := outline.find?_normalize_of_field Decoder.exact_flag hrationale
      (by simp [outline])
    replace hcomponents := outline.find?_normalize_of_field Decoder.exact_flag hcomponents
      (by simp [outline])
    replace hmodel := outline.find?_normalize_of_field Decoder.exact_text.optional hmodel
      (by simp [outline, Json.ofOption])
    replace hturns := outline.find?_normalize_of_field exact_turns.optional hturns
      (by simp [outline, Json.ofOption])
    replace hsteps := outline.find?_normalize_of_field Decoder.exact_flag hsteps (by simp [outline])
    show ∀ name ∈ fields.names, _
    simp only [names_fields, List.forall_mem_cons, huuid, hname, hbackend, hsupport, hprompt,
      hrationale, hcomponents, hmodel, hturns, hsteps]
    simp [declared]

end Project

namespace ContentBase

/-- The outline of a content base. -/
def outline : Outline where
  names := fields.names
  defaults := [("title", .string ""), ("intelligence_uuid", .null)]
  of_defaults := by simp [names_fields]
  of_leftOut := by simp

theorem describes_outline : outline.Describes fields declared extra where
  names := rfl
  of_declared := names_of_declared
  keeps := extra_of_fields
  written := by
    intro ms make e hmake
    simp only [fields, Fields.ofMembers_seq_eq_ok, Fields.ofMembers_map_eq_ok] at hmake
    obtain ⟨_, ⟨_, ⟨uuid, huuid, rfl⟩, title, htitle, rfl⟩, intelligence, hintelligence, rfl⟩ :=
      hmake
    replace huuid := outline.find?_normalize_of_field Decoder.exact_text huuid (by simp [outline])
    replace htitle := outline.find?_normalize_of_field Decoder.exact_text htitle (by simp [outline])
    replace hintelligence := outline.find?_normalize_of_field Decoder.exact_text.optional
      hintelligence (by simp [outline, Json.ofOption])
    show ∀ name ∈ fields.names, _
    simp only [names_fields, List.forall_mem_cons, huuid, htitle, hintelligence]
    simp [declared]

end ContentBase

namespace TeamMember

/-- The outline of one agent: no member is added, and the optional ones are left out when they are
`null`. -/
def outline : Outline where
  names := fields.names
  defaults := []
  leftOut := ["agentDisplayName", "instruction", "description", "foundationModel",
    "collaborationInstructions"]
  of_defaults := by simp
  of_leftOut := by simp [names_fields]

theorem describes_outline : outline.Describes fields declared extra where
  names := rfl
  of_declared := names_of_declared
  keeps := extra_of_fields
  written := by
    intro ms make e hmake
    simp only [fields, Fields.ofMembers_seq_eq_ok, Fields.ofMembers_map_eq_ok] at hmake
    obtain ⟨_, ⟨_, ⟨_, ⟨_, ⟨_, ⟨name, hname, rfl⟩, display, hdisplay, rfl⟩,
      instruction, hinstruction, rfl⟩, description, hdescription, rfl⟩, model, hmodel, rfl⟩,
      collaboration, hcollaboration, rfl⟩ := hmake
    replace hname := outline.find?_normalize_of_field Decoder.exact_text hname (by simp [outline])
    replace hdisplay := outline.find?_normalize_of_optional_text hdisplay (by simp [outline])
    replace hinstruction := outline.find?_normalize_of_optional_text hinstruction
      (by simp [outline])
    replace hdescription := outline.find?_normalize_of_optional_text hdescription
      (by simp [outline])
    replace hmodel := outline.find?_normalize_of_optional_text hmodel (by simp [outline])
    replace hcollaboration := outline.find?_normalize_of_optional_text hcollaboration
      (by simp [outline])
    show ∀ name ∈ fields.names, _
    simp only [names_fields, List.forall_mem_cons, hname, hdisplay, hinstruction, hdescription,
      hmodel, hcollaboration]
    simp [declared]

end TeamMember

namespace Guardrails

/-- The outline of guardrails. -/
def outline : Outline where
  names := fields.names
  defaults := [("guardrail_identifier", .null), ("guardrail_version", .null)]
  of_defaults := by simp [names_fields]
  of_leftOut := by simp

theorem describes_outline : outline.Describes fields declared extra where
  names := rfl
  of_declared := names_of_declared
  keeps := extra_of_fields
  written := by
    intro ms make e hmake
    simp only [fields, Fields.ofMembers_seq_eq_ok, Fields.ofMembers_map_eq_ok] at hmake
    obtain ⟨_, ⟨identifier, hidentifier, rfl⟩, version, hversion, rfl⟩ := hmake
    replace hidentifier := outline.find?_normalize_of_field Decoder.exact_text.optional hidentifier
      (by simp [outline, Json.ofOption])
    replace hversion := outline.find?_normalize_of_field Decoder.exact_text.optional hversion
      (by simp [outline, Json.ofOption])
    show ∀ name ∈ fields.names, _
    simp only [names_fields, List.forall_mem_cons, hidentifier, hversion]
    simp [declared]

end Guardrails

namespace InlineAgent

/-- The outline of a configuration. -/
def outline : Outline where
  names := fields.names
  defaults := [("agents_backend", .null), ("default_instructions_for_collaborators", .null),
    ("default_supervisor_instruction", .null)]
  of_defaults := by simp [names_fields]
  of_leftOut := by simp

theorem describes_outline : outline.Describes fields declared extra where
  names := rfl
  of_declared := names_of_declared
  keeps := extra_of_fields
  written := by
    intro ms make e hmake
    simp only [fields, Fields.ofMembers_seq_eq_ok, Fields.ofMembers_map_eq_ok] at hmake
    obtain ⟨_, ⟨_, ⟨backend, hbackend, rfl⟩, collaborators, hcollaborators, rfl⟩, supervisor,
      hsupervisor, rfl⟩ := hmake
    replace hbackend := outline.find?_normalize_of_field Decoder.exact_text.optional hbackend
      (by simp [outline, Json.ofOption])
    replace hcollaborators := outline.find?_normalize_of_field Decoder.exact_text.optional
      hcollaborators (by simp [outline, Json.ofOption])
    replace hsupervisor := outline.find?_normalize_of_field Decoder.exact_text.optional hsupervisor
      (by simp [outline, Json.ofOption])
    show ∀ name ∈ fields.names, _
    simp only [names_fields, List.forall_mem_cons, hbackend, hcollaborators, hsupervisor]
    simp [declared]

end InlineAgent

/-! ## Records of any form -/

/-- The records that are written as JSON. -/
inductive Form where
  | project
  | contentBase
  | teamMember
  | guardrails
  | inlineAgent
  | personality
  | bundle
  deriving DecidableEq, Repr

namespace Form

/-- The records of a form. -/
abbrev Value : Form → Type
  | .project => Project
  | .contentBase => ContentBase
  | .teamMember => TeamMember
  | .guardrails => Guardrails
  | .inlineAgent => InlineAgent
  | .personality => Personality
  | .bundle => Bundle

/-- Reads a record. -/
def decode : (form : Form) → Decoder form.Value
  | .project => Project.decode
  | .contentBase => ContentBase.decode
  | .teamMember => TeamMember.decode
  | .guardrails => Guardrails.decode
  | .inlineAgent => InlineAgent.decode
  | .personality => Personality.decode
  | .bundle => Bundle.decode

/-- Writes a record. -/
def encode : (form : Form) → form.Value → Json
  | .project, v => Project.encode v
  | .contentBase, v => ContentBase.encode v
  | .teamMember, v => TeamMember.encode v
  | .guardrails, v => Guardrails.encode v
  | .inlineAgent, v => InlineAgent.encode v
  | .personality, v => Personality.encode v
  | .bundle, v => Bundle.encode v

/-- No part of the record keeps a member with a declared name. -/
def Plain : (form : Form) → form.Value → Prop
  | .project, v => Project.Plain v
  | .contentBase, v => ContentBase.Plain v
  | .teamMember, v => TeamMember.Plain v
  | .guardrails, v => Guardrails.Plain v
  | .inlineAgent, v => InlineAgent.Plain v
  | .personality, _ => True
  | .bundle, v => Bundle.Plain v

/-- The outline of a form that keeps other members. -/
def outline? : Form → Option Outline
  | .project => some Project.outline
  | .contentBase => some ContentBase.outline
  | .teamMember => some TeamMember.outline
  | .guardrails => some Guardrails.outline
  | .inlineAgent => some InlineAgent.outline
  | .personality => none
  | .bundle => none

/-- Reads a record and writes it again. -/
def rewrite (form : Form) (json : Json) : Except DecodeError Json :=
  (form.decode json).map form.encode

variable {form : Form}

/-- A plain record is read back as it was written. -/
theorem decode_encode {v : form.Value} (h : form.Plain v) :
    form.decode (form.encode v) = .ok v := by
  cases form with
  | project => exact Project.decode_encode h
  | contentBase => exact ContentBase.decode_encode h
  | teamMember => exact TeamMember.decode_encode h
  | guardrails => exact Guardrails.decode_encode h
  | inlineAgent => exact InlineAgent.decode_encode h
  | personality => exact Personality.decode_encode v
  | bundle => exact Bundle.decode_encode h

/-- A record that was read is plain. -/
theorem plain_of_decode {json : Json} {v : form.Value} (h : form.decode json = .ok v) :
    form.Plain v := by
  cases form with
  | project => exact Project.plain_of_decode h
  | contentBase => exact ContentBase.plain_of_decode h
  | teamMember => exact TeamMember.plain_of_decode h
  | guardrails => exact Guardrails.plain_of_decode h
  | inlineAgent => exact InlineAgent.plain_of_decode h
  | personality => trivial
  | bundle => exact Bundle.plain_of_decode h

/-- A record that was read from an object is written as the object's normal form. -/
theorem encode_of_decode {outline : Outline} {ms : List (String × Json)} {v : form.Value}
    (houtline : form.outline? = some outline) (h : form.decode (.object ms) = .ok v) :
    form.encode v = .ofMap (outline.normalize (Keyed.ofList ms)) := by
  cases form with
  | project =>
    obtain rfl := Option.some.inj houtline
    exact congrArg Json.ofMap (Project.describes_outline.union_eq "ProjectData" h)
  | contentBase =>
    obtain rfl := Option.some.inj houtline
    exact congrArg Json.ofMap (ContentBase.describes_outline.union_eq "ContentBaseData" h)
  | teamMember =>
    obtain rfl := Option.some.inj houtline
    exact congrArg Json.ofMap (TeamMember.describes_outline.union_eq "TeamMember" h)
  | guardrails =>
    obtain rfl := Option.some.inj houtline
    exact congrArg Json.ofMap (Guardrails.describes_outline.union_eq "GuardrailsData" h)
  | inlineAgent =>
    obtain rfl := Option.some.inj houtline
    exact congrArg Json.ofMap (InlineAgent.describes_outline.union_eq "InlineAgentConfig" h)
  | personality => cases houtline
  | bundle => cases houtline

/-- What was rewritten once stays as it is. -/
theorem rewrite_rewrite {json again : Json} (h : form.rewrite json = .ok again) :
    form.rewrite again = .ok again := by
  simp only [rewrite] at h ⊢
  cases hread : form.decode json with
  | error e => simp [hread, Except.map] at h
  | ok v =>
    simp only [hread, Except.map, Except.ok.injEq] at h
    rw [← h, decode_encode (plain_of_decode hread)]
    rfl

/-- A plain record is read back as it was written. A record that keeps other members is written with
each member that it was read from, unless that is an optional one of an agent and `null`, and beside
them only with declared members that were not there, which have their defaults. Whatever the form,
reading and writing a second time changes nothing. -/
theorem written_as_read (form : Form) :
    (∀ v, form.Plain v → form.decode (form.encode v) = .ok v) ∧
    (∀ outline, form.outline? = some outline → ∀ ms v, form.decode (.object ms) = .ok v →
      ∃ written, form.encode v = .ofMap written ∧
        (∀ key json, (Keyed.ofList ms).find? key = some json →
          written.find? key = if json = .null ∧ key ∈ outline.leftOut then none else some json) ∧
        ∀ key json, (Keyed.ofList ms).find? key = none → written.find? key = some json →
          key ∈ outline.names ∧ (key, json) ∈ outline.defaults) ∧
    ∀ json again, form.rewrite json = .ok again → form.rewrite again = .ok again := by
  refine ⟨fun v => decode_encode, ?_, fun json again => rewrite_rewrite⟩
  intro outline houtline ms v h
  refine ⟨_, encode_of_decode houtline h, ?_, ?_⟩
  · intro key json hfind
    rw [Outline.find?_normalize, hfind]
    by_cases hleftOut : json = .null ∧ key ∈ outline.leftOut
    · have hdropped : outline.keeps key json = false := by simp [Outline.keeps, hleftOut]
      rw [Option.filter_some, hdropped, if_neg (by simp), Option.none_or,
        Outline.find?_defaults_of_leftOut hleftOut.2, if_pos hleftOut]
    · have hkept : outline.keeps key json = true := by simp [Outline.keeps, hleftOut]
      rw [Option.filter_some, hkept, if_pos rfl, Option.some_or, if_neg hleftOut]
  · intro key json hfind hwritten
    rw [Outline.find?_normalize, hfind, Option.filter_none, Option.none_or] at hwritten
    have hmem : (key, json) ∈ outline.defaults := Keyed.mem_of_find?_ofList hwritten
    exact ⟨(outline.of_defaults _ hmem).1, hmem⟩

/-- An agent whose instruction is `null` and that has a member that is not declared. -/
theorem written_as_read_agent :
    let ms : List (String × Json) :=
      [("agentName", .string "Ada"), ("instruction", .null), ("rank", .nat 2)]
    let agent : TeamMember := { agentName := "Ada", extra := Keyed.ofList [("rank", .nat 2)] }
    TeamMember.decode (.object ms) = .ok agent ∧ agent.Plain ∧
      TeamMember.decode agent.encode = .ok agent ∧
      (∃ written, agent.encode = .ofMap written ∧ written.find? "rank" = some (.nat 2) ∧
        written.find? "instruction" = none ∧ written.find? "description" = none) ∧
      teamMember.rewrite (.object ms) = .ok agent.encode ∧
      teamMember.rewrite agent.encode = .ok agent.encode := by
  intro ms agent
  obtain ⟨hread, hwritten, hagain⟩ := written_as_read .teamMember
  have hdecode : TeamMember.decode (.object ms) = .ok agent := by rfl
  have hplain : agent.Plain := TeamMember.plain_of_decode hdecode
  have hrewrite : teamMember.rewrite (.object ms) = .ok agent.encode :=
    congrArg (Except.map TeamMember.encode) hdecode
  obtain ⟨written, heq, hkept, hadded⟩ := hwritten _ rfl ms agent hdecode
  refine ⟨hdecode, hplain, hread agent hplain, ⟨written, heq, ?_, ?_, ?_⟩, hrewrite,
    hagain _ _ hrewrite⟩
  · rw [hkept "rank" (.nat 2) (by decide +kernel)]
    simp [Json.nat]
  · rw [hkept "instruction" .null (by decide +kernel)]
    simp [TeamMember.outline]
  · cases hfind : written.find? "description" with
    | none => rfl
    | some json =>
      obtain ⟨-, hdefault⟩ := hadded "description" json (by decide +kernel) hfind
      cases hdefault

end Form

end ProjectCache
