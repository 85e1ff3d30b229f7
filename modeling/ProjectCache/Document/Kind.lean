/-
# ProjectCache.Document.Kind — the seven kinds of documents that are cached for a project.

Each kind has a name, which is a part of its keys, a type of values with a JSON form, and a time to
live. Only team rosters are kept per backend. Four of the kinds must be there for a bundle to be
built, and the inline agent configuration goes into it when it is there.
-/
import ProjectCache.Document.Project
import ProjectCache.Document.ContentBase
import ProjectCache.Document.TeamMember
import ProjectCache.Document.Guardrails
import ProjectCache.Document.InlineAgent
import ProjectCache.Document.Personality
import ProjectCache.Span

namespace ProjectCache

/-- A kind of document. -/
inductive Kind where
  | data
  | contentBase
  | team
  | guardrails
  | inlineAgent
  | instructions
  | agent
  deriving DecidableEq, Repr

namespace Kind

/-- The kinds, in order. -/
def all : List Kind :=
  [.data, .contentBase, .team, .guardrails, .inlineAgent, .instructions, .agent]

theorem mem_all (kind : Kind) : kind ∈ all := by
  cases kind <;> decide

/-- The name of a kind. -/
def name : Kind → String
  | .data => "data"
  | .contentBase => "content_base"
  | .team => "team"
  | .guardrails => "guardrails"
  | .inlineAgent => "inline_agent_config"
  | .instructions => "instructions"
  | .agent => "agent"

/-- The kind of a name. -/
def ofName? (text : String) : Option Kind := all.find? fun kind => kind.name == text

/-- Is there one document for each backend? -/
def isPerBackend (kind : Kind) : Bool := kind = .team

/-- How long a document lives by default. -/
def defaultTtl : Kind → Span
  | _ => .ofHours 24

/-- The kinds without which there is no bundle. -/
def required : List Kind := [.data, .contentBase, .team, .guardrails]

/-- The kinds that go into a bundle when they are there. -/
def optional : List Kind := [.inlineAgent]

/-! ## Values -/

/-- The values of a kind. -/
abbrev Value : Kind → Type
  | .data => Project
  | .contentBase => ContentBase
  | .team => List TeamMember
  | .guardrails => Guardrails
  | .inlineAgent => Option InlineAgent
  | .instructions => List String
  | .agent => Option Personality

/-- Reads a value. -/
def decode : (kind : Kind) → Decoder kind.Value
  | .data => Project.decode
  | .contentBase => ContentBase.decode
  | .team => Decoder.list TeamMember.decode
  | .guardrails => Guardrails.decode
  | .inlineAgent => Decoder.optional InlineAgent.decode
  | .instructions => Decoder.list Decoder.text
  | .agent => Decoder.optional Personality.decode

/-- Writes a value. -/
def encode : (kind : Kind) → kind.Value → Json
  | .data, v => Project.encode v
  | .contentBase, v => ContentBase.encode v
  | .team, v => .array (List.map TeamMember.encode v)
  | .guardrails, v => Guardrails.encode v
  | .inlineAgent, v => .ofOption InlineAgent.encode v
  | .instructions, v => .array (List.map Json.string v)
  | .agent, v => .ofOption Personality.encode v

/-- Reads the name of a kind. -/
def decodeName : Decoder Kind := Decoder.variant (all.map name) ofName?

end Kind

/-- A document with its kind. -/
structure Document where
  /-- The kind. -/
  kind : Kind
  /-- The value. -/
  value : kind.Value

namespace Document

/-- Writes the value of a document. -/
def encode (document : Document) : Json := document.kind.encode document.value

end Document

end ProjectCache
