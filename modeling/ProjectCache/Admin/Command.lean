/-
# ProjectCache.Admin.Command — the commands of the administration tool.

The tool itself takes the options that all commands share, which must stand before the command. Two
of them can also come from the environment, where what is written on the command line wins.
-/
import ProjectCache.Document.Kind
import ProjectCache.Keyed
import ProjectCache.Admin.Arguments

namespace ProjectCache.Admin

/-- What the tool is asked to do. -/
inductive Command where
  | get (key : String)
  | invalidate (project : String) (kind : Kind) (backend : Option String)
  | flushProject (project : String) (confirmed : Bool)
  | flushWorkflow (workflow : String)
  | publish (event payload action : String)
  deriving DecidableEq, Repr

/-- A command with the options of the tool. -/
structure Invocation where
  /-- The path of a settings file. -/
  config : Option String
  /-- The address of the server, in place of the one in the settings. -/
  natsUrl : Option String
  /-- Is more to be logged? -/
  verbose : Bool
  /-- The command. -/
  command : Command
  deriving DecidableEq, Repr

/-- The names of the commands. -/
inductive Verb where
  | get
  | invalidate
  | flushProject
  | flushWorkflow
  | publish
  deriving DecidableEq, Repr

/-- The name of a command. -/
def Command.verb : Command → Verb
  | .get .. => .get
  | .invalidate .. => .invalidate
  | .flushProject .. => .flushProject
  | .flushWorkflow .. => .flushWorkflow
  | .publish .. => .publish

namespace Verb

/-- The verbs. -/
def all : List Verb := [.get, .invalidate, .flushProject, .flushWorkflow, .publish]

/-- The word for a verb. -/
def word : Verb → String
  | .get => "get"
  | .invalidate => "invalidate"
  | .flushProject => "flush-project"
  | .flushWorkflow => "flush-workflow"
  | .publish => "publish"

/-- The verb of a word. -/
def ofWord? (text : String) : Option Verb := all.find? fun verb => verb.word == text

/-- An option with any value. -/
def anyValue (name : String) : Opt := { name, role := .value fun _ => true }

/-- The options of a verb, help apart. -/
def options : Verb → List Opt
  | .get | .flushWorkflow => []
  | .invalidate =>
    [{ name := "cache-type", role := .value fun text => (Kind.ofName? text).isSome },
     anyValue "backend"]
  | .flushProject => [{ name := "confirm", role := .flag }]
  | .publish => [anyValue "payload", anyValue "action"]

/-- What a verb understands: its options, and one word. -/
def usage (verb : Verb) : Usage := { options := verb.options ++ [.help], words := 1 }

/-- The command of a verb and what was given to it. None when something is missing. -/
def command? (verb : Verb) (given : Given) : Option Command := do
  let word ← given.words.head?
  match verb with
  | .get => some (.get word)
  | .invalidate =>
    let kind ← (given.value? "cache-type").bind Kind.ofName?
    some (.invalidate word kind (given.value? "backend"))
  | .flushProject => some (.flushProject word (given.has "confirm"))
  | .flushWorkflow => some (.flushWorkflow word)
  | .publish =>
    some (.publish word ((given.value? "payload").getD "\x7b\x7d")
      ((given.value? "action").getD "U"))

end Verb

/-- What somebody wants to know who asks for help. -/
inductive Topic where
  | tool
  | verb (verb : Verb)
  | help
  deriving DecidableEq, Repr

/-- Why there is no command to carry out. -/
inductive Refusal where
  | misuse
  | help (topic : Topic)
  | version
  deriving DecidableEq, Repr

namespace Refusal

/-- The refusal for an interruption while reading about a topic. -/
def of (topic : Topic) : Interruption → Refusal
  | .misuse => .misuse
  | .help => .help topic
  | .version => .version

/-- The exit code of the tool. -/
def exitCode : Refusal → Nat
  | .misuse => 2
  | .help _ | .version => 0

end Refusal

namespace Invocation

/-- The word that asks for help. -/
def helpWord : String := "help"

/-- What the tool itself understands. -/
def usage : Usage where
  options :=
    [Verb.anyValue "config", Verb.anyValue "nats-url",
     { name := "verbose", letter := some 'v', role := .flag }, .help,
     { name := "version", letter := some 'V', role := .version }]
  subcommands := helpWord :: Verb.all.map Verb.word

/-- What the words behind the request for help ask about. -/
def topic? : List String → Option Topic
  | [] => some .tool
  | [word] => if word = helpWord then some .help else (Verb.ofWord? word).map .verb
  | _ => none

/-- Reads the arguments of a verb. -/
def readVerb (verb : Verb) (arguments : List String) : Except Refusal Command :=
  let result : Except Interruption Command := do
    let (given, _) ← verb.usage.read {} arguments
    match verb.command? (← given.settle) with
    | some command => return command
    | none => throw .misuse
  result.mapError (Refusal.of (.verb verb))

/-- Reads the arguments of the tool. -/
def ofArguments (environment : Keyed String) (arguments : List String) :
    Except Refusal Invocation := do
  let (given, rest) ← (usage.read {} arguments).mapError (Refusal.of .tool)
  match rest with
  | [] => throw .misuse
  | word :: rest =>
    match Verb.ofWord? word with
    | none =>
      match topic? rest with
      | some topic => throw (.help topic)
      | none => throw .misuse
    | some verb =>
      let command ← readVerb verb rest
      let given ← given.settle.mapError (Refusal.of .tool)
      return {
        config := given.value? "config" <|> environment.find? "ROUTER_CACHE_CONFIG"
        natsUrl := given.value? "nats-url" <|> environment.find? "NATS_URL"
        verbose := given.has "verbose"
        command }

end Invocation

end ProjectCache.Admin
