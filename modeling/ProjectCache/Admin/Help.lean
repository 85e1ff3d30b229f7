/-
# ProjectCache.Admin.Help — how the administration tool is used.

A page says what a command does, how it is written, and what its words and options mean. Entries
stand in two columns, of which the first is as wide as its widest entry; a meaning of several lines
stays in the second. Variables may bring any characters into a page, so orders to a terminal are
left out of it.
-/
import ProjectCache.Admin.Command
import ProjectCache.Text.Controls
import ProjectCache.Text.Lines

namespace ProjectCache.Admin

/-! ## Layout -/

/-- An entry of a page: what is written, and what it means. -/
structure HelpEntry where
  /-- What is written. -/
  form : String
  /-- What it means. -/
  meaning : String

/-- As many blanks as are told. -/
def blanks (n : Nat) : String := String.ofList (List.replicate n ' ')

/-- The lines of an entry behind a margin, with a first column of a width. -/
def HelpEntry.lines (margin : Nat) (entry : HelpEntry) (width : Nat) : List String :=
  let start := blanks margin ++ entry.form ++ blanks (width + 2 - entry.form.length)
  match (Text.cutAt '\n' entry.meaning.toList).map String.ofList with
  | [] => [start]
  | first :: rest => (start ++ first) :: rest.map (blanks (margin + width + 2) ++ ·)

/-- A titled list of entries, if there are any. -/
def section? (title : String) (entries : List HelpEntry) : List String :=
  if entries.isEmpty then []
  else
    let width := (entries.map fun entry => entry.form.length).foldl max 0
    "" :: (title ++ ":") :: entries.flatMap fun entry => entry.lines 2 width

/-- A page. -/
structure HelpPage where
  /-- What the command does. -/
  about : String
  /-- How the command is written. -/
  usage : String
  /-- The subcommands. -/
  commands : List HelpEntry := []
  /-- The words. -/
  words : List HelpEntry := []
  /-- The options. -/
  options : List HelpEntry := []

/-- The lines of a page. -/
def HelpPage.lines (page : HelpPage) : List String :=
  [page.about, "", "Usage: " ++ page.usage] ++ section? "Commands" page.commands
    ++ section? "Arguments" page.words ++ section? "Options" page.options

/-- The text of a page. -/
def HelpPage.text (page : HelpPage) : String :=
  Text.withoutOrders (String.intercalate "\n" page.lines)

/-! ## The pages -/

/-- What a verb does. -/
def Verb.about : Verb → String
  | .get => "Print the cached value of a key"
  | .invalidate => "Invalidate one cache type of a project"
  | .flushProject => "Delete every cached entry of a project"
  | .flushWorkflow => "Delete every cached entry of a workflow"
  | .publish => "Publish an activity event for running routers to pick up"

/-- What the request for help does. -/
def helpAbout : String := "Print this message or the help of the given subcommand(s)"

/-- The option that shows a page. -/
def helpOption : HelpEntry := ⟨"-h, --help", "Print help"⟩

/-- The page of a verb. -/
def Verb.page (verb : Verb) : HelpPage :=
  let written (words : String) : String := "admin " ++ verb.word ++ " " ++ words
  match verb with
  | .get =>
    { about := verb.about, usage := written "<KEY>",
      words := [⟨"<KEY>", "Cache key, e.g. project:<uuid>:all"⟩], options := [helpOption] }
  | .invalidate =>
    { about := verb.about, usage := written "[OPTIONS] --cache-type <CACHE_TYPE> <PROJECT_UUID>",
      words := [⟨"<PROJECT_UUID>", "Project UUID"⟩],
      options :=
        [⟨"    --cache-type <CACHE_TYPE>",
           "Cache type (data, content_base, team, guardrails, inline_agent_config, "
             ++ "instructions, agent)"⟩,
         ⟨"    --backend <BACKEND>",
           "Agents backend; without it a team invalidation clears every backend"⟩,
         helpOption] }
  | .flushProject =>
    { about := verb.about, usage := written "[OPTIONS] <PROJECT_UUID>",
      words := [⟨"<PROJECT_UUID>", "Project UUID"⟩],
      options := [⟨"    --confirm", "Confirm the deletion"⟩, helpOption] }
  | .flushWorkflow =>
    { about := verb.about, usage := written "<WORKFLOW_ID>",
      words := [⟨"<WORKFLOW_ID>", "Workflow ID"⟩], options := [helpOption] }
  | .publish =>
    { about := verb.about, usage := written "[OPTIONS] <EVENT>",
      words := [⟨"<EVENT>", "Event name, e.g. project_activity"⟩],
      options :=
        [⟨"    --payload <PAYLOAD>",
           "JSON object merged into the event payload [default: \x7b\x7d]"⟩,
         ⟨"    --action <ACTION>", "Action code (C, U, D) [default: U]"⟩, helpOption] }

/-- The mention of a variable that stands in for an option, with its value. -/
def variableNote (environment : Keyed String) (name : String) : String :=
  "[env: " ++ name ++ "=" ++ (environment.find? name).getD "" ++ "]"

/-- The page of the tool. -/
def toolPage (environment : Keyed String) : HelpPage where
  about := "Router Cache Admin CLI - Inspect, flush and refresh the project cache"
  usage := "admin [OPTIONS] <COMMAND>"
  commands :=
    Verb.all.map (fun verb => ⟨verb.word, verb.about⟩) ++ [⟨Invocation.helpWord, helpAbout⟩]
  options :=
    [⟨"    --config <CONFIG>",
       "Settings file (TOML) " ++ variableNote environment "ROUTER_CACHE_CONFIG"⟩,
     ⟨"    --nats-url <NATS_URL>",
       "NATS server URL, overrides the settings file " ++ variableNote environment "NATS_URL"⟩,
     ⟨"-v, --verbose", "Enable verbose logging"⟩, helpOption,
     ⟨"-V, --version", "Print version"⟩]

/-- The page of the request for help. -/
def helpPage : HelpPage where
  about := helpAbout
  usage := "admin help [COMMAND]..."
  words := [⟨"[COMMAND]...", "Print help for the subcommand(s)"⟩]

/-- The page on a topic. -/
def Topic.page (environment : Keyed String) : Topic → HelpPage
  | .tool => toolPage environment
  | .verb v => v.page
  | .help => helpPage

/-- What the tool prints instead of carrying out a command. -/
def Refusal.output (environment : Keyed String) : Refusal → List String
  | .misuse => []
  | .help topic => [(topic.page environment).text]
  | .version => ["router-cache-admin 1.0"]

end ProjectCache.Admin
