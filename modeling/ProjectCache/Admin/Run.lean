/-
# ProjectCache.Admin.Run — runs of the administration tool.

A run reads variables from the file `.env`, its arguments and the settings, in this order, and then
carries out its command on the store of the settings. A store in memory is new and empty, which a
line of the log says.

The runs told here are those that reach no server (`Surroundings`): a store that processes share cannot
be opened, and an event that is in order cannot be sent.

A run prints texts, each with a line end behind it. In lines of the log, orders to a terminal are
spelled out. A run that breaks off while it reads variables or settings prints nothing.
-/
import ProjectCache.Admin.Command
import ProjectCache.Admin.EnvFile
import ProjectCache.Admin.Help
import ProjectCache.Cache.Operation
import ProjectCache.Event.Draft
import ProjectCache.Settings.Load
import ProjectCache.Text.Controls
import ProjectCache.Text.Lines

namespace ProjectCache.Admin

/-- Why a run fails. -/
inductive RunFault where
  | cache (error : Error)
  | draft (fault : Event.DraftFault)
  | notConnected
  deriving DecidableEq, Repr

/-- The wording of a fault. What has led to it is not told. -/
def RunFault.message (wording : Wording) : RunFault → String
  | .cache error => error.message wording
  | .draft fault => fault.message
  | .notConnected => "Failed to connect to NATS"

/-- What a run finds around it. -/
structure Surroundings where
  /-- What reading settings leaves to others. -/
  library : Settings.Library
  /-- How failures are worded. -/
  wording : Wording
  /-- Why no server is reached. -/
  unreachable : String

/-- A part of a run, with the texts it prints and the way it ends. -/
structure Output where
  /-- The texts. -/
  texts : List String := []
  /-- What has gone wrong. -/
  fault : Option RunFault := none

/-- A line of the log. -/
def logLine (level : Level) (text : String) : String :=
  level.name ++ " admin: " ++ Text.spelledOut text

/-- Opens the store of the settings and carries out an operation on it. -/
def onStore {α : Type} (around : Surroundings) (settings : Settings) (operation : CacheM α)
    (report : α → List String) : Output :=
  let opening := match settings.store.backend with
    | .memory =>
      [logLine .warn "Using the in-memory store; nothing is shared with running routers"]
    | .nats => []
  match settings.store.connect settings.cache.ttls (.unreachable around.unreachable) with
  | .error e => ⟨opening, some (.cache e)⟩
  | .ok (.memory store) =>
    match operation.run { now := 0, store } with
    | .ok a _ => ⟨opening ++ report a, none⟩
    | .error e _ => ⟨opening, some (.cache e)⟩

/-- Carries out a command. -/
def Command.run (around : Surroundings) (settings : Settings) : Command → Output
  | .get key =>
    onStore around settings (CacheM.get key) fun value =>
      match value with
      | some json => [json.pretty]
      | none => [logLine .info ("Key " ++ key ++ " is not cached")]
  | .invalidate project kind backend =>
    onStore around settings (Cache.invalidate settings.cache.ttls kind project backend) fun _ =>
      [logLine .info ("✅ Invalidated " ++ kind.name ++ " cache for project " ++ project)]
  | .flushProject project confirmed =>
    if confirmed then
      onStore around settings (Cache.invalidateProject project) fun n =>
        [logLine .info ("✅ Removed " ++ toString n ++ " key(s) for project " ++ project)]
    else { texts := [logLine .error "❌ Flush operation requires --confirm flag for safety"] }
  | .flushWorkflow workflow =>
    onStore around settings (Workflow.clear workflow) fun n =>
      [logLine .info ("✅ Removed " ++ toString n ++ " key(s) for workflow " ++ workflow)]
  | .publish event payload action =>
    match Event.draft .zero .epoch event payload action with
    | .error fault => { fault := some (.draft fault) }
    | .ok _ => { fault := some .notConnected }

/-- How a run ends. -/
structure Report where
  /-- The exit code. -/
  exitCode : Nat
  /-- The texts that are printed. -/
  texts : List String
  /-- The text in which a failure is reported. -/
  failure : Option String
  deriving DecidableEq, Repr

namespace Report

/-- The report of a fault. -/
def ofFault (wording : Wording) (texts : List String) (fault : RunFault) : Report :=
  ⟨1, texts, some ("Error: " ++ fault.message wording)⟩

/-- The report of a run that breaks off. -/
def brokenOff : Report := ⟨101, [], none⟩

/-- The lines that a reader sees. -/
def lines (report : Report) : List String := report.texts.flatMap Text.lines

/-- The line that names a failure. -/
def failureLine (report : Report) : Option String := report.failure.map Text.firstLine

end Report

/-- The variables of a run: those of the environment, and those of the file. None when reading the
file breaks off. -/
def environmentOf (files : Settings.Files) (environment : Keyed String) : Option (Keyed String) :=
  match files.find? ".env" with
  | some text => EnvFile.load environment text
  | none => some environment

/-- The settings of an invocation. -/
def Invocation.settings (invocation : Invocation) (library : Settings.Library)
    (files : Settings.Files) (environment : Keyed String) :
    Except Settings.LoadFault Settings := do
  let settings ← Settings.load library files environment invocation.config
  return match invocation.natsUrl with
    | some url => { settings with store := { settings.store with natsUrl := url } }
    | none => settings

/-- Runs the tool once all variables are known. -/
def runWith (around : Surroundings) (files : Settings.Files) (environment : Keyed String)
    (arguments : List String) : Report :=
  match Invocation.ofArguments environment arguments with
  | .error refusal => ⟨refusal.exitCode, refusal.output environment, none⟩
  | .ok invocation =>
    match invocation.settings around.library files environment with
    | .error .brokenOff => .brokenOff
    | .error (.refused e) => .ofFault around.wording [] (.cache e)
    | .ok settings =>
      let output := invocation.command.run around settings
      match output.fault with
      | some fault => .ofFault around.wording output.texts fault
      | none => ⟨0, output.texts, none⟩

/-- Runs the tool. -/
def run (around : Surroundings) (files : Settings.Files) (environment : Keyed String)
    (arguments : List String) : Report :=
  match environmentOf files environment with
  | some environment => runWith around files environment arguments
  | none => .brokenOff

end ProjectCache.Admin
