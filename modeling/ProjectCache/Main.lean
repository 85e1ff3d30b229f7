/-
# ProjectCache.Main — the administration tool as a program.

Reads the variables and files that a run can ask for, runs the tool and prints its report. Of the
formats of settings files only TOML and JSON are read by this program, and it connects to no server.
-/
import ProjectCache.Admin.Run

namespace ProjectCache.Admin

/-- The variables of the environment that a run can ask for, where they are set. -/
def readVariables : IO (Keyed String) := do
  let names := "NATS_URL" :: "ROUTER_CACHE_CONFIG" :: Settings.variableNames
  let pairs ← names.filterMapM fun name => do return (← IO.getEnv name).map (name, ·)
  return Keyed.ofList pairs

/-- The files of some paths, as far as they can be read. -/
def readFiles (paths : List String) : IO Settings.Files := do
  let pairs ← paths.filterMapM fun (path : String) => do
    try return some (path, ← IO.FS.readFile path)
    catch _ => return none
  return Keyed.ofList pairs

/-- The path of the settings file that a run asks for. -/
def configOf (files : Settings.Files) (environment : Keyed String) (arguments : List String) :
    Option String := do
  let environment ← environmentOf files environment
  match Invocation.ofArguments environment arguments with
  | .ok invocation => invocation.config
  | .error _ => none

/-- What the program has around it. -/
def surroundings : Surroundings where
  library := .bare fun _ _ _ => "the settings cannot be read"
  wording := { pattern := fun _ => "not a regular expression" }
  unreachable := "no server"

end ProjectCache.Admin

open ProjectCache in
/-- Runs the administration tool. -/
def main (arguments : List String) : IO UInt32 := do
  let environment ← Admin.readVariables
  let hidden ← Admin.readFiles [".env"]
  let config := Admin.configOf hidden environment arguments
  let files ← Admin.readFiles (".env" :: (config.map (Settings.fileNames Admin.surroundings.library)).getD [])
  let report := Admin.run Admin.surroundings files environment arguments
  report.texts.forM fun text => IO.println text
  match report.failure with
  | some text => IO.eprintln text
  | none => pure ()
  return UInt32.ofNat report.exitCode
