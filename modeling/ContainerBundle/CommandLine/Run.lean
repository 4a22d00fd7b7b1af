import ContainerBundle.CommandLine.Options
import ContainerBundle.CommandLine.Usage
import ContainerBundle.Daemon
import ContainerBundle.Directory.Writing
/-!
# Running the program

One run reads its arguments, asks the daemon, makes the bundle and writes it. Hooks are
compiled before the daemon is asked anything, and nothing is written before both documents are
complete.
-/
namespace ContainerBundle.CommandLine

structure Machine where
  environment : Daemon.Environment
  docker : List String → CommandOutcome
  search : SearchPath
  view : HostView
  /-- What the answers of the daemon may hold. -/
  limits : Json.Limits := CommandOutcome.usualLimits
  /-- What the bundle meets while it is written. -/
  disk : WriteSchedule := .faultless

def Machine.daemon (m : Machine) (host : Json) : Daemon :=
  Daemon.connect m.environment m.docker host .null m.limits

inductive Ending
  | exit (code : Nat)
  | raised (fault : Fault)

structure Report where
  ending : Ending
  stdout : String := ""
  stderr : String := ""
  events : List Event := []
  tree : Tree

def bundleOf (m : Machine) (o : Options) : Traced Bundle := do
  let hooks ← compileHooks m.search o.hooks
  let daemon := m.daemon o.host
  let s ← daemon.snapshot o.container
  let info ← daemon.daemonInfo
  let peers ← daemon.peers s
  generate m.view s info (.compiled hooks) o.rootfs (.obj peers)

def convert (m : Machine) (t : Tree) (o : Options) : Tree × Traced (List String) :=
  let made := bundleOf m o
  match made.outcome with
  | .error fault => (t, ⟨made.events, .error fault⟩)
  | .ok bundle =>
    let (after, written) := t.writeBundleAt m.disk bundle o.bundle o.force
    (after, ⟨made.events ++ written.events, written.outcome⟩)

def logText (debug : Bool) (events : List Event) : String :=
  "".intercalate (((remarks events).filter (fun r => debug || r.level = .warning)).map fun r =>
    r.level.label ++ " " ++ r.source ++ ": " ++ r.text ++ "\n")

def runConversion (m : Machine) (t : Tree) (o : Options) : Report :=
  let (after, converted) := convert m t o
  let log := logText o.debug converted.events
  match converted.outcome with
  | .ok _ =>
    { ending := .exit 0
      stdout := Bundle.configName ++ " and " ++ Bundle.runtimeName ++ " have been saved.\n"
      stderr := log, events := converted.events, tree := after }
  | .error .interrupted =>
    { ending := .exit 130, stdout := "\nInterrupted\n", stderr := log
      events := converted.events, tree := after }
  | .error fault =>
    if o.debug then
      { ending := .raised fault, stderr := log, events := converted.events, tree := after }
    else
      { ending := .exit 1, stderr := log ++ "Error: " ++ fault.message ++ "\n"
        events := converted.events, tree := after }

def run (m : Machine) (t : Tree) (arguments : List Json) : Report :=
  let defaultHost := m.environment.host
  match Options.read defaultHost arguments with
  | .error .help => { ending := .exit 0, stdout := help defaultHost, tree := t }
  | .error .version =>
    { ending := .exit 0, stdout := programName ++ " " ++ version ++ "\n", tree := t }
  | .error (.refused cause) =>
    { ending := .exit 2, tree := t
      stderr := usage ++ programName ++ ": error: " ++ cause.message ++ "\n" }
  | .error (.failed fault) => { ending := .raised fault, tree := t }
  | .ok options =>
    if options.container.isVoid then
      { ending := .exit 1, tree := t
        stderr := "Pass the container name or ID.\n\n" ++ help defaultHost }
    else if options.container.isText "help" then
      { ending := .exit 0, stdout := help defaultHost, tree := t }
    else if options.container.isText "version" then
      { ending := .exit 0, stdout := version ++ "\n", tree := t }
    else runConversion m t options

end ContainerBundle.CommandLine
