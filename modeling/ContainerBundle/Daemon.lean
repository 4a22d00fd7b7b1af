import ContainerBundle.Snapshot
import ContainerBundle.Conversion.Namespaces
/-!
# Asking the daemon

The daemon is asked through its command line, one command for each question. Any way in which
a command does not give an object is a fault that names the question.
-/
namespace ContainerBundle

inductive CommandOutcome
  | output (text : Json)
  | failure (status stderr : Json)
  | missing
  | refused (cause : OsError)
  | interrupted

/-- What an answer may hold for a runtime with its usual settings. -/
def CommandOutcome.usualLimits : Json.Limits := ⟨Text.digitLimit, 985⟩

/-- The client: its host, its binary, how commands end, and what their answers may hold. -/
structure Daemon where
  host : Json
  binary : Json
  run : List String → CommandOutcome
  limits : Json.Limits := CommandOutcome.usualLimits

namespace Daemon

def defaultHost : String := "unix:///var/run/docker.sock"

def defaultBinary : String := "docker"

structure Environment where
  dockerHost : Option String := none
  binary : Option String := none

private def orDefault (given : Option String) (default : String) : String :=
  match given with
  | some s => if s.isEmpty then default else s
  | none => default

def Environment.host (env : Environment) : String := orDefault env.dockerHost defaultHost

def Environment.binaryName (env : Environment) : String := orDefault env.binary defaultBinary

/-- A client for a host and a binary; a void value is replaced from the environment. -/
def connect (env : Environment) (run : List String → CommandOutcome) (host binary : Json)
    (limits : Json.Limits := CommandOutcome.usualLimits) : Daemon :=
  ⟨host.orElse (.str env.host), binary.orElse (.str env.binaryName), run, limits⟩

def parts (d : Daemon) (query : Query) : List Json :=
  [d.binary, .str "-H", d.host] ++ match query with
    | .container ref => [.str "inspect", .str "--type", .str "container", ref]
    | .info => [.str "info", .str "--format", .str "\x7b\x7bjson .\x7d\x7d"]

def command (d : Daemon) (query : Query) : Except Fault (List String) :=
  Json.words (d.parts query)

def answer (d : Daemon) (query : Query) : CommandOutcome → Except Fault Json
  | .output (.str text) =>
    match Json.read d.limits text with
    | .ok v => .ok v
    | .error (.malformed complaint offset line column) =>
      .error (.daemon query (.malformed complaint offset line column))
    | .error (.tooManyDigits count) => .error (.integer "" (.tooLong count))
    | .error (.tooDeep bracket) => .error (.nesting bracket)
  | .output v => .error (.shape (.notDocument v.shape))
  | .failure status stderr => do
    let said ← (stderr.orElse (.str "")).text .trimming
    .error (.daemon query (.failed status.mention said))
  | .missing => .error (.daemon query (.binaryMissing d.binary.mention))
  | .refused cause =>
    if cause.number = OsError.missing.number then
      .error (.daemon query (.binaryMissing d.binary.mention))
    else .error (.system cause)
  | .interrupted => .error .interrupted

def ask (d : Daemon) (query : Query) : Traced Json := do
  let command ← d.command query
  Traced.emit (.ran command)
  d.answer query (d.run command)

/-- The object of an answer; of a list, its first item. -/
def objectOf (query : Query) (v : Json) : Except Fault Json :=
  match v with
  | .obj members => .ok (.obj members)
  | _ => .error (.daemon query .unexpectedResponse)

def inspect (d : Daemon) (ref : Json) : Traced Json := do
  match ← d.ask (.container ref) with
  | .arr [] => Traced.fail (.daemon (.container ref) .noSuchContainer)
  | .arr (v :: _) => objectOf (.container ref) v
  | v => objectOf (.container ref) v

def info (d : Daemon) : Traced Json := do
  let v ← d.ask .info
  objectOf .info v

def snapshot (d : Daemon) (ref : Json) : Traced Snapshot := do
  let v ← d.inspect ref
  Snapshot.ofInspect v

def daemonInfo (d : Daemon) : Traced DaemonInfo := do
  let v ← d.info
  DaemonInfo.ofInfo v

def processOf (v : Json) : Except Fault Json := do
  let state ← v.given "State" (.obj [])
  state.given "Pid" (.int 0)

def addPeer (d : Daemon) (mode : Json) (known : Peers) : Traced Peers := do
  let mode ← mode.text .prefixTest
  match Conversion.peerOf? mode with
  | none => pure known
  | some ref =>
    if (Json.find? ref known).isSome then pure known
    else
      let v ← d.inspect (.str ref)
      let pid ← processOf v
      if pid.isVoid then pure known else pure (known ++ [(ref, pid)])

def peers (d : Daemon) (s : Snapshot) : Traced Peers := do
  let known ← d.addPeer s.namespaces.network []
  let known ← d.addPeer s.namespaces.pid known
  d.addPeer s.namespaces.ipc known

end Daemon

end ContainerBundle
