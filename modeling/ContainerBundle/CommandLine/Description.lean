import ContainerBundle.CommandLine.Run
/-!
# Described machines

The surroundings of a run in one document: how the daemon's command ends, which executables
exist, how device nodes are examined, what the container's files hold, and what the bundle
directory holds. What is not described is not there.
-/
namespace ContainerBundle

namespace Json

def part (v : Json) (key : String) : Json :=
  match v with
  | obj members => (find? key members).getD null
  | _ => null

def hasPart (v : Json) (key : String) : Bool :=
  match v with
  | obj members => (find? key members).isSome
  | _ => false

def parts : Json → List (String × Json)
  | obj members => members
  | _ => []

def text? : Json → Option String
  | str s => some s
  | _ => none

def required (v : Json) (key : String) : Except Fault Json :=
  match v with
  | obj members =>
    match find? key members with
    | some value => .ok value
    | none => .error (.lacking (.str key))
  | v => .error (.shape (.notSearchable v.shape))

def textOrEmpty (v : Json) : String := v.text?.getD ""

def integerOrZero (v : Json) : Int := v.integer?.getD 0

end Json

def OsError.ofJson (v : Json) : OsError :=
  ⟨(v.part "errno").integerOrZero, if v.hasPart "strerror" then (v.part "strerror").mention else ""⟩

def bytesOfHex : List Char → List UInt8
  | a :: b :: rest =>
    UInt8.ofNat (16 * (Json.hexValue? a).getD 0 + (Json.hexValue? b).getD 0) :: bytesOfHex rest
  | _ => []

/-- Files by path: a text, or the bytes of a file that holds none, with blanks between them. -/
def Files.ofJson (v : Json) : Files := fun path =>
  match v.part path with
  | .null => none
  | .str s => some s.toUTF8.toList
  | file =>
    let digits := (file.part "hex").textOrEmpty.toList.filter (fun c => (Json.hexValue? c).isSome)
    some (bytesOfHex digits)

def FileStatus.ofJson (v : Json) : Except Fault FileStatus := do
  let mode ← v.required "mode"
  let device ← v.required "rdev"
  pure { mode, device, uid := ← v.memberOr "uid" (.int 0), gid := ← v.memberOr "gid" (.int 0) }

/-- A file that is described as null is not there, and a value that is no text is the path of none.
-/
def Examiner.ofJson (v : Json) : Examiner := fun path =>
  match path with
  | .str name =>
    let file := v.part name
    if file.isNull then .error (.system .missing)
    else if file.hasPart "errno" then .error (.system (.ofJson file))
    else FileStatus.ofJson file
  | path => do
    let _ ← path.hashable
    .error (.system .missing)

def SearchPath.ofJson (workingDirectory : String) (v : Json) : SearchPath :=
  { find := v.part, workingDirectory }

def Daemon.Environment.ofJson (v : Json) : Daemon.Environment :=
  { dockerHost := (v.part "DOCKER_HOST").text?, binary := (v.part "OCIGEN_DOCKER").text? }

def CommandOutcome.ofJson (v : Json) : CommandOutcome :=
  if v.hasPart "json" then .output (.str (v.part "json").render)
  else if v.hasPart "stdout" then .output (v.part "stdout")
  else if v.hasPart "exit" then
    .failure (v.part "exit") (v.part "stderr")
  else if v.hasPart "missing" then .missing
  else if v.hasPart "errno" then .refused (.ofJson v)
  else if v.hasPart "interrupt" then .interrupted
  else .failure (.int 1) .null

def CommandOutcome.tableOfJson (v : Json) (command : List String) : CommandOutcome :=
  let question :=
    if command[3]? = some "inspect" then "inspect " ++ command.getLast?.getD "" else "info"
  .ofJson (v.part question)

/-- An entry of a directory; a described file can be read by its owner only. -/
def Entry.ofJson (v : Json) : Entry :=
  if v.hasPart "link" then .link (v.part "link").textOrEmpty
  else if v.hasPart "dir" then .directory
  else .file Tree.stagingMode (v.part "text").textOrEmpty

def Tree.ofJson (v : Json) : Tree :=
  v.parts.foldl (fun t e => t.plant e.1 (.ofJson e.2)) .empty

def HostView.ofJson (v : Json) : HostView :=
  { stat := .ofJson (v.part "stat"), files := .ofJson (v.part "files") }

def CommandLine.Machine.ofJson (environment : Daemon.Environment) (workingDirectory : String)
    (v : Json) : CommandLine.Machine :=
  { environment, docker := CommandOutcome.tableOfJson (v.part "docker")
    search := .ofJson workingDirectory (v.part "which"), view := .ofJson v }

end ContainerBundle
