import ContainerBundle.CommandLine.Description
/-!
# The program

Runs once with the given arguments. The surroundings are described by one line of standard
input, the settings come from the environment, and the documents that the run leaves are
written below the working directory.
-/
namespace ContainerBundle.CommandLine

def descriptionLimits : Json.Limits := ⟨1000000, 100000⟩

def readDescription (line : String) : Except Json.ReadFault Json :=
  if Text.isBlankText line.toList then .ok (.obj []) else Json.read descriptionLimits line

def changedFiles (before after : Tree) : List (String × String) :=
  after.listing.filterMap fun (path, entry) =>
    match entry with
    | .file _ text =>
      if before.find? (.within (Path.components path)) = some entry then none else some (path, text)
    | _ => none

def Ending.code : Ending → UInt32
  | .exit code => UInt32.ofNat code
  | .raised _ => 1

end ContainerBundle.CommandLine

open ContainerBundle in
def main (arguments : List String) : IO UInt32 := do
  let dockerHost ← IO.getEnv "DOCKER_HOST"
  let binary ← IO.getEnv "OCIGEN_DOCKER"
  let workingDirectory ← IO.currentDir
  let line ← (← IO.getStdin).getLine
  match CommandLine.readDescription line with
  | .error _ =>
    IO.eprintln "The description of the surroundings is not a document."
    return 1
  | .ok description =>
    let machine :=
      CommandLine.Machine.ofJson { dockerHost, binary } workingDirectory.toString description
    let before := Tree.ofJson (description.part "setup")
    let report := CommandLine.run machine before (arguments.map Json.str)
    for (path, text) in CommandLine.changedFiles before report.tree do
      IO.FS.writeFile path text
    IO.print report.stdout
    IO.eprint report.stderr
    if let .raised fault := report.ending then IO.eprintln fault.message
    return report.ending.code
