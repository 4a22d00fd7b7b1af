import ContainerBundle.CommandLine.Wrapping
/-!
# Usage and help

The texts that the program prints about itself. Only the default of the host option depends on
the environment; it is wrapped into the column of descriptions.
-/
namespace ContainerBundle.CommandLine

def programName : String := "ocigen"

def version : String := "0.1.0"

def usage : String :=
  "usage: ocigen [-h] [--version] [--debug] [--host HOST] [--bundle BUNDLE]\n" ++
  "              [--rootfs ROOTFS] [--hook PHASE:EXEC] [--force]\n" ++
  "              [container]\n"

def descriptionWidth : Nat := 54

/-- A description in its column, behind an option that fits into the column before it. -/
private def described (option description : String) : String :=
  let lead := "  " ++ option ++ "".pushn ' ' (22 - option.length)
  lead ++ ("\n" ++ "".pushn ' ' 24).intercalate (wrap descriptionWidth description) ++ "\n"

def help (defaultHost : String) : String :=
  usage ++ "\n" ++
  "docker inspect to OCI bundle spec generator.\n\n" ++
  "positional arguments:\n" ++
  described "container" "Container name or ID" ++ "\n" ++
  "options:\n" ++
  described "-h, --help" "show this help message and exit" ++
  described "--version, -v" "show program's version number and exit" ++
  described "--debug, -d" "Run in debug mode" ++
  described "--host HOST" ("Docker daemon socket to connect to (default: " ++ defaultHost ++ ")") ++
  "  --bundle BUNDLE, -b BUNDLE\n" ++
  described "" "Path to the root of the bundle directory" ++
  described "--rootfs ROOTFS"
    "Root filesystem path to put in config.json (default: the container's merged directory)" ++
  described "--hook PHASE:EXEC"
    "Hooks to prefill into the runtime spec (ex. --hook prestart:netns)" ++
  described "--force, -f" "Force overwrite existing files" ++ "\n" ++
  "Pass 'help' or 'version' as the container to print usage or version.\n"

end ContainerBundle.CommandLine
