import ContainerBundle.Conversion.Devices
import ContainerBundle.Conversion.Namespaces
import ContainerBundle.Conversion.Resources
/-!
# The runtime of a container

Namespaces, devices and limits of a container, with its capabilities. The hook lists are empty;
compiled hooks are merged in afterwards. The host name is set only in a namespace for it.
-/
namespace ContainerBundle.Conversion

open Descriptor

/-- The short identifier, which the daemon assigns by default, gives way to the container's name. -/
def hostname (s : Snapshot) : Except Fault Json := do
  if s.hostname.isVoid then pure s.hostname
  else
    let shortId ← s.shortId
    if s.hostname.same shortId && !s.name.isEmpty then pure (.str s.name) else pure s.hostname

def sysctl? (pairs : List (String × Json)) : Option (List (String × Json)) :=
  if pairs.isEmpty then none else some (Json.ofMembers pairs)

def runtime (stat : Examiner) (s : Snapshot) (info : DaemonInfo) (capabilities peers : Json) :
    Traced Runtime := do
  let plan ← planNamespaces s info peers
  let (nodes, rules) ← devices stat s
  let capabilities ← capabilities.elements
  let resources ← resources s.resources rules
  let rlimits ← rlimits s.ulimits
  let shortId ← s.shortId
  Traced.emit (.runtimeConverted shortId ((listed plan).map (fun n => n.kind)))
  let hostname ← if (plan .uts).isSome then Traced.ofExcept (hostname s) else pure (.str "")
  pure
    { hostname
      linux :=
        { capabilities, namespaces := listed plan, resources, devices := nodes, rlimits
          sysctl := sysctl? s.sysctls
          oomScoreAdj := whenGiven s.resources.oomScoreAdj
          maskedPaths := if s.privileged then [] else s.maskedPaths
          readonlyPaths := if s.privileged then [] else s.readonlyPaths } }

end ContainerBundle.Conversion
