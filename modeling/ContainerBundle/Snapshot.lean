import ContainerBundle.Capability
import ContainerBundle.Json.Field
/-!
# The daemon's answers

A snapshot is one reading of an inspected container, and the daemon information holds what the
daemon says about itself. Both are read once, field by field, with defaults for what is missing.
Only a container that is no object or lacks one of its two sections is refused; what the fields
hold is checked where it is used.
-/
namespace ContainerBundle

structure MountRecord where
  destination : Json := .str ""
  source : Json := .str ""
  kind : Json := .str ""
  name : Json := .str ""
  mode : Json := .str ""
  writable : Json := .bool true
  propagation : Json := .str ""

structure DeviceMapping where
  pathOnHost : Json
  pathInContainer : Json
  permissions : Json := .str "rwm"

structure Ulimit where
  name : Json
  soft : Json
  hard : Json

/-- Resource limits as the daemon records them; null, zero and -1 stand for none. -/
structure ResourceLimits where
  cpuShares : Json := .null
  cpuQuota : Json := .null
  cpuPeriod : Json := .null
  cpusetCpus : Json := .str ""
  cpusetMems : Json := .str ""
  memory : Json := .null
  memoryReservation : Json := .null
  memorySwap : Json := .null
  kernelMemory : Json := .null
  memorySwappiness : Json := .null
  blkioWeight : Json := .null
  pidsLimit : Json := .null
  oomKillDisable : Json := .null
  oomScoreAdj : Json := .null

structure NamespaceModes where
  network : Json := .str ""
  pid : Json := .str ""
  ipc : Json := .str ""
  uts : Json := .str ""
  userns : Json := .str ""
  cgroupns : Json := .str ""

structure Snapshot where
  id : Json
  name : String := ""
  hostname : Json := .str ""
  user : Json := .str ""
  entrypoint : List Json := []
  cmd : List Json := []
  path : Json := .str ""
  args : List Json := []
  env : List Json := []
  workingDir : Json := .str ""
  tty : Bool := false
  pid : Json := .int 0
  rootfs : Json := .str ""
  readonlyRootfs : Bool := false
  mounts : List MountRecord := []
  privileged : Bool := false
  capAdd : List Json := []
  capDrop : List Json := []
  securityOpt : List Json := []
  groupAdd : List Json := []
  namespaces : NamespaceModes := {}
  resources : ResourceLimits := {}
  devices : List DeviceMapping := []
  deviceCgroupRules : List Json := []
  ulimits : List Ulimit := []
  sysctls : List (String × Json) := []
  maskedPaths : List Json := []
  readonlyPaths : List Json := []
  resolvConfPath : Json := .str ""
  hostnamePath : Json := .str ""
  hostsPath : Json := .str ""

structure DaemonInfo where
  executionDriver : Json := .str "native"
  osType : Json := .str "linux"
  architecture : Json := .str ""
  securityOptions : List Json := []
  defaultCapabilities : List Json := Capability.defaultTemplate.map Json.str

def void : Json := .str ""

def MountRecord.ofInspect (v : Json) : Except Fault MountRecord := do
  let destination ← v.given "Destination" void
  let source ← v.given "Source" void
  let kind ← v.given "Type" void
  let name ← v.given "Name" void
  let mode ← v.given "Mode" void
  let writable ← v.memberOr "RW" (.bool true)
  let propagation ← v.given "Propagation" void
  pure { destination, source, kind, name, mode, writable, propagation }

def DeviceMapping.ofInspect (v : Json) : Except Fault DeviceMapping := do
  let pathOnHost ← v.given "PathOnHost" void
  let pathInContainer ← v.given "PathInContainer" pathOnHost
  let permissions ← v.given "CgroupPermissions" (.str "rwm")
  pure { pathOnHost, pathInContainer, permissions }

def Ulimit.ofInspect (v : Json) : Except Fault Ulimit := do
  let name ← v.memberOr "Name" void
  let soft ← v.memberOr "Soft" (.int 0)
  let hard ← v.memberOr "Hard" (.int 0)
  pure { name, soft, hard }

def ResourceLimits.ofHostConfig (host : Json) : Except Fault ResourceLimits := do
  let cpuShares ← host.member "CpuShares"
  let cpuQuota ← host.member "CpuQuota"
  let cpuPeriod ← host.member "CpuPeriod"
  let cpusetCpus ← host.given "CpusetCpus" void
  let cpusetMems ← host.given "CpusetMems" void
  let memory ← host.member "Memory"
  let memoryReservation ← host.member "MemoryReservation"
  let memorySwap ← host.member "MemorySwap"
  let kernelMemory ← host.member "KernelMemory"
  let memorySwappiness ← host.member "MemorySwappiness"
  let blkioWeight ← host.member "BlkioWeight"
  let pidsLimit ← host.member "PidsLimit"
  let oomKillDisable ← host.member "OomKillDisable"
  let oomScoreAdj ← host.member "OomScoreAdj"
  pure { cpuShares, cpuQuota, cpuPeriod, cpusetCpus, cpusetMems, memory, memoryReservation,
         memorySwap, kernelMemory, memorySwappiness, blkioWeight, pidsLimit, oomKillDisable,
         oomScoreAdj }

def NamespaceModes.ofHostConfig (host : Json) : Except Fault NamespaceModes := do
  let network ← host.given "NetworkMode" void
  let pid ← host.given "PidMode" void
  let ipc ← host.given "IpcMode" void
  let uts ← host.given "UTSMode" void
  let userns ← host.given "UsernsMode" void
  let cgroupns ← host.given "CgroupnsMode" void
  pure { network, pid, ipc, uts, userns, cgroupns }

/-- The records that a field lists; a void field lists none. -/
def readEach (read : Json → Except Fault α) (field : Json) : Except Fault (List α) := do
  let items ← (field.orElse (.arr [])).elements
  items.mapM read

def requireSection (v shortId : Json) (wanted : Section) : Except Fault Json := do
  match ← v.member wanted.key with
  | .obj members => pure (.obj members)
  | _ => throw (.conversion (.missingSection shortId wanted))

def readRootfs (v : Json) : Except Fault Json := do
  let driver ← v.given "GraphDriver" (.obj [])
  let data ← driver.given "Data" (.obj [])
  let merged ← data.member "MergedDir"
  if merged.isVoid then data.given "Dir" void else pure merged

def readName (v : Json) : Except Fault String := do
  let name ← v.given "Name" void
  let text ← name.text .leadingTrim
  pure (String.ofList (text.toList.dropWhile (· == '/')))

namespace Snapshot

def ofInspect (v : Json) : Except Fault Snapshot := do
  match v with
  | .obj _ => pure ()
  | _ => throw (.conversion .inspectNotObject)
  let id ← v.given "Id" void
  let shortId ← id.leading 12
  let config ← requireSection v shortId .config
  let host ← requireSection v shortId .hostConfig
  let rootfs ← readRootfs v
  let namespaces ← NamespaceModes.ofHostConfig host
  let ulimits ← readEach Ulimit.ofInspect (← host.member "Ulimits")
  let name ← readName v
  let hostname ← config.given "Hostname" void
  let user ← config.given "User" void
  let entrypoint ← (← config.member "Entrypoint").entries
  let cmd ← (← config.member "Cmd").entries
  let path ← v.given "Path" void
  let args ← (← v.member "Args").entries
  let env ← (← config.member "Env").entries
  let workingDir ← config.given "WorkingDir" void
  let tty ← config.member "Tty"
  let state ← v.given "State" (.obj [])
  let pid ← state.given "Pid" (.int 0)
  let readonlyRootfs ← host.member "ReadonlyRootfs"
  let mounts ← readEach MountRecord.ofInspect (← v.member "Mounts")
  let privileged ← host.member "Privileged"
  let capAdd ← (← host.member "CapAdd").entries
  let capDrop ← (← host.member "CapDrop").entries
  let securityOpt ← (← host.member "SecurityOpt").entries
  let groupAdd ← (← host.member "GroupAdd").entries
  let resources ← ResourceLimits.ofHostConfig host
  let devices ← readEach DeviceMapping.ofInspect (← host.member "Devices")
  let deviceCgroupRules ← (← host.member "DeviceCgroupRules").entries
  let sysctls ← (← host.given "Sysctls" (.obj [])).pairs
  let maskedPaths ← (← host.member "MaskedPaths").entries
  let readonlyPaths ← (← host.member "ReadonlyPaths").entries
  let resolvConfPath ← v.given "ResolvConfPath" void
  let hostnamePath ← v.given "HostnamePath" void
  let hostsPath ← v.given "HostsPath" void
  pure { id, name, hostname, user, entrypoint, cmd, path, args, env, workingDir,
         tty := !tty.isVoid, pid, rootfs, readonlyRootfs := !readonlyRootfs.isVoid, mounts,
         privileged := !privileged.isVoid, capAdd, capDrop, securityOpt, groupAdd, namespaces,
         resources, devices, deviceCgroupRules, ulimits, sysctls, maskedPaths, readonlyPaths,
         resolvConfPath, hostnamePath, hostsPath }

def shortId (s : Snapshot) : Except Fault Json := s.id.leading 12

end Snapshot

namespace DaemonInfo

def ofInfo (v : Json) : Except Fault DaemonInfo := do
  match v with
  | .obj _ => pure ()
  | _ => throw (.conversion .infoNotObject)
  let template ← v.given "DefaultCapabilities" (.arr (Capability.defaultTemplate.map Json.str))
  let executionDriver ← v.given "ExecutionDriver" (.str "native")
  let osType ← v.given "OSType" (.str "linux")
  let architecture ← v.given "Architecture" void
  let securityOptions ← (← v.member "SecurityOptions").entries
  let defaultCapabilities ← template.elements
  pure { executionDriver, osType, architecture, securityOptions, defaultCapabilities }

def anyRemaps : List Json → Except Fault Bool
  | [] => pure false
  | option :: rest => do
    if option.isText "userns" then pure true
    else if ← option.mentions "name=userns" then pure true
    else anyRemaps rest

def usernsRemap (info : DaemonInfo) : Except Fault Bool := anyRemaps info.securityOptions

end DaemonInfo

end ContainerBundle
