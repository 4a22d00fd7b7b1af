import ContainerBundle.Descriptor.Runtime
import ContainerBundle.Snapshot
import ContainerBundle.Text.Upper
/-!
# Resource limits

A limit is carried over when it is above zero, swappiness from 0 to 100, a processor set when it
is not empty. A group without a set limit is left out.
-/
namespace ContainerBundle.Conversion

open Descriptor

def positive (v : Json) : Except Fault Json :=
  match v with
  | .null => .ok .null
  | v =>
    match v.atMost? 0 with
    | none => .error (.shape (.notOrdered v.shape .integer))
    | some unset => .ok (if unset then .null else v)

/-- A swappiness from 0 to 100, null otherwise. -/
def swappiness (v : Json) : Except Fault Json :=
  match v with
  | .null => .ok .null
  | v =>
    match v.atLeast? 0, v.atMost? 100 with
    | some low, some high => .ok (if low && high then v else .null)
    | _, _ => .error (.shape (.notOrdered .integer v.shape))

def whenGiven (v : Json) : Json := if v.isVoid then .null else v

def unlessUnset (members : α → List (String × Json)) (group : α) : Option α :=
  if (members group).all (·.2.isNull) then none else some group

def memory (limits : ResourceLimits) : Except Fault (Option Memory) := do
  let swappiness ← swappiness limits.memorySwappiness
  let limit ← positive limits.memory
  let reservation ← positive limits.memoryReservation
  let swap ← positive limits.memorySwap
  let kernel ← positive limits.kernelMemory
  pure (unlessUnset Memory.members { limit, reservation, swap, kernel, swappiness })

def cpu (limits : ResourceLimits) : Except Fault (Option Cpu) := do
  let shares ← positive limits.cpuShares
  let quota ← positive limits.cpuQuota
  let period ← positive limits.cpuPeriod
  let cpus := whenGiven limits.cpusetCpus
  let mems := whenGiven limits.cpusetMems
  pure (unlessUnset Cpu.members { shares, quota, period, cpus, mems })

def blockIo (limits : ResourceLimits) : Except Fault (Option BlockIo) := do
  let weight ← positive limits.blkioWeight
  pure (unlessUnset BlockIo.members { weight })

def pids (limits : ResourceLimits) : Except Fault (Option Pids) := do
  let limit ← positive limits.pidsLimit
  pure (unlessUnset Pids.members { limit })

def resources (limits : ResourceLimits) (rules : List DeviceRule) : Except Fault Resources := do
  let memory ← memory limits
  let cpu ← cpu limits
  let blockIo ← blockIo limits
  let pids ← pids limits
  pure
    { devices := rules
      disableOomKiller := if limits.oomKillDisable.isVoid then none else some true
      memory, cpu, blockIo, pids }

/-- The limits that have a name, under the kernel's names. -/
def rlimits : List Ulimit → Except Fault (List Rlimit)
  | [] => pure []
  | u :: rest => do
    if u.name.isVoid then rlimits rest
    else
      let name ← u.name.text .upperCasing
      let others ← rlimits rest
      pure ({ kind := "RLIMIT_" ++ String.ofList (Text.upper name.toList), hard := u.hard,
              soft := u.soft } :: others)

end ContainerBundle.Conversion
