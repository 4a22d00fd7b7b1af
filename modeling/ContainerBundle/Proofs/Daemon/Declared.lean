import ContainerBundle.Snapshot
import ContainerBundle.Proofs.Json.Typed
/-!
# Answers of the declared types

The fields of a snapshot and of the daemon information as the daemon types them. A snapshot of the
declared types may hold any texts and integers in them.
-/
namespace ContainerBundle

open Json

structure MountRecord.Declared (r : MountRecord) : Prop where
  destination : r.destination.IsText
  source : r.source.IsText
  kind : r.kind.IsText
  name : r.name.IsText
  mode : r.mode.IsText
  writable : r.writable.IsBoolean
  propagation : r.propagation.IsText

structure DeviceMapping.Declared (m : DeviceMapping) : Prop where
  pathOnHost : m.pathOnHost.IsText
  pathInContainer : m.pathInContainer.IsText
  permissions : m.permissions.IsText

structure Ulimit.Declared (u : Ulimit) : Prop where
  name : u.name.IsText
  soft : u.soft.IsInteger
  hard : u.hard.IsInteger

structure ResourceLimits.Declared (r : ResourceLimits) : Prop where
  cpuShares : Optional IsInteger r.cpuShares
  cpuQuota : Optional IsInteger r.cpuQuota
  cpuPeriod : Optional IsInteger r.cpuPeriod
  cpusetCpus : r.cpusetCpus.IsText
  cpusetMems : r.cpusetMems.IsText
  memory : Optional IsInteger r.memory
  memoryReservation : Optional IsInteger r.memoryReservation
  memorySwap : Optional IsInteger r.memorySwap
  kernelMemory : Optional IsInteger r.kernelMemory
  memorySwappiness : Optional IsInteger r.memorySwappiness
  blkioWeight : Optional IsInteger r.blkioWeight
  pidsLimit : Optional IsInteger r.pidsLimit
  oomKillDisable : Optional IsBoolean r.oomKillDisable
  oomScoreAdj : Optional IsInteger r.oomScoreAdj

structure NamespaceModes.Declared (m : NamespaceModes) : Prop where
  network : m.network.IsText
  pid : m.pid.IsText
  ipc : m.ipc.IsText
  uts : m.uts.IsText
  userns : m.userns.IsText
  cgroupns : m.cgroupns.IsText

structure Snapshot.Declared (s : Snapshot) : Prop where
  id : s.id.IsText
  hostname : s.hostname.IsText
  user : s.user.IsText
  entrypoint : ∀ v ∈ s.entrypoint, v.IsText
  cmd : ∀ v ∈ s.cmd, v.IsText
  path : s.path.IsText
  args : ∀ v ∈ s.args, v.IsText
  env : ∀ v ∈ s.env, v.IsText
  workingDir : s.workingDir.IsText
  pid : s.pid.IsInteger
  rootfs : s.rootfs.IsText
  mounts : ∀ m ∈ s.mounts, m.Declared
  capAdd : ∀ v ∈ s.capAdd, v.IsText
  capDrop : ∀ v ∈ s.capDrop, v.IsText
  securityOpt : ∀ v ∈ s.securityOpt, v.IsText
  groupAdd : ∀ v ∈ s.groupAdd, v.IsText
  namespaces : s.namespaces.Declared
  resources : s.resources.Declared
  devices : ∀ d ∈ s.devices, d.Declared
  deviceCgroupRules : ∀ v ∈ s.deviceCgroupRules, v.IsText
  ulimits : ∀ u ∈ s.ulimits, u.Declared
  sysctlKeys : (s.sysctls.map Prod.fst).Nodup
  sysctlValues : ∀ m ∈ s.sysctls, m.2.IsText
  maskedPaths : ∀ v ∈ s.maskedPaths, v.IsText
  readonlyPaths : ∀ v ∈ s.readonlyPaths, v.IsText
  resolvConfPath : s.resolvConfPath.IsText
  hostnamePath : s.hostnamePath.IsText
  hostsPath : s.hostsPath.IsText

structure DaemonInfo.Declared (info : DaemonInfo) : Prop where
  executionDriver : info.executionDriver.IsText
  osType : info.osType.IsText
  architecture : info.architecture.IsText
  securityOptions : ∀ v ∈ info.securityOptions, v.IsText
  defaultCapabilities : ∀ v ∈ info.defaultCapabilities, v.IsText

theorem NamespaceModes.declared_default : ({} : NamespaceModes).Declared :=
  ⟨⟨_, rfl⟩, ⟨_, rfl⟩, ⟨_, rfl⟩, ⟨_, rfl⟩, ⟨_, rfl⟩, ⟨_, rfl⟩⟩

theorem ResourceLimits.declared_default : ({} : ResourceLimits).Declared :=
  ⟨.inl rfl, .inl rfl, .inl rfl, ⟨_, rfl⟩, ⟨_, rfl⟩, .inl rfl, .inl rfl, .inl rfl, .inl rfl,
    .inl rfl, .inl rfl, .inl rfl, .inl rfl, .inl rfl⟩

theorem Snapshot.declared_bare (id : String) : ({ id := .str id } : Snapshot).Declared where
  id := isText_str _
  hostname := isText_str _
  user := isText_str _
  entrypoint := by simp
  cmd := by simp
  path := isText_str _
  args := by simp
  env := by simp
  workingDir := isText_str _
  pid := isInteger_int _
  rootfs := isText_str _
  mounts := by simp
  capAdd := by simp
  capDrop := by simp
  securityOpt := by simp
  groupAdd := by simp
  namespaces := NamespaceModes.declared_default
  resources := ResourceLimits.declared_default
  devices := by simp
  deviceCgroupRules := by simp
  ulimits := by simp
  sysctlKeys := by simp
  sysctlValues := by simp
  maskedPaths := by simp
  readonlyPaths := by simp
  resolvConfPath := isText_str _
  hostnamePath := isText_str _
  hostsPath := isText_str _

theorem DaemonInfo.declared_default : ({} : DaemonInfo).Declared where
  executionDriver := isText_str _
  osType := isText_str _
  architecture := isText_str _
  securityOptions := by simp
  defaultCapabilities := List.forall_mem_map.mpr (fun name _ => isText_str name)

theorem DaemonInfo.Declared.usernsRemap {info : DaemonInfo} (h : info.Declared) :
    ∃ remaps, info.usernsRemap = .ok remaps := by
  obtain ⟨options, hoptions⟩ := exists_texts h.securityOptions
  rw [DaemonInfo.usernsRemap, hoptions]
  clear hoptions
  induction options with
  | nil => exact ⟨false, rfl⟩
  | cons option rest ih =>
    obtain ⟨remaps, hrest⟩ := ih
    rw [List.map_cons, anyRemaps]
    by_cases hnamed : (str option).isText "userns"
    · exact ⟨true, by rw [if_pos hnamed]; rfl⟩
    · have hmentions : (str option).mentions "name=userns" =
          .ok (Text.occursIn "name=userns".toList option.toList) := rfl
      rw [if_neg hnamed, hmentions, ok_bind]
      cases Text.occursIn "name=userns".toList option.toList with
      | true => exact ⟨true, rfl⟩
      | false => exact ⟨remaps, hrest⟩

end ContainerBundle
