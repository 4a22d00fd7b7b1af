import ContainerBundle.Proofs.Conversion.DeviceRules
import ContainerBundle.Proofs.Daemon.Declared
import Mathlib.Data.List.Forall2
/-!
# Device nodes of the host

The host either describes the device that a mapping names or cannot describe it: its path cannot
be examined, or what stands there is no device. The devices of a container follow from what the
host says of each mapping and from the ledger of its rules.
-/
namespace ContainerBundle

open Json

structure FileStatus.Declared (status : FileStatus) : Prop where
  mode : ∃ bits : Nat, status.mode = .int bits ∧ bits ≤ 0xFFFFFFFF
  device : ∃ bits : Nat, status.device = .int bits ∧ bits ≤ 0xFFFFFFFFFFFFFFFF
  uid : status.uid.IsInteger
  gid : status.gid.IsInteger

/-- Every path that is a text has a status or fails with an error of the system. -/
def Examiner.Declared (stat : Examiner) : Prop :=
  ∀ path, (∃ status, stat (.str path) = .ok status ∧ status.Declared) ∨
    ∃ cause, stat (.str path) = .error (.system cause)

theorem FileMode.ofJson_int {bits : Nat} (h : bits ≤ 0xFFFFFFFF) :
    FileMode.ofJson (.int bits) = .ok ⟨bits⟩ := by
  have hlow : ¬ (bits : Int) < 0 := by omega
  have hword : ¬ 0xFFFFFFFFFFFFFFFF < (bits : Int) := by omega
  have hhigh : ¬ 0xFFFFFFFF < (bits : Int) := by omega
  simp only [FileMode.ofJson, Json.integer?, if_neg hlow, if_neg hword, if_neg hhigh,
    Int.toNat_natCast]

theorem DeviceNumber.ofJson_int {bits : Nat} (h : bits ≤ 0xFFFFFFFFFFFFFFFF) :
    DeviceNumber.ofJson (.int bits) = .ok ⟨bits⟩ := by
  have hlow : ¬ (bits : Int) < 0 := by omega
  have hhigh : ¬ 0xFFFFFFFFFFFFFFFF < (bits : Int) := by omega
  simp only [DeviceNumber.ofJson, Json.integer?, if_neg hlow, if_neg hhigh, Int.toNat_natCast]

namespace Snapshot

def ownDevices (s : Snapshot) : List DeviceMapping := if s.privileged then [] else s.devices

def ownRules (s : Snapshot) : List String :=
  if s.privileged then [] else s.deviceCgroupRules.filterMap fun
    | .str raw => some raw
    | _ => none

theorem Declared.ownDevices {s : Snapshot} (hs : s.Declared) : ∀ m ∈ s.ownDevices, m.Declared := by
  rw [Snapshot.ownDevices]
  split
  · simp
  · exact hs.devices

private theorem Declared.rules_eq {s : Snapshot} (hs : s.Declared) (hown : ¬ s.privileged) :
    s.deviceCgroupRules = s.ownRules.map .str := by
  obtain ⟨entries, hentries⟩ := exists_texts hs.deviceCgroupRules
  rw [ownRules, if_neg hown, hentries, List.filterMap_map]
  exact congrArg (List.map str) List.filterMap_some.symm

end Snapshot

namespace Conversion

open Descriptor

variable {stat : Examiner} {m : DeviceMapping}

/-- The node that the host's status of a mapping's path makes. -/
inductive Described (stat : Examiner) (m : DeviceMapping) : Device → Prop
  | device {path : String} {mode number : Nat} {uid gid : Json} {kind : DeviceKind}
      (hpath : m.pathOnHost = .str path)
      (hstat : stat (.str path) = .ok ⟨.int mode, .int number, uid, gid⟩)
      (hmode : mode ≤ 0xFFFFFFFF) (hnumber : number ≤ 0xFFFFFFFFFFFFFFFF)
      (hkind : FileMode.deviceKind? ⟨mode⟩ = some kind) :
      Described stat m
        { path := m.pathInContainer, kind := kind.label
          major := DeviceNumber.major ⟨number⟩, minor := DeviceNumber.minor ⟨number⟩
          fileMode := some (FileMode.permissions ⟨mode⟩), uid, gid }

/-- Why the host cannot describe the device of a mapping. -/
inductive Indescribable (stat : Examiner) (m : DeviceMapping) : ConversionFault → Prop
  | unreachable {path : String} {cause : OsError} (hpath : m.pathOnHost = .str path)
      (hstat : stat (.str path) = .error (.system cause)) :
      Indescribable stat m (.deviceUnreachable (.str path) cause)
  | notDevice {path : String} {status : FileStatus} {mode : Nat}
      (hpath : m.pathOnHost = .str path) (hstat : stat (.str path) = .ok status)
      (hmode : status.mode = .int mode) (hbound : mode ≤ 0xFFFFFFFF)
      (hkind : FileMode.deviceKind? ⟨mode⟩ = none) :
      Indescribable stat m (.notDevice (.str path))

private theorem message_unreachable (path : String) (cause : OsError) :
    (ConversionFault.deviceUnreachable (.str path) cause).message = "stat of device " ++ path ++
      " failed: " ++ cause.message ++ ": " ++ (Json.str path).display := rfl

private theorem message_notDevice (path : String) :
    (ConversionFault.notDevice (.str path)).message = path ++ " is not a device node" := rfl

theorem Indescribable.names {cause : ConversionFault} (h : Indescribable stat m cause) :
    ∃ path, m.pathOnHost = .str path ∧ ∃ front back, cause.message = front ++ path ++ back := by
  cases h with
  | @unreachable path cause hpath =>
    refine ⟨path, hpath, "stat of device ",
      " failed: " ++ cause.message ++ ": " ++ (Json.str path).display, ?_⟩
    rw [message_unreachable]
    simp only [String.append_assoc]
  | @notDevice path _ _ hpath =>
    refine ⟨path, hpath, "", " is not a device node", ?_⟩
    rw [message_notDevice, String.empty_append]

private theorem examine_eq (stat : Examiner) (path : Json) : examine stat path =
    ⟨[.examined path], match stat path with
      | .error (.system cause) => .error (.conversion (.deviceUnreachable path cause))
      | answer => answer⟩ := by
  cases hstat : stat path with
  | ok status => simp [examine, hstat, bind, Traced.andThen, Traced.emit, Traced.ofExcept]
  | error fault =>
    cases fault <;> simp [examine, hstat, bind, Traced.andThen, Traced.emit, Traced.ofExcept,
      Traced.fail]

private theorem deviceNode_of_described {node : Device} (h : Described stat m node) :
    deviceNode stat m = ⟨[.examined m.pathOnHost], .ok node⟩ := by
  cases h with
  | device hpath hstat hmode hnumber hkind =>
    rw [deviceNode, hpath, examine_eq, hstat]
    simp only [Traced.mk_ok_bind, FileMode.ofJson_int hmode, DeviceNumber.ofJson_int hnumber,
      hkind, Traced.liftM_eq_ofExcept, Traced.ofExcept_ok, pure_bind, Traced.pure_events,
      Traced.pure_outcome, List.append_nil]

theorem deviceNode_of_indescribable {cause : ConversionFault} (h : Indescribable stat m cause) :
    deviceNode stat m = ⟨[.examined m.pathOnHost], .error (.conversion cause)⟩ := by
  cases h with
  | unreachable hpath hstat =>
    rw [deviceNode, hpath, examine_eq, hstat]
    rfl
  | notDevice hpath hstat hmode hbound hkind =>
    rw [deviceNode, hpath, examine_eq, hstat]
    simp only [Traced.mk_ok_bind, hmode, FileMode.ofJson_int hbound, hkind,
      Traced.liftM_eq_ofExcept, Traced.ofExcept_ok, pure_bind, Traced.fail_events,
      Traced.fail_outcome, List.append_nil]

theorem described_or_indescribable (hm : m.Declared) (hstat : stat.Declared) :
    (∃ node, Described stat m node) ∨ ∃ cause, Indescribable stat m cause := by
  obtain ⟨path, hpath⟩ := hm.pathOnHost
  rcases hstat path with ⟨⟨mode, device, uid, gid⟩, hanswer, hstatus⟩ | ⟨cause, hanswer⟩
  · obtain ⟨bits, rfl, hbits⟩ := hstatus.mode
    obtain ⟨number, rfl, hnumber⟩ := hstatus.device
    cases hkind : FileMode.deviceKind? ⟨bits⟩ with
    | none => exact .inr ⟨_, .notDevice hpath hanswer rfl hbits hkind⟩
    | some kind => exact .inl ⟨_, .device hpath hanswer hbits hnumber hkind⟩
  · exact .inr ⟨_, .unreachable hpath hanswer⟩

variable {mappings : List DeviceMapping}

theorem nodes_of_described (h : ∀ m ∈ mappings, ∃ node, Described stat m node) :
    ∃ nodes, List.Forall₂ (Described stat) mappings nodes ∧
      Traced.forEach (deviceNode stat) mappings =
        ⟨mappings.map (.examined ·.pathOnHost), .ok nodes⟩ := by
  induction mappings with
  | nil => exact ⟨[], .nil, rfl⟩
  | cons m rest ih =>
    obtain ⟨⟨node, hnode⟩, hrest⟩ := List.forall_mem_cons.mp h
    obtain ⟨nodes, hnodes, hrow⟩ := ih hrest
    refine ⟨node :: nodes, .cons hnode hnodes, ?_⟩
    rw [Traced.forEach, deviceNode_of_described hnode, hrow, Traced.mk_ok_bind, Traced.mk_ok_bind,
      Traced.pure_events, Traced.pure_outcome, List.append_nil]
    rfl

private theorem nodes_of_indescribable (hstat : stat.Declared)
    (hmappings : ∀ m ∈ mappings, m.Declared)
    (h : ∃ m ∈ mappings, ∃ cause, Indescribable stat m cause) :
    ∃ m ∈ mappings, ∃ cause, Indescribable stat m cause ∧
      (Traced.forEach (deviceNode stat) mappings).outcome = .error (.conversion cause) := by
  have hfails : ∃ m ∈ mappings, ∃ fault, (deviceNode stat m).outcome = .error fault := by
    obtain ⟨m, hm, cause, hcause⟩ := h
    exact ⟨m, hm, _, by rw [deviceNode_of_indescribable hcause]⟩
  obtain ⟨m, hm, fault, hfault, hrow⟩ := Traced.forEach_error hfails
  rcases described_or_indescribable (hmappings m hm) hstat with ⟨node, hnode⟩ | ⟨cause, hcause⟩
  · rw [deviceNode_of_described hnode] at hfault
    cases hfault
  · rw [deviceNode_of_indescribable hcause, Except.error.injEq] at hfault
    exact ⟨m, hm, cause, hcause, by rw [hrow, hfault]⟩

variable {s : Snapshot}

/-- Nodes and rules, as the host describes the devices and as the container's rules are written. -/
inductive DeviceList (stat : Examiner) (s : Snapshot) : List Device → List DeviceRule →
    List String → Prop
  | privileged (h : s.privileged) : DeviceList stat s [] [allowAll] []
  | own {nodes rules passed} (h : ¬ s.privileged)
      (hnodes : List.Forall₂ (Described stat) s.devices nodes)
      (hrules : Ledger s.ownRules rules passed) :
      DeviceList stat s nodes
        (denyAll :: (defaultDevices ++ List.zipWith mappingRule nodes s.devices ++ rules)) passed

theorem DeviceList.ledger {nodes : List Device} {rules : List DeviceRule} {passed : List String}
    (h : DeviceList stat s nodes rules passed) (hown : ¬ s.privileged) :
    ∃ own, Ledger s.ownRules own passed := by
  cases h with
  | privileged hprivileged => exact absurd hprivileged hown
  | own _ _ hrules => exact ⟨_, hrules⟩

/-- Described devices are given, with a remark for each entry that is passed over. -/
theorem devices_of_described (hs : s.Declared)
    (hnodes : ∀ m ∈ s.ownDevices, ∃ node, Described stat m node)
    (hrules : ∀ raw ∈ s.ownRules, ¬ Overlong raw) :
    ∃ nodes rules passed, DeviceList stat s nodes rules passed ∧ devices stat s =
      ⟨s.ownDevices.map (.examined ·.pathOnHost) ++ passed.map .ruleMalformed,
        .ok (nodes, rules)⟩ := by
  by_cases hprivileged : s.privileged
  · refine ⟨[], [allowAll], [], .privileged hprivileged, ?_⟩
    rw [devices, if_pos hprivileged, Snapshot.ownDevices, if_pos hprivileged]
    rfl
  · have hown : s.ownDevices = s.devices := if_neg hprivileged
    rw [hown] at hnodes
    obtain ⟨nodes, hdescribed, hrow⟩ := nodes_of_described hnodes
    obtain ⟨rules, passed, hledger, found, hfound, hentries⟩ := exists_ledger hrules
    refine ⟨nodes, _, passed, .own hprivileged hdescribed hledger, ?_⟩
    rw [devices, if_neg hprivileged, hs.rules_eq hprivileged, hrow, hentries, hown,
      Traced.mk_ok_bind, Traced.mk_ok_bind, hfound, Traced.pure_events, Traced.pure_outcome,
      List.append_nil]

def malformedRemark (raw : String) : Remark :=
  ⟨.warning, "ocigen.cgroups", "Ignoring malformed device cgroup rule " ++ Text.quoted raw⟩

theorem remarks_malformed (passed : List String) :
    remarks (passed.map .ruleMalformed) = passed.map malformedRemark := by
  rw [remarks, List.filterMap_map, ← List.filterMap_eq_map]
  rfl

theorem warnings_malformed (passed : List String) :
    warnings (passed.map .ruleMalformed) = remarks (passed.map .ruleMalformed) := by
  apply warnings_eq_remarks
  intro event hevent r hr
  obtain ⟨raw, -, rfl⟩ := List.mem_map.mp hevent
  cases hr
  rfl

theorem warnings_examined (mappings : List DeviceMapping) :
    warnings (mappings.map (.examined ·.pathOnHost)) = [] := by
  simp [warnings, remarks, Event.remark?, List.filterMap_map, Function.comp_def]

theorem devices_of_indescribable (hs : s.Declared) (hstat : stat.Declared)
    (h : ∃ m ∈ s.ownDevices, ∃ cause, Indescribable stat m cause) :
    ∃ m ∈ s.ownDevices, ∃ cause, Indescribable stat m cause ∧
      (devices stat s).outcome = .error (.conversion cause) := by
  have hprivileged : ¬ s.privileged := by
    intro hprivileged
    simp [Snapshot.ownDevices, hprivileged] at h
  have hown : s.ownDevices = s.devices := if_neg hprivileged
  rw [hown] at h ⊢
  obtain ⟨m, hm, cause, hcause, hrow⟩ := nodes_of_indescribable hstat hs.devices h
  exact ⟨m, hm, cause, hcause, by
    rw [devices, if_neg hprivileged, Traced.outcome_bind, hrow, error_bind]⟩

theorem devices_of_overlong (hs : s.Declared)
    (hnodes : ∀ m ∈ s.ownDevices, ∃ node, Described stat m node)
    (h : ∃ raw ∈ s.ownRules, Overlong raw) :
    ∃ raw ∈ s.ownRules, Overlong raw ∧ ∃ digits count,
      (devices stat s).outcome = .error (.integer digits (.tooLong count)) := by
  have hprivileged : ¬ s.privileged := by
    intro hprivileged
    simp [Snapshot.ownRules, hprivileged] at h
  rw [Snapshot.ownDevices, if_neg hprivileged] at hnodes
  obtain ⟨nodes, -, hrow⟩ := nodes_of_described hnodes
  obtain ⟨raw, hraw, hlong, digits, count, hentries⟩ := declaredRules_of_overlong h
  refine ⟨raw, hraw, hlong, digits, count, ?_⟩
  rw [devices, if_neg hprivileged, hs.rules_eq hprivileged, hrow, Traced.outcome_bind, ok_bind,
    Traced.outcome_bind, hentries, error_bind]

end Conversion

end ContainerBundle
