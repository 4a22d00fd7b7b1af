import Mathlib
import ContainerBundle.Proofs.Capability.Privileged
import ContainerBundle.Proofs.Conversion.NullMembers
import ContainerBundle.Proofs.Events
import ContainerBundle.Proofs.Json.Nesting
/-!
# Containers with and without privilege

The privilege of a container decides about its capabilities, its devices and the paths that are
kept from it. A container that is converted without privilege is converted with it, into bundles
that differ there alone.
-/
namespace ContainerBundle

open Json Conversion Descriptor

/-- Members of a container that are the same, but for its privilege. -/
def OutsidePrivilege (key : String) (x y : Json) : Prop :=
  if key = "HostConfig" then RecordsAlike (fun key x y => key ≠ "Privileged" → x = y) x y
  else x = y

/-- Whether a container is to be privileged. Any value but a void one says so. -/
def asksPrivilege (v : Json) : Except Fault Bool := do
  let host ← v.member "HostConfig"
  let privileged ← host.member "Privileged"
  pure !privileged.isVoid

def Snapshot.withPrivilege (s : Snapshot) : Snapshot := { s with privileged := true }

private theorem hostMembers_alike {v w : Json} {L : Snapshot.Leeway}
    (hU : ∀ us, L.ulimits us us) (hS : ∀ pairs, L.sysctls pairs pairs)
    (h : RecordsAlike (fun key x y => key ≠ "Privileged" → x = y) v w)
    (hprivilege : ∀ x y, v.member "Privileged" = .ok x → w.member "Privileged" = .ok y →
      L.privileged (!x.isVoid) (!y.isVoid)) : RecordsAlike (HostMember L) v w := by
  cases h with
  | @obj members others h =>
    apply RecordsAlike.obj
    intro key
    by_cases hkey : key = "Privileged"
    · subst hkey
      exact hprivilege _ _ rfl rfl
    · rw [← h key hkey]
      exact .refl (fun _ => hU) (fun hprivileged => absurd hprivileged hkey) (fun _ => hS) _

private theorem ofInspect_privileged {v w : Json} (h : RecordsAlike OutsidePrivilege v w)
    (hv : asksPrivilege v = .ok false) (hw : asksPrivilege w = .ok true) :
    Agree (fun s t => s.privileged = false ∧ t = s.withPrivilege)
      (Snapshot.ofInspect v) (Snapshot.ofInspect w) := by
  have halike : RecordsAlike (ContainerMember { privileged := fun x y => x = false ∧ y = true })
      v w := by
    cases h with
    | @obj members others h =>
      apply RecordsAlike.obj
      intro key
      by_cases hkey : key = "HostConfig"
      · subst hkey
        apply Or.inl
        apply hostMembers_alike (fun _ => rfl) (fun _ => rfl) (h "HostConfig")
        intro x y hx hy
        rw [asksPrivilege, member, ok_bind, hx] at hv
        rw [asksPrivilege, member, ok_bind, hy] at hw
        exact ⟨Except.ok.inj hv, Except.ok.inj hw⟩
      · have hsame := h key
        rw [OutsidePrivilege, if_neg hkey] at hsame
        rw [← hsame]
        exact .refl (fun _ _ => rfl) (fun hhost => absurd hhost hkey) _
  apply (Snapshot.ofInspect_related halike).mono
  intro s t hst
  obtain ⟨hplain, hprivileged⟩ := hst.privileged
  have hsysctls : s.sysctls = t.sysctls := hst.sysctls
  have houtside := hst.outside
  rw [hprivileged, ← hsysctls] at houtside
  exact ⟨hplain, houtside⟩

variable {view : HostView} {stat : Examiner} {s : Snapshot} {info : DaemonInfo}
variable {hooks : HookSource} {capabilities rootfs peers : Json}

/-- The container is granted `all` and may use every device without having one. -/
def Descriptor.Runtime.privileged (r : Runtime) (all : List Json) : Runtime :=
  { r with linux := { r.linux with
      capabilities := all
      resources := { r.linux.resources with
        devices := [{ allow := true, kind := none, major := none, minor := none
                      access := .str "rwm" }] }
      devices := [], maskedPaths := [], readonlyPaths := [] } }

namespace Conversion

private theorem resources_of_rules {limits : ResourceLimits} {rules : List DeviceRule}
    {r : Resources}
    (h : resources limits rules = .ok r) (others : List DeviceRule) :
    resources limits others = .ok { r with devices := others } := by
  rw [resources] at h
  obtain ⟨memory, hmemory, h⟩ := bind_eq_ok.mp h
  obtain ⟨cpu, hcpu, h⟩ := bind_eq_ok.mp h
  obtain ⟨blockIo, hblockIo, h⟩ := bind_eq_ok.mp h
  obtain ⟨pids, hpids, h⟩ := bind_eq_ok.mp h
  cases h
  rw [resources, hmemory, hcpu, hblockIo, hpids]
  rfl

private theorem devices_of_resources {limits : ResourceLimits} {rules : List DeviceRule}
    {r : Resources}
    (h : resources limits rules = .ok r) : r.devices = rules := by
  have hsame := h.symm.trans (resources_of_rules h rules)
  exact congrArg Resources.devices (Except.ok.inj hsame)

private theorem rules_ne_nil {list : List Device × List DeviceRule} (hs : s.privileged = false)
    (h : (devices stat s).outcome = .ok list) : list.2 ≠ [] := by
  rw [devices, if_neg (Bool.eq_false_iff.mp hs)] at h
  obtain ⟨nodes, -, h⟩ := Traced.bind_eq_ok_iff.mp h
  obtain ⟨declared, -, h⟩ := Traced.bind_eq_ok_iff.mp h
  cases h
  exact List.cons_ne_nil _ _

private theorem runtime_outcome : (runtime stat s info capabilities peers).outcome = (do
    let plan ← (planNamespaces s info peers).outcome
    let list ← (devices stat s).outcome
    let granted ← capabilities.elements
    let resources ← resources s.resources list.2
    let rlimits ← rlimits s.ulimits
    let _ ← s.shortId
    let hostname ← (if (plan .uts).isSome then hostname s else .ok (.str ""))
    .ok
      { hostname
        linux :=
          { capabilities := granted, namespaces := listed plan, resources, devices := list.1
            rlimits, sysctl := sysctl? s.sysctls
            oomScoreAdj := whenGiven s.resources.oomScoreAdj
            maskedPaths := if s.privileged then [] else s.maskedPaths
            readonlyPaths := if s.privileged then [] else s.readonlyPaths } }) := by
  simp only [runtime, Traced.outcome_bind, Traced.liftM_eq_ofExcept, Traced.ofExcept_outcome,
    Traced.emit_outcome, ok_bind]
  congr 1
  funext plan
  congr 1
  funext list
  split
  · simp only [Traced.outcome_bind, Traced.ofExcept_outcome, Traced.pure_outcome]
  · rfl

theorem steps_of_runtime {r : Runtime}
    (h : (runtime stat s info capabilities peers).outcome = .ok r) :
    ∃ plan list, (planNamespaces s info peers).outcome = .ok plan ∧
      (devices stat s).outcome = .ok list ∧
      r.linux.namespaces = listed plan ∧ r.linux.devices = list.1 ∧
      resources s.resources list.2 = .ok r.linux.resources ∧
      (if (plan .uts).isSome then hostname s else .ok (.str "")) = .ok r.hostname := by
  rw [runtime_outcome] at h
  obtain ⟨plan, hplan, h⟩ := bind_eq_ok.mp h
  obtain ⟨list, hlist, h⟩ := bind_eq_ok.mp h
  obtain ⟨granted, -, h⟩ := bind_eq_ok.mp h
  obtain ⟨own, hown, h⟩ := bind_eq_ok.mp h
  obtain ⟨limits, -, h⟩ := bind_eq_ok.mp h
  obtain ⟨shortId, -, h⟩ := bind_eq_ok.mp h
  obtain ⟨name, hname, h⟩ := bind_eq_ok.mp h
  cases h
  exact ⟨plan, list, hplan, hlist, rfl, rfl, hown, hname⟩

private theorem runtime_privileged {granted : List Json} {r : Runtime} (all : List Json)
    (hs : s.privileged = false)
    (h : (runtime stat s info (.arr granted) peers).outcome = .ok r) :
    (runtime stat s.withPrivilege info (.arr all) peers).outcome =
      .ok (r.privileged all) ∧ r.linux.capabilities = granted ∧ r.linux.resources.devices ≠ [] := by
  rw [runtime_outcome] at h
  obtain ⟨plan, hplan, h⟩ := bind_eq_ok.mp h
  obtain ⟨list, hlist, h⟩ := bind_eq_ok.mp h
  obtain ⟨capabilities, hgranted, h⟩ := bind_eq_ok.mp h
  obtain ⟨resources, hresources, h⟩ := bind_eq_ok.mp h
  obtain ⟨limits, hlimits, h⟩ := bind_eq_ok.mp h
  obtain ⟨shortId, hid, h⟩ := bind_eq_ok.mp h
  obtain ⟨name, hname, h⟩ := bind_eq_ok.mp h
  cases h
  cases hgranted
  refine ⟨?_, rfl, ?_⟩
  · have hplan' : (planNamespaces s.withPrivilege info peers).outcome = .ok plan := hplan
    have hlist' : (devices stat s.withPrivilege).outcome = .ok ([], [allowAll]) := rfl
    have hresources' := resources_of_rules hresources [allowAll]
    have hlimits' : rlimits s.withPrivilege.ulimits = .ok limits := hlimits
    have hid' : s.withPrivilege.shortId = .ok shortId := hid
    have hname' : (if (plan .uts).isSome then hostname s.withPrivilege else .ok (.str "")) =
      .ok name := hname
    rw [runtime_outcome, hplan', ok_bind, hlist', ok_bind, elements, ok_bind,
      show s.withPrivilege.resources = s.resources from rfl, hresources', ok_bind, hlimits',
      ok_bind, hid', ok_bind, hname', ok_bind]
    rfl
  · rw [devices_of_resources hresources]
    exact rules_ne_nil hs hlist

end Conversion

structure Bundle.GivenPrivilege (bundle other : Bundle) : Prop where
  config : other.config = bundle.config
  runtime : ∃ all, other.runtime = bundle.runtime.privileged all
  granted : ∀ name, Capability.key name ∈ Capability.known →
    .str name ∈ bundle.runtime.linux.capabilities → .str name ∈ other.runtime.linux.capabilities
  rendered : ∀ limit documents, bundle.render limit = .ok documents →
    ∃ config runtime runtime',
      documents = [(Bundle.configName, config), (Bundle.runtimeName, runtime)] ∧
      other.render limit = .ok [(Bundle.configName, config), (Bundle.runtimeName, runtime')]

private theorem mergeHooks_privileged (r : Runtime) (compiled : Hooks) (all : List Json) :
    mergeHooks (r.privileged all) compiled = (mergeHooks r compiled).privileged all := rfl

/-- A single rule for every device makes no more levels than any list of rules. -/
private theorem levels_of_rules (r : Resources) (h : r.devices ≠ []) (access : String) :
    2 ≤ r.toJson.written ∧
      ({ r with devices := [{ allow := true, access := .str access }] } : Resources).toJson.written ≤
        r.toJson.written := by
  have hone : (Json.arr
      ([{ allow := true, access := .str access }].map DeviceRule.toJson)).written = 3 := rfl
  have hrules : 3 ≤ (Json.arr (r.devices.map DeviceRule.toJson)).written := by
    obtain ⟨rule, rest, hrest⟩ := List.exists_cons_of_ne_nil h
    have hrule : 2 ≤ rule.toJson.levels := by
      have hallow : (Json.bool rule.allow).written = 1 := rfl
      rw [DeviceRule.toJson, levels_record, DeviceRule.members, writtenOf, hallow]
      omega
    rw [written_arr, hrest, List.map_cons, levels, depth, depthOfItems]
    rw [levels] at hrule
    omega
  simp only [Resources.toJson, written_record, Resources.members, writtenOf, hone]
  omega

private theorem written_privileged (r : Runtime) (all : List String)
    (h : r.linux.resources.devices ≠ []) {n : Nat} (hn : writtenOf r.linux.members ≤ n) :
    writtenOf (r.privileged (all.map .str)).linux.members ≤ n := by
  obtain ⟨hdeep, hresources⟩ := levels_of_rules r.linux.resources h "rwm"
  have hnone : (Json.arr []).written = 1 := rfl
  have hall : (Json.arr (all.map Json.str)).written ≤ 2 := levels_texts_le all
  rw [writtenOf_le_iff, Linux.members] at hn ⊢
  simp only [List.forall_mem_cons] at hn ⊢
  obtain ⟨-, hnamespaces, hown, -, hrlimits, hsysctl, hscore, -, -, hnil⟩ := hn
  have htwo : 2 ≤ n := Nat.le_trans hdeep hown
  have hone : (Json.arr []).written ≤ n := Nat.le_of_succ_le htwo
  exact ⟨Nat.le_trans hall htwo, hnamespaces, Nat.le_trans hresources hown, hone, hrlimits,
    hsysctl, hscore, hone, hone, hnil⟩

private theorem levels_privileged (r : Runtime) (all : List String)
    (h : r.linux.resources.devices ≠ []) :
    (r.privileged (all.map .str)).toJson.levels ≤ r.toJson.levels := by
  have hlinux := written_privileged r all h (Nat.le_refl _)
  have hhostname : (r.privileged (all.map .str)).hostname = r.hostname := rfl
  have hhooks : (r.privileged (all.map .str)).hooks = r.hooks := rfl
  simp only [Runtime.toJson, levels_record, Runtime.members, writtenOf, Linux.toJson,
    written_record, hhostname, hhooks]
  omega

private theorem generate_privileged {bundle : Bundle} (hs : s.privileged = false)
    (h : (generate view s info hooks rootfs peers).outcome = .ok bundle) :
    ∃ other,
      (generate view s.withPrivilege info hooks rootfs peers).outcome = .ok other ∧
      bundle.GivenPrivilege other := by
  rw [generate] at h
  obtain ⟨compiled, hcompiled, h⟩ := Traced.bind_eq_ok_iff.mp h
  obtain ⟨granted, hgranted, h⟩ := Traced.bind_eq_ok_iff.mp h
  obtain ⟨config, hconfig, h⟩ := Traced.bind_eq_ok_iff.mp h
  obtain ⟨runtime, hruntime, h⟩ := Traced.bind_eq_ok_iff.mp h
  cases h
  rw [hs] at hgranted
  obtain ⟨all, hall, hknown⟩ := Capability.grantFrom_privileged hgranted
  have hconfig' : (Conversion.config view.files s.withPrivilege info rootfs).outcome =
      .ok config := hconfig
  obtain ⟨hruntime', hcapabilities, hrules⟩ := runtime_privileged (all.map .str) hs hruntime
  refine ⟨⟨config, mergeHooks (runtime.privileged (all.map .str)) compiled⟩, ?_, ?_⟩
  · have hall' : Capability.grantFrom (.arr info.defaultCapabilities) s.withPrivilege.capAdd
        s.withPrivilege.capDrop s.withPrivilege.privileged = .ok all := hall
    simp only [generate, Traced.outcome_bind, hcompiled, ok_bind, Traced.liftM_eq_ofExcept,
      Traced.ofExcept_outcome, hall', hconfig', hruntime', Traced.pure_outcome]
  · constructor
    · rfl
    · exact ⟨all.map .str, rfl⟩
    · intro name hname hin
      obtain ⟨own, hown, hsame⟩ := List.mem_map.mp (hcapabilities ▸ hin)
      cases hsame
      exact List.mem_map_of_mem (hknown name hname hown)
    · intro limit documents hdocuments
      obtain ⟨text, htext, hdocuments⟩ := bind_eq_ok.mp hdocuments
      obtain ⟨text', htext', hdocuments⟩ := bind_eq_ok.mp hdocuments
      cases hdocuments
      have hlevels := levels_privileged (mergeHooks runtime compiled) all hrules
      obtain ⟨text'', htext''⟩ := exists_document hlevels htext'
      refine ⟨text, text', text'', rfl, ?_⟩
      rw [Bundle.render, htext, ok_bind]
      simp only [Runtime.render, mergeHooks_privileged]
      rw [htext'']
      rfl

/-- A container that is converted without privilege is converted with it. No file is examined, and
the bundle differs in the capabilities, the devices and the paths that are kept from the container
alone. -/
theorem converted_with_privilege {v w : Json} {bundle : Bundle}
    (h : RecordsAlike OutsidePrivilege v w) (hv : asksPrivilege v = .ok false)
    (hw : asksPrivilege w = .ok true)
    (hbundle : (bundleOfInspect view v info hooks rootfs peers).outcome = .ok bundle) :
    ∃ other, (bundleOfInspect view w info hooks rootfs peers).outcome = .ok other ∧
      (∀ path, .examined path ∉ (bundleOfInspect view w info hooks rootfs peers).events) ∧
      bundle.GivenPrivilege other := by
  obtain ⟨s, hs, hbundle⟩ := Traced.bind_eq_ok_iff.mp hbundle
  obtain ⟨t, ht, hplain, rfl⟩ := (ofInspect_privileged h hv hw).exists_of_ok hs
  obtain ⟨other, hother, hgiven⟩ := generate_privileged hplain hbundle
  have hrun : bundleOfInspect view w info hooks rootfs peers =
      generate view s.withPrivilege info hooks rootfs peers := by
    rw [bundleOfInspect, ht, Traced.liftM_eq_ofExcept, Traced.ofExcept_ok, pure_bind]
  rw [hrun]
  exact ⟨other, hother, not_examined_of_privileged rfl, hgiven⟩

theorem converted_with_privilege_of_device :
    let status : FileStatus := ⟨.int 0x21B6, .int 0x103, .int 0, .int 0⟩
    let view : HostView := ⟨fun _ => .ok status, fun _ => none⟩
    let container (privilege : List (String × Json)) : Json :=
      .obj [("Id", .str "web"), ("Config", .obj []),
        ("HostConfig", .obj (privilege ++ [("CapDrop", .arr [.str "kill"]),
          ("Devices", .arr [.obj [("PathOnHost", .str "/dev/null")]]),
          ("MaskedPaths", .arr [.str "/proc/kcore"])])),
        ("GraphDriver", .obj [("Data", .obj [("MergedDir", .str "/r")])])]
    let run (privilege : List (String × Json)) : Traced Bundle :=
      bundleOfInspect view (container privilege) {} (.compiled {}) .null .null
    ∃ bundle other, (run []).outcome = .ok bundle ∧
      (run [("Privileged", .bool true)]).outcome = .ok other ∧
      bundle.runtime.linux.devices.length = 1 ∧
      other.runtime.linux.resources.devices = [{ allow := true, access := .str "rwm" }] ∧
      bundle.GivenPrivilege other := by
  intro status view container run
  have halike : RecordsAlike OutsidePrivilege (container [])
      (container [("Privileged", .bool true)]) := by
    constructor
    intro key
    by_cases hkey : key = "HostConfig"
    · subst hkey
      constructor
      intro key hkey
      simp [Json.find?, Ne.symm hkey]
    · have hother : ("HostConfig" == key) = false := beq_eq_false_iff_ne.mpr (Ne.symm hkey)
      rw [OutsidePrivilege, if_neg hkey]
      simp [Json.find?, List.find?_cons, hother]
  obtain ⟨bundle, hbundle⟩ : ∃ bundle, (run []).outcome = .ok bundle := ⟨_, rfl⟩
  obtain ⟨other, hother, -, hgiven⟩ := converted_with_privilege halike rfl rfl hbundle
  refine ⟨bundle, other, hbundle, hother, ?_, ?_, hgiven⟩
  · cases hbundle
    rfl
  · cases hother
    rfl

end ContainerBundle
