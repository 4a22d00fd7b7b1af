import Mathlib
import ContainerBundle.Proofs.Conversion.DeviceNodes
/-!
# Nodes and rules of a container's devices

The devices of a container without privilege are described one by one, until the host cannot
describe one. When all are described, each mapping has a node and, at the same place, the rule
that lets the container use it; the container's own rules follow.
-/
namespace ContainerBundle.Conversion

open Descriptor Json

variable {stat : Examiner} {s : Snapshot} {mappings front back : List DeviceMapping}
variable {m : DeviceMapping} {cause : ConversionFault}

private def allowed (kind : String) (major minor : Option Int) (access : String) : DeviceRule :=
  { allow := true, kind := some kind, major, minor, access := .str access }

/-- Nothing is allowed but making any node and the use of the usual character devices. -/
def standingRules : List DeviceRule :=
  [{ allow := false, kind := none, major := none, minor := none, access := .str "rwm" },
   allowed "c" none none "m", allowed "b" none none "m",
   allowed "c" (some 1) (some 3) "rwm", allowed "c" (some 1) (some 8) "rwm",
   allowed "c" (some 1) (some 7) "rwm", allowed "c" (some 5) (some 0) "rwm",
   allowed "c" (some 1) (some 5) "rwm", allowed "c" (some 1) (some 9) "rwm",
   allowed "c" (some 136) none "rwm", allowed "c" (some 5) (some 2) "rwm",
   allowed "c" (some 10) (some 200) "rwm"]

private theorem standingRules_eq : standingRules = denyAll :: defaultDevices := rfl

/-- The nodes of a row of mappings and the rules for them, place by place. -/
inductive Aligned (stat : Examiner) :
    List DeviceMapping → List Device → List DeviceRule → Prop
  | nil : Aligned stat [] [] []
  | cons {m : DeviceMapping} {node : Device} {rest nodes rules} (hnode : Described stat m node)
      (hrest : Aligned stat rest nodes rules) :
      Aligned stat (m :: rest) (node :: nodes)
        ({ allow := true, kind := some node.kind, major := some node.major
           minor := some node.minor, access := m.permissions } :: rules)

private theorem aligned_zipWith {nodes : List Device}
    (h : List.Forall₂ (Described stat) mappings nodes) :
    Aligned stat mappings nodes (List.zipWith mappingRule nodes mappings) := by
  induction h with
  | nil => exact .nil
  | cons hnode _ ih => exact .cons hnode ih

/-- The host describes the devices of a row of mappings, or there is a first that it cannot. -/
private theorem described_or_stopped (hstat : stat.Declared)
    (hmappings : ∀ m ∈ mappings, m.Declared) :
    (∀ m ∈ mappings, ∃ node, Described stat m node) ∨
      ∃ front m back cause, mappings = front ++ m :: back ∧
        (∀ m ∈ front, ∃ node, Described stat m node) ∧ Indescribable stat m cause := by
  induction mappings with
  | nil => exact .inl (List.forall_mem_nil _)
  | cons m rest ih =>
    obtain ⟨hm, hrest⟩ := List.forall_mem_cons.mp hmappings
    rcases described_or_indescribable hm hstat with hnode | ⟨cause, hcause⟩
    · rcases ih hrest with hall | ⟨front, bad, back, cause, rfl, hfront, hcause⟩
      · exact .inl (List.forall_mem_cons.mpr ⟨hnode, hall⟩)
      · exact .inr ⟨m :: front, bad, back, cause, rfl,
          List.forall_mem_cons.mpr ⟨hnode, hfront⟩, hcause⟩
    · exact .inr ⟨[], m, rest, cause, rfl, List.forall_mem_nil _, hcause⟩

private theorem nodes_of_stopped (hfront : ∀ m ∈ front, ∃ node, Described stat m node)
    (hcause : Indescribable stat m cause) (back : List DeviceMapping) :
    Traced.forEach (deviceNode stat) (front ++ m :: back) =
      ⟨(front ++ [m]).map (.examined ·.pathOnHost), .error (.conversion cause)⟩ := by
  obtain ⟨nodes, -, hrow⟩ := nodes_of_described hfront
  rw [List.map_append]
  exact Traced.forEach_stopped hrow (deviceNode_of_indescribable hcause) back

private theorem devices_of_stopped (hown : ¬ s.privileged)
    (hdevices : s.devices = front ++ m :: back)
    (hfront : ∀ m ∈ front, ∃ node, Described stat m node)
    (hcause : Indescribable stat m cause) :
    devices stat s =
      ⟨(front ++ [m]).map (.examined ·.pathOnHost), .error (.conversion cause)⟩ := by
  rw [devices, if_neg hown, hdevices, nodes_of_stopped hfront hcause]
  rfl

private theorem devices_of_aligned (hs : s.Declared) (hown : ¬ s.privileged)
    (hnodes : ∀ m ∈ s.devices, ∃ node, Described stat m node)
    (hshort : ∀ raw ∈ s.ownRules, ¬ Overlong raw) :
    ∃ nodes rules declared passed, Aligned stat s.devices nodes rules ∧
      Ledger s.ownRules declared passed ∧ devices stat s =
        ⟨s.devices.map (.examined ·.pathOnHost) ++ passed.map .ruleMalformed,
          .ok (nodes, standingRules ++ rules ++ declared)⟩ := by
  have hdevices : s.ownDevices = s.devices := if_neg hown
  obtain ⟨nodes, rules, passed, hlist, hrun⟩ :=
    devices_of_described hs (hdevices.symm ▸ hnodes) hshort
  rw [hdevices] at hrun
  cases hlist with
  | privileged hprivileged => exact absurd hprivileged hown
  | own _ hdescribed hledger =>
    refine ⟨nodes, _, _, passed, aligned_zipWith hdescribed, hledger, ?_⟩
    rw [hrun, standingRules_eq]
    rfl

/-- The devices are given exactly when the host describes every one of them: a node for each
mapping, and behind the usual rules one for each mapping and each entry that writes one. Otherwise
the first mapping that cannot be described ends the conversion and is the last examined. -/
theorem devices_in_order (hs : s.Declared) (hstat : stat.Declared) (hown : ¬ s.privileged)
    (hshort : ∀ raw ∈ s.ownRules, ¬ Overlong raw) :
    ((∃ list, (devices stat s).outcome = .ok list) ↔
      ∀ m ∈ s.devices, ∃ node, Described stat m node) ∧
    ((∀ m ∈ s.devices, ∃ node, Described stat m node) →
      ∃ nodes rules declared passed, Aligned stat s.devices nodes rules ∧
        Ledger s.ownRules declared passed ∧
        (devices stat s).outcome =
          .ok (nodes, standingRules ++ rules ++ declared) ∧
        (devices stat s).events =
          s.devices.map (.examined ·.pathOnHost) ++ passed.map .ruleMalformed ∧
        warnings (devices stat s).events = passed.map malformedRemark) ∧
    ((¬ ∀ m ∈ s.devices, ∃ node, Described stat m node) →
      ∃ front m back cause, s.devices = front ++ m :: back ∧
        (∀ m ∈ front, ∃ node, Described stat m node) ∧ Indescribable stat m cause ∧
        (devices stat s).outcome = .error (.conversion cause) ∧
        (devices stat s).events = (front ++ [m]).map (.examined ·.pathOnHost)) := by
  have hdescribed (hnodes : ∀ m ∈ s.devices, ∃ node, Described stat m node) :=
    devices_of_aligned hs hown hnodes hshort
  have hstopped (hnot : ¬ ∀ m ∈ s.devices, ∃ node, Described stat m node) :
      ∃ front m back cause, s.devices = front ++ m :: back ∧
        (∀ m ∈ front, ∃ node, Described stat m node) ∧ Indescribable stat m cause :=
    (described_or_stopped hstat hs.devices).resolve_left hnot
  refine ⟨⟨fun hok => ?_, fun hnodes => ?_⟩, fun hnodes => ?_, fun hnot => ?_⟩
  · by_contra hnot
    obtain ⟨front, m, back, cause, hdevices, hfront, hcause⟩ := hstopped hnot
    obtain ⟨list, hlist⟩ := hok
    rw [devices_of_stopped hown hdevices hfront hcause] at hlist
    cases hlist
  · obtain ⟨_, _, _, _, -, -, hrun⟩ := hdescribed hnodes
    exact ⟨_, congrArg Traced.outcome hrun⟩
  · obtain ⟨nodes, rules, declared, passed, haligned, hledger, hrun⟩ := hdescribed hnodes
    rw [hrun]
    refine ⟨nodes, rules, declared, passed, haligned, hledger, rfl, rfl, ?_⟩
    rw [warnings_append, warnings_examined, warnings_malformed, remarks_malformed, List.nil_append]
  · obtain ⟨front, m, back, cause, hdevices, hfront, hcause⟩ := hstopped hnot
    rw [devices_of_stopped hown hdevices hfront hcause]
    exact ⟨front, m, back, cause, hdevices, hfront, hcause, rfl, rfl⟩

theorem devices_in_order_of_two :
    let stat : Examiner := fun path =>
      if path.isText "/dev/fuse" then .ok ⟨.int 0x21B6, .int 0xAE5, .int 0, .int 0⟩
      else if path.isText "/dev/sda" then .ok ⟨.int 0x61B0, .int 0x800, .int 0, .int 6⟩
      else .error (.system .missing)
    let s : Snapshot :=
      { id := .str "web"
        devices := [{ pathOnHost := .str "/dev/fuse", pathInContainer := .str "/dev/fuse" },
          { pathOnHost := .str "/dev/sda", pathInContainer := .str "/dev/xvda"
            permissions := .str "r" }]
        deviceCgroupRules := [.str "oops", .str " b 8:* rw", .str "c 1:3"] }
    (∃ nodes rules declared, Aligned stat s.devices nodes rules ∧
      Ledger s.ownRules declared ["oops", "c 1:3"] ∧
      (devices stat s).outcome =
        .ok (nodes, standingRules ++ rules ++ declared) ∧
      nodes.map (fun node => (node.kind, node.major, node.minor)) =
        [("c", 10, 229), ("b", 8, 0)]) ∧
    warnings (devices stat s).events = [malformedRemark "oops", malformedRemark "c 1:3"] := by
  intro stat s
  have hs : s.Declared :=
    { Snapshot.declared_bare "web" with
      devices := by
        simp only [s, List.forall_mem_cons]
        exact ⟨⟨isText_str _, isText_str _, isText_str _⟩,
          ⟨isText_str _, isText_str _, isText_str _⟩, List.forall_mem_nil _⟩
      deviceCgroupRules := by simp [s, isText_str] }
  have hstat : stat.Declared := by
    intro path
    by_cases hfuse : path = "/dev/fuse"
    · subst hfuse
      exact .inl ⟨_, rfl, ⟨_, rfl, by decide⟩, ⟨_, rfl, by decide⟩, isInteger_int _,
        isInteger_int _⟩
    by_cases hsda : path = "/dev/sda"
    · subst hsda
      exact .inl ⟨_, rfl, ⟨_, rfl, by decide⟩, ⟨_, rfl, by decide⟩, isInteger_int _,
        isInteger_int _⟩
    · have hnone : stat (.str path) = .error (.system .missing) := by
        simp [stat, isText, hfuse, hsda]
      exact .inr ⟨_, hnone⟩
  have hnodes : ∀ m ∈ s.devices, ∃ node, Described stat m node := by
    simp only [s, List.forall_mem_cons]
    exact ⟨⟨_, .device rfl rfl (by decide) (by decide) rfl⟩,
      ⟨_, .device rfl rfl (by decide) (by decide) rfl⟩, List.forall_mem_nil _⟩
  have hshort : ∀ raw ∈ s.ownRules, ¬ Overlong raw := by
    have hlength : ∀ raw ∈ s.ownRules, raw.toList.length ≤ Text.digitLimit := by decide
    exact fun raw hraw => not_overlong_of_length (hlength raw hraw)
  obtain ⟨-, hgiven, -⟩ := devices_in_order hs hstat (by decide) hshort
  obtain ⟨nodes, rules, declared, passed, haligned, hledger, hlist, hevents, hwarnings⟩ :=
    hgiven hnodes
  have hremarks : (devices stat s).events = [.examined (.str "/dev/fuse"),
      .examined (.str "/dev/sda"), .ruleMalformed "oops", .ruleMalformed "c 1:3"] := by cbv
  have hnumbers : (fun list => list.1.map fun node => (node.kind, node.major, node.minor)) <$>
      (devices stat s).outcome = .ok [("c", 10, 229), ("b", 8, 0)] := by cbv
  have hpassed : passed = ["oops", "c 1:3"] := by
    have hmalformed : passed.map Event.ruleMalformed = ["oops", "c 1:3"].map .ruleMalformed :=
      List.append_cancel_left (hevents.symm.trans hremarks)
    exact List.map_injective_iff.mpr (fun _ _ => Event.ruleMalformed.inj) hmalformed
  subst hpassed
  rw [hlist] at hnumbers
  exact ⟨⟨nodes, rules, declared, haligned, hledger, hlist, Except.ok.inj hnumbers⟩, hwarnings⟩

end ContainerBundle.Conversion
