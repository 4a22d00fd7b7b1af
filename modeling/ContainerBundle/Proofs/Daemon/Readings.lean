import ContainerBundle.Proofs.Json.Routes
import ContainerBundle.Snapshot
/-!
# Documents that are read alike

An inspected container is read member by member, so what a snapshot holds depends on what the
members of the document and of its records are read as, not on the members themselves, and not at
all on members that are never read. Lists of entries are read through their entries. Some parts of
two snapshots may be left to differ; everything else of them is the same.
-/
namespace ContainerBundle

open Json

/-- Members of a record, those under `keys` being the same. -/
def SameAmong (keys : List String) (key : String) (x y : Json) : Prop := key ∈ keys → x = y

def rootMembers : List String :=
  ["Id", "Name", "Path", "ResolvConfPath", "HostnamePath", "HostsPath"]

def configLists : List String := ["Entrypoint", "Cmd", "Env"]

def configMembers : List String := ["Hostname", "User", "WorkingDir", "Tty"]

def hostLists : List String :=
  ["CapAdd", "CapDrop", "SecurityOpt", "GroupAdd", "DeviceCgroupRules", "MaskedPaths",
   "ReadonlyPaths"]

def hostMembers : List String :=
  ["NetworkMode", "PidMode", "IpcMode", "UTSMode", "UsernsMode", "CgroupnsMode",
   "ReadonlyRootfs", "CpuShares", "CpuQuota", "CpuPeriod", "CpusetCpus", "CpusetMems", "Memory",
   "MemoryReservation", "MemorySwap", "KernelMemory", "MemorySwappiness", "BlkioWeight",
   "PidsLimit", "OomKillDisable", "OomScoreAdj"]

def dataMembers : List String := ["MergedDir", "Dir"]

def stateMembers : List String := ["Pid"]

def infoMembers : List String := ["ExecutionDriver", "OSType", "Architecture"]

/-- The parts of a snapshot in which two may differ, and how. -/
structure Snapshot.Leeway where
  mounts : List MountRecord → List MountRecord → Prop := Eq
  ulimits : List Ulimit → List Ulimit → Prop := Eq
  privileged : Bool → Bool → Prop := Eq
  sysctls : List (String × Json) → List (String × Json) → Prop := Eq

def readPairs (x : Json) : Except Fault (List (String × Json)) := (x.orElse (.obj [])).pairs

def ConfigMember (key : String) (x y : Json) : Prop :=
  if key ∈ configLists then x.entries = y.entries else SameAmong configMembers key x y

/-- Members of the section `HostConfig` that are read alike, as far as `L` tells. -/
def HostMember (L : Snapshot.Leeway) (key : String) (x y : Json) : Prop :=
  if key ∈ hostLists then x.entries = y.entries
  else if key = "Devices" then
    readEach DeviceMapping.ofInspect x = readEach DeviceMapping.ofInspect y
  else if key = "Ulimits" then
    Agree L.ulimits (readEach Ulimit.ofInspect x) (readEach Ulimit.ofInspect y)
  else if key = "Privileged" then L.privileged (!x.isVoid) (!y.isVoid)
  else if key = "Sysctls" then Agree L.sysctls (readPairs x) (readPairs y)
  else SameAmong hostMembers key x y

def DriverMember (key : String) (x y : Json) : Prop :=
  key = "Data" → x = y ∨ RecordsAlike (SameAmong dataMembers) x y

/-- A section that is an object on both sides, or the same value that is none. -/
def SectionAlike (P : String → Json → Json → Prop) (x y : Json) : Prop :=
  RecordsAlike P x y ∨ x = y ∧ ∀ members, x ≠ .obj members

def ContainerMember (L : Snapshot.Leeway) (key : String) (x y : Json) : Prop :=
  if key = "Args" then x.entries = y.entries
  else if key = "Config" then SectionAlike ConfigMember x y
  else if key = "HostConfig" then SectionAlike (HostMember L) x y
  else if key = "GraphDriver" then x = y ∨ RecordsAlike DriverMember x y
  else if key = "State" then x = y ∨ RecordsAlike (SameAmong stateMembers) x y
  else if key = "Mounts" then
    Agree L.mounts (readEach MountRecord.ofInspect x) (readEach MountRecord.ofInspect y)
  else SameAmong rootMembers key x y

abbrev RootMember (M : List MountRecord → List MountRecord → Prop)
    (U : List Ulimit → List Ulimit → Prop) : String → Json → Json → Prop :=
  ContainerMember { mounts := M, ulimits := U }

def readTemplate (x : Json) : Except Fault (List Json) :=
  (x.orElse (.arr (Capability.defaultTemplate.map .str))).elements

def InfoMember (C : List Json → List Json → Prop) (key : String) (x y : Json) : Prop :=
  if key = "SecurityOptions" then x.entries = y.entries
  else if key = "DefaultCapabilities" then Agree C (readTemplate x) (readTemplate y)
  else SameAmong infoMembers key x y

variable {L : Snapshot.Leeway}
variable {M : List MountRecord → List MountRecord → Prop}
variable {U : List Ulimit → List Ulimit → Prop} {C : List Json → List Json → Prop}
variable {P Q : String → Json → Json → Prop}
variable {v w : Json} {key : String}

theorem SectionAlike.refl (hP : ∀ key x, P key x x) (x : Json) : SectionAlike P x x := by
  cases x with
  | obj members => exact .inl (.refl hP members)
  | _ => exact .inr ⟨rfl, fun members h => Json.noConfusion h⟩

theorem ConfigMember.refl (key : String) (x : Json) : ConfigMember key x x := by
  rw [ConfigMember]
  split
  · rfl
  · exact fun _ => rfl

theorem HostMember.refl (hU : key = "Ulimits" → ∀ us, L.ulimits us us)
    (hP : key = "Privileged" → ∀ b, L.privileged b b)
    (hS : key = "Sysctls" → ∀ pairs, L.sysctls pairs pairs) (x : Json) :
    HostMember L key x x := by
  rw [HostMember]
  split
  · rfl
  split
  · rfl
  split
  · exact Agree.refl (hU ‹_›) _
  split
  · exact hP ‹_› _
  split
  · exact Agree.refl (hS ‹_›) _
  · exact fun _ => rfl

theorem ContainerMember.refl (hM : key = "Mounts" → ∀ ms, L.mounts ms ms)
    (hH : key = "HostConfig" → ∀ key x, HostMember L key x x) (x : Json) :
    ContainerMember L key x x := by
  rw [ContainerMember]
  split
  · rfl
  split
  · exact .refl ConfigMember.refl x
  split
  · exact .refl (hH ‹_›) x
  split
  · exact .inl rfl
  split
  · exact .inl rfl
  split
  · exact Agree.refl (hM ‹_›) _
  · exact fun _ => rfl

theorem RootMember.refl (hM : key = "Mounts" → ∀ ms, M ms ms)
    (hU : key = "HostConfig" → ∀ us, U us us) (x : Json) : RootMember M U key x x :=
  ContainerMember.refl hM
    (fun hhost _ => .refl (fun _ => hU hhost) (fun _ _ => rfl) (fun _ _ => rfl)) x

theorem InfoMember.refl (hC : key = "DefaultCapabilities" → ∀ list, C list list) (x : Json) :
    InfoMember C key x x := by
  rw [InfoMember]
  split
  · rfl
  split
  · exact Agree.refl (hC ‹_›) _
  · exact fun _ => rfl

private theorem given_agree (h : RecordsAlike Q v w) (key : String)
    (hrecord : ∀ x y, Q key x y → x = y ∨ RecordsAlike P x y) :
    Agree (fun x y => x = y ∨ RecordsAlike P x y) (v.given key (.obj []))
      (w.given key (.obj [])) := by
  refine (h.member key).map fun x y hxy => ?_
  rcases hrecord x y hxy with rfl | hxy
  · exact .inl rfl
  · exact .inr hxy.orElse

private theorem requireSection_agree (h : RecordsAlike Q v w) (wanted : Section)
    (hsection : ∀ x y, Q wanted.key x y → SectionAlike P x y) (shortId : Json) :
    Agree (RecordsAlike P) (requireSection v shortId wanted) (requireSection w shortId wanted) := by
  rw [requireSection, requireSection]
  refine (h.member wanted.key).bind fun x y hxy => ?_
  rcases hsection x y hxy with hrecord | ⟨rfl, hnone⟩
  · cases hrecord with
    | obj h => exact .held (.obj h)
  · cases x with
    | obj members => exact absurd rfl (hnone members)
    | _ => exact .refused _

private theorem readRootfs_eq (h : RecordsAlike (ContainerMember L) v w) :
    readRootfs v = readRootfs w := by
  apply Agree.eq
  rw [readRootfs, readRootfs]
  refine (given_agree h "GraphDriver" fun x y hxy => hxy).bind fun driver other hdriver => ?_
  rcases hdriver with rfl | hdriver
  · exact Agree.refl (fun _ => rfl) _
  refine (given_agree hdriver "Data" fun x y hxy => hxy rfl).bind fun data other hdata => ?_
  rcases hdata with rfl | hdata
  · exact Agree.refl (fun _ => rfl) _
  rw [hdata.member_eq "MergedDir" fun x y hxy => hxy (by decide),
    hdata.given_eq "Dir" void fun x y hxy => hxy (by decide)]
  exact Agree.refl (fun _ => rfl) _

private theorem readState_agree (h : RecordsAlike (ContainerMember L) v w) (default : Json) :
    Agree (fun x y => x.given "Pid" default = y.given "Pid" default) (v.given "State" (.obj []))
      (w.given "State" (.obj [])) := by
  refine (given_agree h "State" fun x y hxy => hxy).mono fun x y hxy => ?_
  rcases hxy with rfl | hxy
  · rfl
  · exact hxy.given_eq "Pid" default fun a b hab => hab (by decide)

theorem entries_agree {S : γ → δ → Prop} {f : List Json → Except Fault γ}
    {g : List Json → Except Fault δ} (h : RecordsAlike Q v w) (key : String)
    (hlist : ∀ x y, Q key x y → x.entries = y.entries)
    (hnext : ∀ items, Agree S (f items) (g items)) :
    Agree S (do let x ← v.member key; let items ← x.entries; f items)
      (do let y ← w.member key; let items ← y.entries; g items) := by
  refine (h.member key).bind fun x y hxy => ?_
  rw [hlist x y hxy]
  exact Agree.bind_same _ hnext

private theorem config_member_eq (h : RecordsAlike ConfigMember v w)
    (hkey : key ∉ configLists ∧ key ∈ configMembers) : v.member key = w.member key := by
  refine h.member_eq key fun x y hxy => ?_
  rw [ConfigMember, if_neg hkey.1] at hxy
  exact hxy hkey.2

private theorem host_member_eq (h : RecordsAlike (HostMember L) v w)
    (hkey : key ∉ hostLists ++ ["Devices", "Ulimits", "Privileged", "Sysctls"] ∧
      key ∈ hostMembers) : v.member key = w.member key := by
  obtain ⟨hparted, hsame⟩ := hkey
  simp only [List.mem_append, List.mem_cons, List.not_mem_nil, or_false, not_or] at hparted
  obtain ⟨hlist, hdevices, hulimits, hprivileged, hsysctls⟩ := hparted
  refine h.member_eq key fun x y hxy => ?_
  rw [HostMember, if_neg hlist, if_neg hdevices, if_neg hulimits, if_neg hprivileged,
    if_neg hsysctls] at hxy
  exact hxy hsame

private theorem config_given_eq (h : RecordsAlike ConfigMember v w)
    (hkey : key ∉ configLists ∧ key ∈ configMembers) (default : Json) :
    v.given key default = w.given key default := by
  rw [given, given, config_member_eq h hkey]

private theorem host_given_eq (h : RecordsAlike (HostMember L) v w)
    (hkey : key ∉ hostLists ++ ["Devices", "Ulimits", "Privileged", "Sysctls"] ∧
      key ∈ hostMembers) (default : Json) : v.given key default = w.given key default := by
  rw [given, given, host_member_eq h hkey]

/-- The members of a document that are not read as the values that they are. -/
def partedMembers : List String :=
  ["Args", "Config", "HostConfig", "GraphDriver", "State", "Mounts"]

private theorem root_given_eq (h : RecordsAlike (ContainerMember L) v w)
    (hkey : key ∉ partedMembers ∧ key ∈ rootMembers) (default : Json) :
    v.given key default = w.given key default := by
  obtain ⟨hparted, hsame⟩ := hkey
  simp only [partedMembers, List.mem_cons, List.not_mem_nil, or_false, not_or] at hparted
  obtain ⟨hargs, hconfig, hhost, hdriver, hstate, hmounts⟩ := hparted
  refine h.given_eq key default fun x y hxy => ?_
  rw [ContainerMember, if_neg hargs, if_neg hconfig, if_neg hhost, if_neg hdriver, if_neg hstate,
    if_neg hmounts] at hxy
  exact hxy hsame

private theorem NamespaceModes.ofHostConfig_eq (h : RecordsAlike (HostMember L) v w) :
    ofHostConfig v = ofHostConfig w := by
  simp (disch := decide) only [ofHostConfig, host_given_eq h]

private theorem ResourceLimits.ofHostConfig_eq (h : RecordsAlike (HostMember L) v w) :
    ofHostConfig v = ofHostConfig w := by
  simp (disch := decide) only [ofHostConfig, host_member_eq h, host_given_eq h]

private theorem readPrivileged_agree (h : RecordsAlike (HostMember L) v w) :
    Agree (fun x y => L.privileged (!x.isVoid) (!y.isVoid)) (v.member "Privileged")
      (w.member "Privileged") :=
  h.member "Privileged"

private theorem readSysctls_agree (h : RecordsAlike (HostMember L) v w) :
    Agree (fun x y => Agree L.sysctls x.pairs y.pairs) (v.given "Sysctls" (.obj []))
      (w.given "Sysctls" (.obj [])) :=
  (h.member "Sysctls").map fun _ _ hxy => hxy

structure Snapshot.Related (L : Leeway) (s t : Snapshot) : Prop where
  mounts : L.mounts s.mounts t.mounts
  ulimits : L.ulimits s.ulimits t.ulimits
  privileged : L.privileged s.privileged t.privileged
  sysctls : L.sysctls s.sysctls t.sysctls
  others : t = { s with mounts := t.mounts, ulimits := t.ulimits, privileged := t.privileged,
                        sysctls := t.sysctls }

/-- Documents whose members are read alike have snapshots that are related. -/
theorem Snapshot.ofInspect_related (h : RecordsAlike (ContainerMember L) v w) :
    Agree (Related L) (ofInspect v) (ofInspect w) := by
  obtain ⟨members, others, rfl, rfl⟩ := h.objects
  have hname : readName (.obj members) = readName (.obj others) := by
    simp (disch := decide) only [readName, root_given_eq h]
  rw [ofInspect, ofInspect, readRootfs_eq h, hname]
  simp (disch := decide) only [root_given_eq h]
  refine Agree.bind_same _ fun id => ?_
  refine Agree.bind_same _ fun shortId => ?_
  refine (requireSection_agree h .config (fun _ _ hxy => hxy) shortId).bind
    fun config config' hconfig => ?_
  refine (requireSection_agree h .hostConfig (fun _ _ hxy => hxy) shortId).bind
    fun host host' hhost => ?_
  rw [NamespaceModes.ofHostConfig_eq hhost, ResourceLimits.ofHostConfig_eq hhost]
  simp (disch := decide) only [config_member_eq hconfig, config_given_eq hconfig,
    host_member_eq hhost]
  refine Agree.bind_same _ fun rootfs => ?_
  refine Agree.bind_same _ fun namespaces => ?_
  refine (hhost.member "Ulimits").bind fun x y hulimits => ?_
  refine Agree.bind (show Agree L.ulimits _ _ from hulimits) fun ulimits ulimits' hulimits => ?_
  refine Agree.bind_same _ fun name => ?_
  refine Agree.bind_same _ fun hostname => ?_
  refine Agree.bind_same _ fun user => ?_
  refine entries_agree hconfig "Entrypoint" (fun _ _ hxy => hxy) fun entrypoint => ?_
  refine entries_agree hconfig "Cmd" (fun _ _ hxy => hxy) fun cmd => ?_
  refine Agree.bind_same _ fun path => ?_
  refine entries_agree h "Args" (fun _ _ hxy => hxy) fun args => ?_
  refine entries_agree hconfig "Env" (fun _ _ hxy => hxy) fun env => ?_
  refine Agree.bind_same _ fun workingDir => ?_
  refine Agree.bind_same _ fun tty => ?_
  refine (readState_agree h (.int 0)).bind fun state state' hstate => ?_
  rw [hstate]
  refine Agree.bind_same _ fun pid => ?_
  refine Agree.bind_same _ fun readonlyRootfs => ?_
  refine (h.member "Mounts").bind fun x y hmounts => ?_
  refine Agree.bind (show Agree L.mounts _ _ from hmounts) fun mounts mounts' hmounts => ?_
  refine (readPrivileged_agree hhost).bind fun privileged privileged' hprivileged => ?_
  refine entries_agree hhost "CapAdd" (fun _ _ hxy => hxy) fun capAdd => ?_
  refine entries_agree hhost "CapDrop" (fun _ _ hxy => hxy) fun capDrop => ?_
  refine entries_agree hhost "SecurityOpt" (fun _ _ hxy => hxy) fun securityOpt => ?_
  refine entries_agree hhost "GroupAdd" (fun _ _ hxy => hxy) fun groupAdd => ?_
  refine Agree.bind_same _ fun resources => ?_
  refine (hhost.member "Devices").bind fun x y hdevices => ?_
  rw [show readEach DeviceMapping.ofInspect x = readEach DeviceMapping.ofInspect y from hdevices]
  refine Agree.bind_same _ fun devices => ?_
  refine entries_agree hhost "DeviceCgroupRules" (fun _ _ hxy => hxy) fun deviceCgroupRules => ?_
  refine (readSysctls_agree hhost).bind fun table table' htable => ?_
  refine htable.bind fun sysctls sysctls' hsysctls => ?_
  refine entries_agree hhost "MaskedPaths" (fun _ _ hxy => hxy) fun maskedPaths => ?_
  refine entries_agree hhost "ReadonlyPaths" (fun _ _ hxy => hxy) fun readonlyPaths => ?_
  refine Agree.bind_same _ fun resolvConfPath => ?_
  refine Agree.bind_same _ fun hostnamePath => ?_
  refine Agree.bind_same _ fun hostsPath => ?_
  exact .held { mounts := hmounts, ulimits := hulimits, privileged := hprivileged,
                sysctls := hsysctls, others := rfl }

theorem Snapshot.Related.outside {V : Bool → Bool → Prop}
    {S : List (String × Json) → List (String × Json) → Prop} {s t : Snapshot}
    (h : Related { privileged := V, sysctls := S } s t) :
    t = { s with privileged := t.privileged, sysctls := t.sysctls } := by
  have hmounts : s.mounts = t.mounts := h.mounts
  have hulimits : s.ulimits = t.ulimits := h.ulimits
  have hothers := h.others
  rw [← hmounts, ← hulimits] at hothers
  exact hothers

structure Snapshot.Varies (M : List MountRecord → List MountRecord → Prop)
    (U : List Ulimit → List Ulimit → Prop) (s t : Snapshot) : Prop where
  mounts : M s.mounts t.mounts
  ulimits : U s.ulimits t.ulimits
  others : t = { s with mounts := t.mounts, ulimits := t.ulimits }

/-- Documents whose members are read alike have snapshots that differ in mounts and limits alone. -/
theorem Snapshot.ofInspect_agree (h : RecordsAlike (RootMember M U) v w) :
    Agree (Varies M U) (ofInspect v) (ofInspect w) := by
  refine (ofInspect_related h).mono fun s t hrelated => ?_
  have hprivileged : s.privileged = t.privileged := hrelated.privileged
  have hsysctls : s.sysctls = t.sysctls := hrelated.sysctls
  have hothers := hrelated.others
  rw [← hprivileged, ← hsysctls] at hothers
  exact ⟨hrelated.mounts, hrelated.ulimits, hothers⟩

theorem DaemonInfo.ofInfo_agree (h : RecordsAlike (InfoMember C) v w) :
    Agree (fun info other => C info.defaultCapabilities other.defaultCapabilities ∧
      other = { info with defaultCapabilities := other.defaultCapabilities })
      (ofInfo v) (ofInfo w) := by
  obtain ⟨members, others, rfl, rfl⟩ := h.objects
  have hgiven {key : String}
      (hkey : key ∉ ["SecurityOptions", "DefaultCapabilities"] ∧ key ∈ infoMembers)
      (default : Json) :
      (Json.obj members).given key default = (Json.obj others).given key default := by
    obtain ⟨hparted, hsame⟩ := hkey
    simp only [List.mem_cons, List.not_mem_nil, or_false, not_or] at hparted
    refine h.given_eq key default fun x y hxy => ?_
    rw [InfoMember, if_neg hparted.1, if_neg hparted.2] at hxy
    exact hxy hsame
  have htemplate : Agree (fun x y => Agree C x.elements y.elements)
      ((Json.obj members).given "DefaultCapabilities"
        (.arr (Capability.defaultTemplate.map Json.str)))
      ((Json.obj others).given "DefaultCapabilities"
        (.arr (Capability.defaultTemplate.map Json.str))) :=
    (h.member "DefaultCapabilities").map fun x y hxy => hxy
  rw [ofInfo, ofInfo]
  simp (disch := decide) only [hgiven]
  refine htemplate.bind fun x y hlists => ?_
  refine Agree.bind_same _ fun executionDriver => ?_
  refine Agree.bind_same _ fun osType => ?_
  refine Agree.bind_same _ fun architecture => ?_
  refine entries_agree h "SecurityOptions" (fun _ _ hxy => hxy) fun securityOptions => ?_
  refine Agree.bind hlists fun list other hlist => ?_
  exact .held ⟨hlist, rfl⟩

end ContainerBundle
