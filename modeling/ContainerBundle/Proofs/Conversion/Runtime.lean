import Mathlib
import ContainerBundle.Conversion.Runtime
import ContainerBundle.Proofs.Conversion.Config
import ContainerBundle.Proofs.Conversion.DeviceNodes
import ContainerBundle.Proofs.Conversion.Namespaces
/-!
# When a runtime is refused

A container with a device that the host cannot describe has no runtime, and neither has one whose
own rules hold a number of too many digits. Any other has one, with a rule for each entry that
writes one and a warning for each entry that writes none.
-/
namespace ContainerBundle

open Json

/-- No table of processes, or one whose processes have numbers that a document can hold. -/
def PeerTable (peers : Json) : Prop :=
  peers = .null ∨ ∃ table, peers = .obj table ∧ ∀ peer ∈ table, ∃ pid : Int,
    peer.2 = .int pid ∧ (Text.decimal pid.natAbs).length ≤ Text.digitLimit

namespace Conversion

open Descriptor

variable {stat : Examiner} {s : Snapshot} {info : DaemonInfo} {peers : Json}
variable {capabilities : List Json}

theorem peerProcess_declared (hpeers : PeerTable peers) (ref : String) :
    ∃ pid, peerProcess peers ref = .ok pid ∧ (pid.isVoid ∨ ∃ n : Int, pid = .int n ∧ n ≠ 0) := by
  have hnone : (Json.null).isVoid ∨ ∃ n : Int, Json.null = .int n ∧ n ≠ 0 := .inl rfl
  rcases hpeers with rfl | ⟨table, rfl, htable⟩
  · exact ⟨.null, rfl, hnone⟩
  · cases table with
    | nil => exact ⟨.null, rfl, hnone⟩
    | cons first rest =>
      refine ⟨(find? ref (first :: rest)).getD .null, rfl, ?_⟩
      cases hfind : (first :: rest).find? (fun peer => peer.1 == ref) with
      | none =>
        simp only [Json.find?, hfind, Option.map_none, Option.getD_none]
        exact hnone
      | some peer =>
        obtain ⟨pid, hpid, -⟩ := htable peer (List.mem_of_find?_eq_some hfind)
        simp only [Json.find?, hfind, Option.map_some, Option.getD_some, hpid]
        by_cases hzero : pid = 0
        · exact .inl (by simp [Json.isVoid, hzero])
        · exact .inr ⟨pid, rfl, hzero⟩

private theorem planNamespace_declared (hpeers : PeerTable peers) {mode : Json}
    (hmode : mode.IsText)
    (kind : NamespaceKind) : ∃ entry, (planNamespace kind.name mode peers).outcome = .ok entry := by
  obtain ⟨mode, rfl⟩ := hmode
  by_cases hhost : mode = "host"
  · exact ⟨none, by rw [hhost, planNamespace_host]; rfl⟩
  cases hpeer : peerOf? mode with
  | none => exact ⟨_, by rw [planNamespace_own hhost hpeer]; rfl⟩
  | some ref =>
    obtain ⟨pid, hpid, hvoid | ⟨n, rfl, hset⟩⟩ := peerProcess_declared hpeers ref
    · exact ⟨_, by rw [planNamespace_unknown hpeer hpid hvoid]⟩
    · exact ⟨_, by rw [planNamespace_joined hpeer hpid hset]; rfl⟩

private theorem planNamespaces_declared (hs : s.Declared) (hinfo : info.Declared)
    (hpeers : PeerTable peers) : ∃ plan, (planNamespaces s info peers).outcome = .ok plan := by
  obtain ⟨plan, hplan, -, -⟩ := planNamespaces_of_each hinfo fun kind hkind =>
    planNamespace_declared hpeers (hs.namespaces.of hkind) kind
  exact ⟨plan, hplan⟩

theorem positive_declared {v : Json} (h : Optional IsInteger v) :
    ∃ limit, positive v = .ok limit := by
  rcases h with rfl | ⟨n, rfl⟩
  · exact ⟨_, rfl⟩
  · exact ⟨_, rfl⟩

private theorem swappiness_declared {v : Json} (h : Optional IsInteger v) :
    ∃ share, swappiness v = .ok share := by
  rcases h with rfl | ⟨n, rfl⟩
  · exact ⟨_, rfl⟩
  · exact ⟨_, rfl⟩

private theorem resources_declared {limits : ResourceLimits} (h : limits.Declared) :
    ∃ r : Resources, ∀ rules, resources limits rules = .ok { r with devices := rules } := by
  obtain ⟨share, hshare⟩ := swappiness_declared h.memorySwappiness
  obtain ⟨limit, hlimit⟩ := positive_declared h.memory
  obtain ⟨reservation, hreservation⟩ := positive_declared h.memoryReservation
  obtain ⟨swap, hswap⟩ := positive_declared h.memorySwap
  obtain ⟨kernel, hkernel⟩ := positive_declared h.kernelMemory
  obtain ⟨shares, hshares⟩ := positive_declared h.cpuShares
  obtain ⟨quota, hquota⟩ := positive_declared h.cpuQuota
  obtain ⟨period, hperiod⟩ := positive_declared h.cpuPeriod
  obtain ⟨weight, hweight⟩ := positive_declared h.blkioWeight
  obtain ⟨processes, hprocesses⟩ := positive_declared h.pidsLimit
  have hmemory : ∃ group, memory limits = .ok group :=
    ⟨_, by rw [memory, hshare, hlimit, hreservation, hswap, hkernel]; rfl⟩
  have hcpu : ∃ group, cpu limits = .ok group :=
    ⟨_, by rw [cpu, hshares, hquota, hperiod]; rfl⟩
  have hblockIo : ∃ group, blockIo limits = .ok group := ⟨_, by rw [blockIo, hweight]; rfl⟩
  have hpids : ∃ group, pids limits = .ok group := ⟨_, by rw [pids, hprocesses]; rfl⟩
  obtain ⟨memory, hmemory⟩ := hmemory
  obtain ⟨cpu, hcpu⟩ := hcpu
  obtain ⟨blockIo, hblockIo⟩ := hblockIo
  obtain ⟨pids, hpids⟩ := hpids
  let killer : Option Bool := if limits.oomKillDisable.isVoid then none else some true
  refine ⟨{ disableOomKiller := killer, memory, cpu, blockIo, pids }, fun rules => ?_⟩
  rw [resources, hmemory, hcpu, hblockIo, hpids]
  rfl

private theorem rlimits_declared {ulimits : List Ulimit} (h : ∀ u ∈ ulimits, u.Declared) :
    ∃ limits, rlimits ulimits = .ok limits := by
  induction ulimits with
  | nil => exact ⟨[], rfl⟩
  | cons u rest ih =>
    obtain ⟨hu, hrest⟩ := List.forall_mem_cons.mp h
    obtain ⟨others, hothers⟩ := ih hrest
    obtain ⟨name, hname⟩ := hu.name
    rw [rlimits]
    by_cases hvoid : u.name.isVoid
    · exact ⟨others, by rw [if_pos hvoid, hothers]⟩
    · exact ⟨_, by rw [if_neg hvoid, hname, hothers]; rfl⟩

private theorem hostname_declared (hs : s.Declared) : ∃ name, hostname s = .ok name := by
  obtain ⟨shortId, hid⟩ := hs.shortId
  rw [hostname]
  by_cases hvoid : s.hostname.isVoid
  · exact ⟨s.hostname, if_pos hvoid⟩
  · rw [if_neg hvoid, hid, ok_bind]
    by_cases hnamed : s.hostname.same shortId && !s.name.isEmpty
    · exact ⟨_, if_pos hnamed⟩
    · exact ⟨_, if_neg hnamed⟩

/-- Only the devices are refused, and only the namespaces and the devices leave warnings. -/
theorem runtime_of_declared (hs : s.Declared) (hinfo : info.Declared) (hpeers : PeerTable peers) :
    ∃ remark : Event, ∃ descriptor : List Device × List DeviceRule → Runtime,
      warnings [remark] = [] ∧
      (∀ list, (descriptor list).linux.devices = list.1 ∧
        (descriptor list).linux.resources.devices = list.2) ∧
      runtime stat s info (.arr capabilities) peers = (do
        let _ ← (⟨(planNamespaces s info peers).events, .ok ()⟩ : Traced Unit)
        let list ← devices stat s
        ⟨[remark], .ok (descriptor list)⟩) := by
  obtain ⟨plan, hplan⟩ := planNamespaces_declared hs hinfo hpeers
  obtain ⟨resources, hresources⟩ := resources_declared hs.resources
  obtain ⟨limits, hlimits⟩ := rlimits_declared hs.ulimits
  obtain ⟨shortId, hid⟩ := hs.shortId
  obtain ⟨name, hname⟩ := hostname_declared hs
  have hspaces : planNamespaces s info peers =
      ⟨(planNamespaces s info peers).events, .ok plan⟩ := by rw [← hplan]
  have helements : (Json.arr capabilities).elements = .ok capabilities := rfl
  let descriptor (list : List Device × List DeviceRule) : Runtime :=
    { hostname := if (plan .uts).isSome then name else .str ""
      linux :=
        { capabilities, namespaces := listed plan
          resources := { resources with devices := list.2 }
          devices := list.1, rlimits := limits, sysctl := sysctl? s.sysctls
          oomScoreAdj := whenGiven s.resources.oomScoreAdj
          maskedPaths := if s.privileged then [] else s.maskedPaths
          readonlyPaths := if s.privileged then [] else s.readonlyPaths } }
  refine ⟨.runtimeConverted shortId ((listed plan).map (fun n => n.kind)), descriptor, rfl,
    fun list => ⟨rfl, rfl⟩, ?_⟩
  rw [runtime, hspaces]
  simp only [Traced.mk_ok_bind, helements, hresources, hlimits, hid, hname,
    Traced.liftM_eq_ofExcept, Traced.ofExcept_ok, pure_bind]
  cases huts : (plan .uts).isSome
  · simp only [descriptor, huts]
    rfl
  · simp only [descriptor, huts]
    rfl

private theorem runtime_of_indescribable (hs : s.Declared) (hinfo : info.Declared)
    (hpeers : PeerTable peers) (hstat : stat.Declared)
    (h : ∃ m ∈ s.ownDevices, ∃ cause, Indescribable stat m cause) :
    ∃ m ∈ s.ownDevices, ∃ cause, Indescribable stat m cause ∧
      (runtime stat s info (.arr capabilities) peers).outcome = .error (.conversion cause) := by
  obtain ⟨remark, descriptor, -, -, hruntime⟩ :=
    @runtime_of_declared stat s info peers capabilities hs hinfo hpeers
  obtain ⟨m, hm, cause, hcause, hdevices⟩ := devices_of_indescribable hs hstat h
  refine ⟨m, hm, cause, hcause, ?_⟩
  rw [hruntime, Traced.mk_ok_bind, Traced.outcome_bind, hdevices, error_bind]

private theorem runtime_of_overlong (hs : s.Declared) (hinfo : info.Declared)
    (hpeers : PeerTable peers)
    (hnodes : ∀ m ∈ s.ownDevices, ∃ node, Described stat m node)
    (h : ∃ raw ∈ s.ownRules, Overlong raw) :
    ∃ raw ∈ s.ownRules, Overlong raw ∧ ∃ digits count,
      (runtime stat s info (.arr capabilities) peers).outcome =
        .error (.integer digits (.tooLong count)) := by
  obtain ⟨remark, descriptor, -, -, hruntime⟩ :=
    @runtime_of_declared stat s info peers capabilities hs hinfo hpeers
  obtain ⟨raw, hraw, hlong, digits, count, hdevices⟩ := devices_of_overlong hs hnodes h
  refine ⟨raw, hraw, hlong, digits, count, ?_⟩
  rw [hruntime, Traced.mk_ok_bind, Traced.outcome_bind, hdevices, error_bind]

private theorem runtime_of_described (hs : s.Declared) (hinfo : info.Declared)
    (hpeers : PeerTable peers)
    (hnodes : ∀ m ∈ s.ownDevices, ∃ node, Described stat m node)
    (hrules : ∀ raw ∈ s.ownRules, ¬ Overlong raw) :
    let conversion := runtime stat s info (.arr capabilities) peers
    ∃ descriptor passed, conversion.outcome = .ok descriptor ∧
      DeviceList stat s descriptor.linux.devices descriptor.linux.resources.devices passed ∧
      warnings conversion.events = warnings (planNamespaces s info peers).events ++
        remarks (passed.map .ruleMalformed) := by
  intro conversion
  obtain ⟨remark, descriptor, hquiet, hlists, hruntime⟩ :=
    @runtime_of_declared stat s info peers capabilities hs hinfo hpeers
  obtain ⟨nodes, rules, passed, hlist, hdevices⟩ := devices_of_described hs hnodes hrules
  obtain ⟨hown, hresources⟩ := hlists (nodes, rules)
  rw [show conversion = _ from hruntime, hdevices]
  refine ⟨descriptor (nodes, rules), passed, rfl, ?_, ?_⟩
  · rw [hown, hresources]
    exact hlist
  · simp only [Traced.mk_ok_bind, warnings_append, warnings_examined, warnings_malformed, hquiet,
      List.nil_append, List.append_nil]

/-- The host cannot describe a device, and the fault names one; or a rule of the container holds a
number of too many digits; or there is a runtime, with its warnings. -/
theorem runtime_ends (hs : s.Declared) (hinfo : info.Declared) (hpeers : PeerTable peers)
    (hstat : stat.Declared) :
    let conversion := runtime stat s info (.arr capabilities) peers
    ((∃ m ∈ s.ownDevices, ∃ cause, Indescribable stat m cause) →
      ∃ m ∈ s.ownDevices, ∃ cause, Indescribable stat m cause ∧
        (∃ path, m.pathOnHost = .str path ∧
          ∃ front back, cause.message = front ++ path ++ back) ∧
        conversion.outcome = .error (.conversion cause)) ∧
    ((∀ m ∈ s.ownDevices, ∀ cause, ¬ Indescribable stat m cause) →
      (∃ raw ∈ s.ownRules, Overlong raw) → ∃ raw ∈ s.ownRules, Overlong raw ∧
        ∃ digits count, conversion.outcome = .error (.integer digits (.tooLong count))) ∧
    ((∀ m ∈ s.ownDevices, ∀ cause, ¬ Indescribable stat m cause) →
      (∀ raw ∈ s.ownRules, ¬ Overlong raw) → ∃ descriptor passed,
        conversion.outcome = .ok descriptor ∧
        DeviceList stat s descriptor.linux.devices descriptor.linux.resources.devices passed ∧
        warnings conversion.events =
          warnings (planNamespaces s info peers).events ++
            remarks (passed.map .ruleMalformed)) := by
  intro conversion
  have hdescribed (h : ∀ m ∈ s.ownDevices, ∀ cause, ¬ Indescribable stat m cause) :
      ∀ m ∈ s.ownDevices, ∃ node, Described stat m node := by
    intro m hm
    rcases described_or_indescribable (hs.ownDevices m hm) hstat with hnode | ⟨cause, hcause⟩
    · exact hnode
    · exact absurd hcause (h m hm cause)
  refine ⟨fun hbad => ?_, fun hgood hlong => ?_, fun hgood hshort => ?_⟩
  · obtain ⟨m, hm, cause, hcause, hfault⟩ :=
      @runtime_of_indescribable stat s info peers capabilities hs hinfo hpeers hstat hbad
    exact ⟨m, hm, cause, hcause, hcause.names, hfault⟩
  · exact runtime_of_overlong hs hinfo hpeers (hdescribed hgood) hlong
  · exact runtime_of_described hs hinfo hpeers (hdescribed hgood) hshort

theorem runtime_ends_with_malformed_rule :
    let stat : Examiner := fun _ => .ok ⟨.int 0x21B6, .int 0x103, .int 0, .int 0⟩
    let s : Snapshot :=
      { id := .str "web"
        devices := [{ pathOnHost := .str "/dev/null", pathInContainer := .str "/dev/zero" }]
        deviceCgroupRules := [.str "c 1:3 mr", .str "oops"] }
    ∃ descriptor, (runtime stat s {} (.arr []) .null).outcome = .ok descriptor ∧
      DeviceList stat s descriptor.linux.devices descriptor.linux.resources.devices ["oops"] ∧
      warnings (runtime stat s {} (.arr []) .null).events =
        [⟨.warning, "ocigen.cgroups", "Ignoring malformed device cgroup rule 'oops'"⟩] := by
  intro stat s
  have hs : s.Declared :=
    { Snapshot.declared_bare "web" with
      devices := by
        simp only [s, List.mem_singleton, forall_eq]
        exact ⟨isText_str _, isText_str _, isText_str _⟩
      deviceCgroupRules := by simp [s, isText_str] }
  have hstat : stat.Declared := fun path =>
    .inl ⟨_, rfl, ⟨_, rfl, by decide⟩, ⟨_, rfl, by decide⟩, isInteger_int _, isInteger_int _⟩
  have hnodes : ∀ m ∈ s.ownDevices, ∀ cause, ¬ Indescribable stat m cause := by
    intro m _ cause hcause
    cases hcause with
    | unreachable _ hanswer => cases hanswer
    | notDevice _ hanswer hmode _ hkind =>
      cases hanswer
      cases hmode
      cases hkind
  have hshort : ∀ raw ∈ s.ownRules, ¬ Overlong raw := by
    intro raw hraw
    have hlength : ∀ raw ∈ s.ownRules, raw.toList.length ≤ Text.digitLimit := by decide
    exact not_overlong_of_length (hlength raw hraw)
  obtain ⟨-, -, hends⟩ := @runtime_ends stat s {} .null [] hs DaemonInfo.declared_default
    (.inl rfl) hstat
  obtain ⟨descriptor, passed, hruntime, hlist, hwarnings⟩ := hends hnodes hshort
  have hpassed : passed = ["oops"] := by
    obtain ⟨own, hledger⟩ := hlist.ledger (by decide)
    have hentries : s.ownRules = ["c 1:3 mr", "oops"] := rfl
    rw [hentries] at hledger
    cases hledger with
    | passed hnone =>
      have hone : ∀ c ∈ ['1'], Text.isAsciiDigit c := by simp [Text.isAsciiDigit]
      have hthree : ∀ c ∈ ['3'], Text.isAsciiDigit c := by simp [Text.isAsciiDigit]
      let r : WrittenRule :=
        ⟨.character, some ⟨['1'], by simp, hone⟩, some ⟨['3'], by simp, hthree⟩, ['m', 'r'], by simp⟩
      have hwrites : Text.trim "c 1:3 mr".toList = ['c', ' ', '1', ':', '3', ' ', 'm', 'r'] := by
        decide
      exact absurd hwrites (hnone r)
    | rule _ hrest =>
      cases hrest with
      | rule hwrites =>
        have htrim : Text.trim "oops".toList = ['o', 'o', 'p', 's'] := by decide
        rw [Writes, htrim] at hwrites
        simp [WrittenRule.text] at hwrites
      | passed _ hrest =>
        cases hrest
        rfl
  subst hpassed
  exact ⟨descriptor, hruntime, hlist, hwarnings⟩

private def ones (n : Nat) : Text.DigitRow :=
  ⟨'1' :: List.replicate n '1', by simp, by simp [List.mem_replicate, Text.isAsciiDigit]⟩

private theorem overlong_ones (n : Nat) (h : Text.digitLimit ≤ n) (minor : Option Text.DigitRow) :
    Overlong (String.ofList
      (⟨.character, some (ones n), minor, ['r'], by simp⟩ : WrittenRule).text) := by
  refine ⟨_, writes_text _, ones n, .inl rfl, ?_⟩
  simpa [ones] using Nat.lt_succ_of_le h

/-- A rule whose major number has too many digits: the container has no runtime. -/
theorem runtime_of_overlong_rule :
    let r : WrittenRule := ⟨.character, some (ones Text.digitLimit), none, ['r'], by simp⟩
    let s : Snapshot := { id := .str "web", deviceCgroupRules := [.str (String.ofList r.text)] }
    s.Declared ∧ s.devices = [] ∧ ∃ digits count,
      (runtime (fun _ => .error (.system .missing)) s {} (.arr []) .null).outcome =
        .error (.integer digits (.tooLong count)) := by
  intro r s
  have hs : s.Declared :=
    { Snapshot.declared_bare "web" with deviceCgroupRules := by simp [s, isText_str] }
  have hlong : Overlong (String.ofList r.text) := overlong_ones Text.digitLimit (Nat.le_refl _) none
  have hnodes : ∀ m ∈ s.ownDevices, ∃ node,
      Described (fun _ => .error (.system .missing)) m node := by simp [s, Snapshot.ownDevices]
  obtain ⟨-, -, -, digits, count, hfault⟩ :=
    @runtime_of_overlong _ s {} .null [] hs DaemonInfo.declared_default (.inl rfl) hnodes
      ⟨_, by simp [s, Snapshot.ownRules], hlong⟩
  exact ⟨hs, rfl, digits, count, hfault⟩

end Conversion

end ContainerBundle
