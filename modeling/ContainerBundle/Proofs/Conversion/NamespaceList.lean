import Mathlib
import ContainerBundle.Proofs.Conversion.Runtime
import ContainerBundle.Proofs.Daemon.Peers
/-!
# The list of namespaces

A kind of namespace is listed when the container does not share it with the host. Its entry has a
path when the mode of the kind joins a container whose process is known; a container whose process
is not known leaves a warning.
-/
namespace ContainerBundle

open Json

namespace DaemonInfo

def TellsRemap (option : String) : Prop :=
  option = "userns" ∨ "name=userns".toList <:+: option.toList

def Remaps (info : DaemonInfo) : Prop :=
  ∃ option, .str option ∈ info.securityOptions ∧ TellsRemap option

private theorem anyRemaps_texts (options : List String) :
    ∃ remaps, anyRemaps (options.map str) = .ok remaps ∧
      (remaps = true ↔ ∃ option ∈ options, TellsRemap option) := by
  induction options with
  | nil => exact ⟨false, rfl, by simp⟩
  | cons option rest ih =>
    obtain ⟨remaps, hrest, hremaps⟩ := ih
    have htext : (str option).isText "userns" = (option == "userns") := rfl
    have hmentions : (str option).mentions "name=userns" =
        .ok (Text.occursIn "name=userns".toList option.toList) := rfl
    rw [List.map_cons, anyRemaps, htext]
    by_cases hnamed : option = "userns"
    · have htells : TellsRemap option := .inl hnamed
      exact ⟨true, by rw [if_pos (beq_iff_eq.mpr hnamed)]; rfl, by simp [htells]⟩
    rw [if_neg (mt beq_iff_eq.mp hnamed), hmentions, ok_bind]
    by_cases hpart : "name=userns".toList <:+: option.toList
    · have htells : TellsRemap option := .inr hpart
      rw [Text.occursIn_iff.mpr hpart]
      exact ⟨true, rfl, by simp [htells]⟩
    · have htells : ¬ TellsRemap option := not_or.mpr ⟨hnamed, hpart⟩
      rw [Bool.eq_false_iff.mpr (mt Text.occursIn_iff.mp hpart)]
      exact ⟨remaps, hrest, by simp [htells, hremaps]⟩

private theorem Declared.remaps_iff {info : DaemonInfo} (h : info.Declared) :
    ∃ remaps, info.usernsRemap = .ok remaps ∧ (remaps = true ↔ info.Remaps) := by
  obtain ⟨options, hoptions⟩ := exists_texts h.securityOptions
  obtain ⟨remaps, hfound, hremaps⟩ := anyRemaps_texts options
  refine ⟨remaps, by rw [DaemonInfo.usernsRemap, hoptions, hfound], hremaps.trans ?_⟩
  simp [Remaps, hoptions]

end DaemonInfo

/-- The process that a table gives for a container, unless its number is zero. -/
def knownProcess? (peers : Json) (ref : String) : Option Int :=
  match peers with
  | .obj table => (Json.find? ref table).bind fun
    | .int pid => if pid = 0 then none else some pid
    | _ => none
  | _ => none

private theorem knownProcess?_eq_some_iff {peers : Json} {ref : String} {pid : Int} :
    knownProcess? peers ref = some pid ↔
      ∃ table, peers = .obj table ∧ Json.find? ref table = some (.int pid) ∧ pid ≠ 0 := by
  cases peers with
  | obj table =>
    cases hfound : Json.find? ref table with
    | none => simp [knownProcess?, hfound]
    | some v =>
      cases v with
      | int n => grind [knownProcess?]
      | _ => simp [knownProcess?, hfound]
  | _ => simp [knownProcess?]

namespace NamespaceModes

def joinedPath (m : NamespaceModes) (peers : Json) (kind : NamespaceKind) : Option String :=
  (m.joins kind).bind fun ref =>
    (knownProcess? peers ref).map fun pid => Conversion.processFile pid kind

/-- The container whose namespace of a kind is to be joined, when its process is not known. -/
def unknownPeer (m : NamespaceModes) (peers : Json) (kind : NamespaceKind) : Option String :=
  (m.joins kind).filter fun ref => (knownProcess? peers ref).isNone

end NamespaceModes

namespace Conversion

open Descriptor

variable {m : NamespaceModes} {kind : NamespaceKind} {peers : Json} {ref : String}

private theorem peerProcess_table (table : List (String × Json)) (ref : String) :
    peerProcess (.obj table) ref = .ok ((Json.find? ref table).getD .null) := by
  cases table <;> rfl

private theorem peerProcess_of_known {pid : Int} (h : knownProcess? peers ref = some pid) :
    peerProcess peers ref = .ok (.int pid) ∧ pid ≠ 0 := by
  obtain ⟨table, rfl, hfound, hset⟩ := knownProcess?_eq_some_iff.mp h
  exact ⟨by rw [peerProcess_table, hfound]; rfl, hset⟩

private theorem peerProcess_of_unknown (hpeers : PeerTable peers)
    (h : knownProcess? peers ref = none) :
    ∃ pid, peerProcess peers ref = .ok pid ∧ pid.isVoid := by
  obtain ⟨pid, hpid, hvoid | ⟨n, rfl, hset⟩⟩ := peerProcess_declared hpeers ref
  · exact ⟨pid, hpid, hvoid⟩
  · -- A table that gives a process other than zero knows the container.
    rcases hpeers with rfl | ⟨table, rfl, -⟩
    · cases hpid
    · rw [peerProcess_table, Except.ok.injEq] at hpid
      cases hfound : Json.find? ref table with
      | none => simp [hfound] at hpid
      | some v =>
        obtain rfl : v = .int n := by simpa [hfound] using hpid
        rw [knownProcess?_eq_some_iff.mpr ⟨table, rfl, hfound, hset⟩] at h
        cases h

/-- An entry unless the mode is the host's, and a remark when a process to join is not known. -/
private theorem planNamespace_of_text (hpeers : PeerTable peers) (hmode : (m.of kind).IsText) :
    planNamespace kind.name (m.of kind) peers =
      ⟨(m.unknownPeer peers kind).toList.map (.peerUnknown kind.name),
        .ok (if (m.of kind).isText "host" then none
          else some { kind := kind.name, path := m.joinedPath peers kind })⟩ := by
  obtain ⟨mode, hmode⟩ := hmode
  rw [NamespaceModes.unknownPeer, NamespaceModes.joinedPath, NamespaceModes.joins_of_text hmode,
    hmode]
  by_cases hhost : mode = "host"
  · rw [hhost, planNamespace_host, peerOf?_host]
    rfl
  have hshared : (str mode).isText "host" = false := by simpa [isText] using hhost
  rw [hshared, if_neg Bool.false_ne_true]
  cases hpeer : peerOf? mode with
  | none =>
    rw [planNamespace_own hhost hpeer]
    rfl
  | some ref =>
    cases hknown : knownProcess? peers ref with
    | none =>
      obtain ⟨pid, hpid, hvoid⟩ := peerProcess_of_unknown hpeers hknown
      rw [planNamespace_unknown hpeer hpid hvoid]
      simp [Option.filter, hknown]
    | some pid =>
      obtain ⟨hpid, hset⟩ := peerProcess_of_known hknown
      rw [planNamespace_joined hpeer hpid hset]
      simp [Option.filter, hknown]
      rfl

private theorem plan_unjoined {s : Snapshot} {info : DaemonInfo} {plan : NamespacePlan}
    {remaps : Bool}
    (hremaps : info.usernsRemap = .ok remaps)
    (hplan : (planNamespaces s info peers).outcome = .ok plan) :
    plan .mount = some { kind := NamespaceKind.mount.name } ∧
    plan .user = (if remaps && !s.namespaces.userns.isText "host" then
      some { kind := NamespaceKind.user.name } else none) ∧
    plan .cgroup = if s.namespaces.cgroupns.isText "private" then
      some { kind := NamespaceKind.cgroup.name } else none := by
  rw [planNamespaces] at hplan
  obtain ⟨pid, -, hplan⟩ := Traced.bind_eq_ok_iff.mp hplan
  obtain ⟨network, -, hplan⟩ := Traced.bind_eq_ok_iff.mp hplan
  obtain ⟨ipc, -, hplan⟩ := Traced.bind_eq_ok_iff.mp hplan
  obtain ⟨uts, -, hplan⟩ := Traced.bind_eq_ok_iff.mp hplan
  rw [hremaps, Traced.liftM_eq_ofExcept, Traced.ofExcept_ok, pure_bind, Traced.pure_outcome,
    Except.ok.injEq] at hplan
  subst hplan
  exact ⟨rfl, rfl, rfl⟩

end Conversion

namespace NamespaceModes

/-- The container has a namespace of a kind that is not the host's. -/
def Separate (m : NamespaceModes) (remaps : Prop) : NamespaceKind → Prop
  | .mount => True
  | .user => remaps ∧ m.userns ≠ .str "host"
  | .cgroup => m.cgroupns = .str "private"
  | kind => m.of kind ≠ .str "host"

def entry (m : NamespaceModes) (peers : Json) (kind : NamespaceKind) : Descriptor.Namespace :=
  { kind := kind.name
    path := if kind ∈ NamespaceKind.joinable then m.joinedPath peers kind else none }

end NamespaceModes

namespace Conversion

private theorem planNamespaces_of_texts {s : Snapshot} {info : DaemonInfo} {peers : Json}
    (hs : s.namespaces.Declared) (hinfo : info.Declared) (hpeers : PeerTable peers) :
    ∃ plan, planNamespaces s info peers =
        ⟨NamespaceKind.joinable.filterMap fun kind =>
          (s.namespaces.unknownPeer peers kind).map (.peerUnknown kind.name), .ok plan⟩ ∧
      ∀ kind, (s.namespaces.Separate info.Remaps kind ∧
          plan kind = some (s.namespaces.entry peers kind)) ∨
        (¬ s.namespaces.Separate info.Remaps kind ∧ plan kind = none) := by
  have heach : ∀ kind ∈ NamespaceKind.joinable, _ := fun kind hkind =>
    planNamespace_of_text hpeers (hs.of hkind)
  obtain ⟨plan, hplan, hevents, hentries⟩ := planNamespaces_of_each hinfo
    fun kind hkind => ⟨_, congrArg Traced.outcome (heach kind hkind)⟩
  obtain ⟨remaps, hfound, hremaps⟩ := hinfo.remaps_iff
  obtain ⟨hmount, huser, hcgroup⟩ := plan_unjoined hfound hplan
  have hjoined : ∀ kind ∈ NamespaceKind.joinable,
      (s.namespaces.of kind ≠ .str "host" ∧ plan kind = some (s.namespaces.entry peers kind)) ∨
        (¬ s.namespaces.of kind ≠ .str "host" ∧ plan kind = none) := by
    intro kind hkind
    have hentry := hentries kind hkind
    rw [heach kind hkind, Except.ok.injEq] at hentry
    by_cases hhost : s.namespaces.of kind = .str "host"
    · rw [if_pos (isText_iff.mpr hhost)] at hentry
      exact .inr ⟨not_not_intro hhost, hentry.symm⟩
    · rw [if_neg (mt isText_iff.mp hhost)] at hentry
      exact .inl ⟨hhost, by rw [NamespaceModes.entry, if_pos hkind, hentry]⟩
  refine ⟨plan, ?_, fun kind => ?_⟩
  · have hremarks : (planNamespaces s info peers).events =
        NamespaceKind.joinable.filterMap fun kind =>
          (s.namespaces.unknownPeer peers kind).map (.peerUnknown kind.name) := by
      rw [hevents, List.filterMap_eq_flatMap_toList]
      exact List.flatMap_congr fun kind hkind => by rw [heach kind hkind, Option.toList_map]
    rw [← hplan, ← hremarks]
  · cases kind with
    | pid => exact hjoined .pid (by decide)
    | network => exact hjoined .network (by decide)
    | ipc => exact hjoined .ipc (by decide)
    | uts => exact hjoined .uts (by decide)
    | mount => exact .inl ⟨trivial, hmount⟩
    | user =>
      by_cases hseparate : info.Remaps ∧ s.namespaces.userns ≠ .str "host"
      · refine .inl ⟨hseparate, ?_⟩
        rw [huser, hremaps.mpr hseparate.1, Bool.eq_false_iff.mpr (mt isText_iff.mp hseparate.2)]
        rfl
      · refine .inr ⟨hseparate, huser.trans (if_neg ?_)⟩
        simpa [← isText_iff, ← hremaps] using hseparate
    | cgroup =>
      by_cases hprivate : s.namespaces.cgroupns = .str "private"
      · exact .inl ⟨hprivate, hcgroup.trans (if_pos (isText_iff.mpr hprivate))⟩
      · exact .inr ⟨hprivate, hcgroup.trans (if_neg (mt isText_iff.mp hprivate))⟩

theorem NamespaceKind.name_injective : Function.Injective NamespaceKind.name := by
  intro kind other h
  have hlabel : kind.label = other.label := Json.str.inj h
  rw [← Option.some_inj, ← NamespaceKind.ofLabel?_label, ← NamespaceKind.ofLabel?_label, hlabel]

def joinedFile? : NamespaceKind → Option String
  | .pid => some "pid"
  | .network => some "net"
  | .ipc => some "ipc"
  | .uts => some "uts"
  | _ => none

private theorem processFile_of_joinedFile? {kind : NamespaceKind} {file : String}
    (h : joinedFile? kind = some file) (pid : Int) :
    processFile pid kind = "/proc/" ++ Text.numeral pid ++ "/ns/" ++ file := by
  have hfile : "/" ++ kind.file = "/ns/" ++ file := by
    cases kind <;> cases h <;> rfl
  rw [processFile, String.append_assoc, hfile, ← String.append_assoc]

private theorem mem_joinable_iff {kind : NamespaceKind} :
    kind ∈ NamespaceKind.joinable ↔ ∃ file, joinedFile? kind = some file := by
  cases kind <;> simp [NamespaceKind.joinable, joinedFile?]

/-- Every kind once at most and in order, exactly the kinds that are not shared with the host, and a
path exactly for those of another container's process. -/
structure NamespacesOf (m : NamespaceModes) (remaps : Prop) (peers : Json)
    (list : List Descriptor.Namespace) : Prop where
  inOrder : (list.map (·.kind)).Sublist (NamespaceKind.all.map (·.name))
  once : (list.map (·.kind)).Nodup
  present : ∀ kind : NamespaceKind, kind.name ∈ list.map (·.kind) ↔ m.Separate remaps kind
  path : ∀ kind : NamespaceKind, ∀ entry ∈ list, entry.kind = kind.name → ∀ path,
    entry.path = some path ↔ ∃ file ref pid, joinedFile? kind = some file ∧
      m.of kind = .str ("container:" ++ ref) ∧ knownProcess? peers ref = some pid ∧
        path = "/proc/" ++ Text.numeral pid ++ "/ns/" ++ file

private theorem kinds_filterMap {plan : NamespacePlan}
    (h : ∀ kind entry, plan kind = some entry → entry.kind = kind.name)
    (kinds : List NamespaceKind) : (kinds.filterMap plan).map (·.kind) =
      (kinds.filter fun kind => (plan kind).isSome).map (·.name) := by
  induction kinds with
  | nil => rfl
  | cons kind rest ih =>
    cases hplan : plan kind with
    | none => simp [hplan, ih]
    | some entry => simp [hplan, ih, h kind entry hplan]

private theorem entry_path_iff {m : NamespaceModes} {peers : Json} {kind : NamespaceKind}
    {path : String} :
    (m.entry peers kind).path = some path ↔ ∃ file ref pid, joinedFile? kind = some file ∧
      m.of kind = .str ("container:" ++ ref) ∧ knownProcess? peers ref = some pid ∧
        path = "/proc/" ++ Text.numeral pid ++ "/ns/" ++ file := by
  have hmark : "container:" = peerMark := rfl
  by_cases hkind : kind ∈ NamespaceKind.joinable
  · obtain ⟨file, hfile⟩ := mem_joinable_iff.mp hkind
    simp [NamespaceModes.entry, hkind, NamespaceModes.joinedPath, Option.bind_eq_some_iff,
      NamespaceModes.joins_eq_some_iff, hfile, hmark, processFile_of_joinedFile? hfile,
      @eq_comm _ path]
  · have hnone : ∀ file, joinedFile? kind ≠ some file := by
      intro file hfile
      exact hkind (mem_joinable_iff.mpr ⟨file, hfile⟩)
    simp [NamespaceModes.entry, hkind, hnone]

private theorem namespacesOf_listed {m : NamespaceModes} {remaps : Prop} {peers : Json}
    {plan : NamespacePlan}
    (h : ∀ kind, (m.Separate remaps kind ∧ plan kind = some (m.entry peers kind)) ∨
      (¬ m.Separate remaps kind ∧ plan kind = none)) :
    NamespacesOf m remaps peers (listed plan) := by
  have hentry : ∀ kind entry, plan kind = some entry → entry = m.entry peers kind := by
    intro kind entry hplan
    rcases h kind with ⟨-, hsome⟩ | ⟨-, hnone⟩
    · exact Option.some.inj (hplan.symm.trans hsome)
    · rw [hnone] at hplan
      cases hplan
  have hseparate : ∀ kind, (plan kind).isSome ↔ m.Separate remaps kind := by
    intro kind
    rcases h kind with ⟨hseparate, hplan⟩ | ⟨hshared, hplan⟩
    · simp [hplan, hseparate]
    · simp [hplan, hshared]
  have hname : ∀ kind entry, plan kind = some entry → entry.kind = kind.name := by
    intro kind entry hplan
    rw [hentry kind entry hplan]
    rfl
  have hkinds := kinds_filterMap hname NamespaceKind.all
  constructor
  case inOrder =>
    rw [listed, hkinds]
    exact List.filter_sublist.map _
  case once =>
    rw [listed, hkinds]
    exact (List.Nodup.filter _ (by decide)).map NamespaceKind.name_injective
  case present =>
    intro kind
    have hall : kind ∈ NamespaceKind.all := by cases kind <;> decide
    rw [listed, hkinds, List.mem_map_of_injective NamespaceKind.name_injective, List.mem_filter]
    simpa [hall] using hseparate kind
  case path =>
    intro kind entry hmem hkind path
    obtain ⟨other, -, hplan⟩ := List.mem_filterMap.mp hmem
    obtain rfl := hentry other entry hplan
    obtain rfl := NamespaceKind.name_injective hkind
    exact entry_path_iff

def unjoinedRemark (kind : NamespaceKind) (ref : String) : Remark :=
  ⟨.warning, "ocigen.namespaces", kind.label ++ " namespace joins container " ++ ref ++
    " but its pid is unknown, using a new namespace"⟩

private theorem warnings_unknownPeers (m : NamespaceModes) (peers : Json)
    (kinds : List NamespaceKind) :
    warnings (kinds.filterMap fun kind => (m.unknownPeer peers kind).map (.peerUnknown kind.name)) =
      kinds.filterMap fun kind => (m.unknownPeer peers kind).map (unjoinedRemark kind) := by
  rw [warnings_eq_remarks, remarks, List.filterMap_filterMap]
  · refine List.filterMap_congr fun kind _ => ?_
    cases m.unknownPeer peers kind <;> rfl
  · intro event hevent r hr
    obtain ⟨kind, -, hkind⟩ := List.mem_filterMap.mp hevent
    obtain ⟨ref, -, rfl⟩ := Option.map_eq_some_iff.mp hkind
    cases hr
    rfl

/-- Modes that are texts give the namespaces, and a warning for each process that is not known. -/
theorem namespaces_by_modes {s : Snapshot} {info : DaemonInfo} {peers : Json}
    (hs : s.namespaces.Declared) (hinfo : info.Declared) (hpeers : PeerTable peers) :
    ∃ plan, (planNamespaces s info peers).outcome = .ok plan ∧
      NamespacesOf s.namespaces info.Remaps peers (listed plan) ∧
      warnings (planNamespaces s info peers).events =
        NamespaceKind.joinable.filterMap fun kind =>
          (s.namespaces.unknownPeer peers kind).map (unjoinedRemark kind) := by
  obtain ⟨plan, hplan, hentries⟩ := planNamespaces_of_texts hs hinfo hpeers
  rw [hplan]
  exact ⟨plan, rfl, namespacesOf_listed hentries, warnings_unknownPeers _ _ _⟩

theorem namespaces_by_modes_of_joined :
    let modes : NamespaceModes :=
      { network := .str "container:db", pid := .str "host", ipc := .str "container:gone"
        cgroupns := .str "private" }
    let s : Snapshot := { id := .str "web", namespaces := modes }
    let info : DaemonInfo := { securityOptions := [.str "name=userns"] }
    let peers : Json := .obj [("db", .int 77)]
    ∃ plan, (planNamespaces s info peers).outcome = .ok plan ∧
      NamespacesOf modes info.Remaps peers (listed plan) ∧
      (listed plan).map (·.kind) =
        ["network", "ipc", "uts", "mount", "user", "cgroup"].map Json.str ∧
      (listed plan).map (·.path) = [some "/proc/77/ns/net", none, none, none, none, none] ∧
      warnings (planNamespaces s info peers).events = [unjoinedRemark .ipc "gone"] := by
  intro modes s info peers
  have hs : s.namespaces.Declared :=
    ⟨isText_str _, isText_str _, isText_str _, isText_str _, isText_str _, isText_str _⟩
  have hinfo : info.Declared :=
    { DaemonInfo.declared_default with securityOptions := by simp [info, isText_str] }
  have hpeers : PeerTable peers := by
    refine .inr ⟨_, rfl, ?_⟩
    simp only [List.mem_singleton, forall_eq]
    exact ⟨77, rfl, by decide⟩
  obtain ⟨plan, hplan, hlisted, hwarnings⟩ := namespaces_by_modes hs hinfo hpeers
  have hlist : listed <$> (planNamespaces s info peers).outcome = .ok
      [{ kind := .str "network", path := some "/proc/77/ns/net" }, { kind := .str "ipc" },
        { kind := .str "uts" }, { kind := .str "mount" }, { kind := .str "user" },
        { kind := .str "cgroup" }] := by cbv
  rw [hplan] at hlist
  have hlist := Except.ok.inj hlist
  refine ⟨plan, hplan, hlisted, ?_, ?_, hwarnings.trans ?_⟩
  · rw [hlist]
    rfl
  · rw [hlist]
    rfl
  · decide +kernel

end Conversion

end ContainerBundle
