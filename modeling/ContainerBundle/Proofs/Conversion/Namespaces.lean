import ContainerBundle.Conversion.Namespaces
import ContainerBundle.Proofs.Daemon.Declared
/-!
# Planned namespaces

One statement for each way in which a mode that is a text plans a kind of namespace: shared with
the host, the container's own, joined, or its own because the process to join is not known.
-/
namespace ContainerBundle

def NamespaceModes.of (m : NamespaceModes) : NamespaceKind → Json
  | .pid => m.pid
  | .network => m.network
  | .ipc => m.ipc
  | .uts => m.uts
  | .mount => .null
  | .user => m.userns
  | .cgroup => m.cgroupns

/-- The kinds of namespace that a container can join, in the order in which they are planned. -/
def NamespaceKind.joinable : List NamespaceKind := [.pid, .network, .ipc, .uts]

theorem NamespaceModes.Declared.of {m : NamespaceModes} (h : m.Declared) {kind : NamespaceKind}
    (hkind : kind ∈ NamespaceKind.joinable) : (m.of kind).IsText := by
  simp only [NamespaceKind.joinable, List.mem_cons, List.not_mem_nil, or_false] at hkind
  rcases hkind with rfl | rfl | rfl | rfl
  · exact h.pid
  · exact h.network
  · exact h.ipc
  · exact h.uts

namespace Conversion

open Descriptor

theorem peerOf?_eq_some_iff {mode ref : String} :
    peerOf? mode = some ref ↔ mode = peerMark ++ ref := by
  simp only [peerOf?, Option.map_eq_some_iff, Text.after?_eq_some_iff]
  constructor
  · rintro ⟨rest, hmode, rfl⟩
    rw [← String.toList_inj, hmode, String.toList_append, String.toList_ofList]
  · rintro rfl
    exact ⟨ref.toList, String.toList_append, String.ofList_toList⟩

theorem peerOf?_host : peerOf? "host" = none := by decide

def processFile (pid : Int) (kind : NamespaceKind) : String :=
  "/proc/" ++ Text.numeral pid ++ "/" ++ kind.file

variable {kind : NamespaceKind} {mode ref : String} {peers : Json}

theorem namespacePath_mention (pid : Json) : namespacePath pid kind.name =
    .ok ("/proc/" ++ pid.mention ++ "/" ++ kind.file) := by
  have hnamed : namedKind kind.name = .ok kind := by
    simp only [namedKind, NamespaceKind.name, Json.hashable, ok_bind,
      NamespaceKind.ofLabel?_label]
    rfl
  rw [namespacePath, hnamed]
  rfl

private theorem namespacePath_name (pid : Int) : namespacePath (.int pid) kind.name =
    .ok (processFile pid kind) :=
  namespacePath_mention (.int pid)

theorem planNamespace_host : planNamespace kind.name (.str "host") peers = pure none := rfl

theorem planNamespace_own (hhost : mode ≠ "host") (hpeer : peerOf? mode = none) :
    planNamespace kind.name (.str mode) peers = pure (some { kind := kind.name }) := by
  simp [planNamespace, Json.isText, hhost, Json.text, hpeer]

private theorem ne_host_of_peer (hpeer : peerOf? mode = some ref) : mode ≠ "host" := by
  rintro rfl
  rw [peerOf?_host] at hpeer
  simp at hpeer

theorem planNamespace_joined {pid : Int} (hpeer : peerOf? mode = some ref)
    (hpid : peerProcess peers ref = .ok (.int pid)) (hset : pid ≠ 0) :
    planNamespace kind.name (.str mode) peers =
      pure (some { kind := kind.name, path := some (processFile pid kind) }) := by
  simp [planNamespace, Json.isText, ne_host_of_peer hpeer, Json.text, hpeer, hpid, Json.isVoid,
    hset, namespacePath_name]

theorem planNamespace_unknown {pid : Json} (hpeer : peerOf? mode = some ref)
    (hpid : peerProcess peers ref = .ok pid) (hvoid : pid.isVoid) :
    planNamespace kind.name (.str mode) peers =
      ⟨[.peerUnknown kind.name ref], .ok (some { kind := kind.name })⟩ := by
  simp [planNamespace, Json.isText, ne_host_of_peer hpeer, Json.text, hpeer, hpid, hvoid]
  rfl

/-- The plan holds the entries of the kinds, and its remarks are those of the kinds in turn. -/
theorem planNamespaces_of_each {s : Snapshot} {info : DaemonInfo} (hinfo : info.Declared)
    (h : ∀ kind ∈ NamespaceKind.joinable, ∃ entry,
      (planNamespace kind.name (s.namespaces.of kind) peers).outcome = .ok entry) :
    ∃ plan, (planNamespaces s info peers).outcome = .ok plan ∧
      (planNamespaces s info peers).events = NamespaceKind.joinable.flatMap (fun kind =>
        (planNamespace kind.name (s.namespaces.of kind) peers).events) ∧
      ∀ kind ∈ NamespaceKind.joinable,
        (planNamespace kind.name (s.namespaces.of kind) peers).outcome = .ok (plan kind) := by
  simp only [NamespaceKind.joinable, List.forall_mem_cons, NamespaceModes.of] at h
  obtain ⟨⟨pid, hpid⟩, ⟨network, hnetwork⟩, ⟨ipc, hipc⟩, ⟨uts, huts⟩, -⟩ := h
  obtain ⟨remaps, hremaps⟩ := hinfo.usernsRemap
  apply Exists.intro
  refine ⟨?ends, ?remarks, ?holds⟩
  case ends =>
    simp only [planNamespaces, Traced.outcome_bind, hpid, hnetwork, hipc, huts, hremaps, ok_bind,
      Traced.liftM_eq_ofExcept, Traced.ofExcept_outcome, Traced.pure_outcome]
    rfl
  case remarks =>
    simp only [planNamespaces, Traced.events_bind_of_ok hpid, Traced.events_bind_of_ok hnetwork,
      Traced.events_bind_of_ok hipc, Traced.events_bind_of_ok huts, hremaps,
      Traced.liftM_eq_ofExcept, Traced.ofExcept_ok, pure_bind, Traced.pure_events,
      NamespaceKind.joinable, List.flatMap_cons, List.flatMap_nil, NamespaceModes.of]
  case holds =>
    simp only [NamespaceKind.joinable, List.forall_mem_cons, NamespaceModes.of]
    exact ⟨hpid, hnetwork, hipc, huts, by simp⟩

end Conversion

end ContainerBundle
