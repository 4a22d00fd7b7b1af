import Mathlib.Data.List.Basic
import ContainerBundle.Proofs.Conversion.NamespaceList
import ContainerBundle.Proofs.Conversion.Privilege
/-!
# Host names and the namespaces that they are set in

A container that shares the host's namespace has no host name. Every other one has the name of its
snapshot, and an entry for the namespace: its own, or that of another container's process. The name
is then set in the other container's namespace.
-/
namespace ContainerBundle

open Json Descriptor

namespace NamespaceModes

/-- The mode names a container, and the table gives its process. -/
def JoinedAt (m : NamespaceModes) (peers : Json) (kind : NamespaceKind) (path : String) : Prop :=
  ∃ ref pid, m.of kind = .str (Conversion.peerMark ++ ref) ∧
    Conversion.peerProcess peers ref = .ok pid ∧ pid.isVoid = false ∧
    path = "/proc/" ++ pid.mention ++ "/" ++ kind.file

variable {m : NamespaceModes} {peers pid : Json} {kind : NamespaceKind} {ref path other : String}

private theorem joinedAt_iff (hmode : m.of kind = .str (Conversion.peerMark ++ ref))
    (hpid : Conversion.peerProcess peers ref = .ok pid) : m.JoinedAt peers kind path ↔
      pid.isVoid = false ∧ path = "/proc/" ++ pid.mention ++ "/" ++ kind.file := by
  constructor
  · rintro ⟨named, process, hnamed, hprocess, hset, hpath⟩
    obtain rfl : ref = named := by
      rw [← joins_eq_some_iff] at hmode hnamed
      exact Option.some.inj (hmode.symm.trans hnamed)
    obtain rfl := Except.ok.inj (hpid.symm.trans hprocess)
    exact ⟨hset, hpath⟩
  · rintro ⟨hset, hpath⟩
    exact ⟨ref, pid, hmode, hpid, hset, hpath⟩

theorem JoinedAt.unique (h : m.JoinedAt peers kind path) (hother : m.JoinedAt peers kind other) :
    path = other := by
  obtain ⟨ref, pid, hmode, hpid, -, rfl⟩ := h
  exact ((joinedAt_iff hmode hpid).mp hother).2.symm

private theorem JoinedAt.isSome_peerOf? {mode : String} (h : m.JoinedAt peers kind path)
    (hmode : m.of kind = .str mode) : (Conversion.peerOf? mode).isSome := by
  obtain ⟨ref, -, hnamed, -⟩ := h
  rw [← joins_eq_some_iff, joins_of_text hmode] at hnamed
  rw [hnamed]
  rfl

theorem JoinedAt.ne_host (h : m.JoinedAt peers kind path) : m.of kind ≠ .str "host" := by
  intro hmode
  have hpeer := h.isSome_peerOf? hmode
  rw [Conversion.peerOf?_host] at hpeer
  cases hpeer

end NamespaceModes

namespace Descriptor.Runtime

def Separates (d : Runtime) (kind : NamespaceKind) : Prop :=
  ∃ entry ∈ d.linux.namespaces, entry.kind = kind.name

/-- The container has a namespace of a kind that is neither the host's nor another container's. -/
def HasOwn (d : Runtime) (kind : NamespaceKind) : Prop :=
  ∃ entry ∈ d.linux.namespaces, entry.kind = kind.name ∧ entry.path = none

end Descriptor.Runtime

namespace Conversion

variable {m : NamespaceModes} {kind : NamespaceKind} {peers : Json} {entry : Option Namespace}

/-- The ways to plan a kind of namespace. -/
inductive Planned (m : NamespaceModes) (peers : Json) (kind : NamespaceKind) :
    Option Namespace → Prop
  | shared (hmode : m.of kind = .str "host") : Planned m peers kind none
  | own (hmode : m.of kind ≠ .str "host") (hjoined : ∀ path, ¬ m.JoinedAt peers kind path) :
      Planned m peers kind (some { kind := kind.name })
  | joined {path : String} (hjoined : m.JoinedAt peers kind path) :
      Planned m peers kind (some { kind := kind.name, path := some path })

/-- Whatever is planned for a kind is planned in the way that its mode and the table ask for. -/
theorem planned_of_outcome
    (h : (planNamespace kind.name (m.of kind) peers).outcome = .ok entry) :
    Planned m peers kind entry := by
  rw [planNamespace] at h
  by_cases hhost : m.of kind = .str "host"
  · rw [if_pos (isText_iff.mpr hhost)] at h
    cases h
    exact .shared hhost
  rw [if_neg (mt isText_iff.mp hhost)] at h
  obtain ⟨mode, hmode, h⟩ := Traced.bind_eq_ok_iff.mp h
  replace hmode : m.of kind = .str mode := by
    cases hof : m.of kind <;> rw [hof] at hmode <;> cases hmode
    rfl
  cases hpeer : peerOf? mode with
  | none =>
    simp only [hpeer] at h
    cases h
    refine .own hhost fun path hjoined => ?_
    have hnamed := hjoined.isSome_peerOf? hmode
    rw [hpeer] at hnamed
    cases hnamed
  | some ref =>
    simp only [hpeer] at h
    obtain ⟨pid, hpid, h⟩ := Traced.bind_eq_ok_iff.mp h
    rw [peerOf?_eq_some_iff.mp hpeer] at hmode
    have hjoined : ∀ path, _ := fun path => @NamespaceModes.joinedAt_iff _ _ _ _ _ path hmode hpid
    -- A process that is void is as good as unknown: the kind has a namespace of its own.
    by_cases hvoid : pid.isVoid
    · rw [if_pos hvoid] at h
      cases h
      exact .own hhost fun path hpath => by simp [hjoined, hvoid] at hpath
    · rw [if_neg hvoid, namespacePath_mention] at h
      cases h
      exact .joined ((hjoined _).mpr ⟨Bool.eq_false_iff.mpr hvoid, rfl⟩)

namespace Planned

variable {e : Namespace} {path : String}

private theorem isSome_iff (h : Planned m peers kind entry) :
    entry.isSome ↔ m.of kind ≠ .str "host" := by
  cases h with
  | shared hmode => simp [hmode]
  | own hmode => simp [hmode]
  | joined hjoined => simp [hjoined.ne_host]

theorem kind_eq (h : Planned m peers kind entry) (hentry : entry = some e) :
    e.kind = kind.name := by
  subst hentry
  cases h <;> rfl

private theorem path_iff (h : Planned m peers kind entry) (hentry : entry = some e) :
    e.path = some path ↔ m.JoinedAt peers kind path := by
  subst hentry
  cases h with
  | own _ hjoined => simp [hjoined]
  | joined hjoined =>
    rw [Option.some.injEq]
    constructor
    · rintro rfl
      exact hjoined
    · exact hjoined.unique

end Planned

private theorem planned_of_planNamespaces {s : Snapshot} {info : DaemonInfo} {plan : NamespacePlan}
    (h : (planNamespaces s info peers).outcome = .ok plan) :
    (∀ kind ∈ NamespaceKind.joinable, Planned s.namespaces peers kind (plan kind)) ∧
      ∀ kind entry, plan kind = some entry → entry.kind = kind.name := by
  rw [planNamespaces] at h
  obtain ⟨pid, hpid, h⟩ := Traced.bind_eq_ok_iff.mp h
  obtain ⟨network, hnetwork, h⟩ := Traced.bind_eq_ok_iff.mp h
  obtain ⟨ipc, hipc, h⟩ := Traced.bind_eq_ok_iff.mp h
  obtain ⟨uts, huts, h⟩ := Traced.bind_eq_ok_iff.mp h
  obtain ⟨remaps, -, h⟩ := Traced.bind_eq_ok_iff.mp h
  cases h
  have hpid : Planned s.namespaces peers .pid pid := planned_of_outcome hpid
  have hnetwork : Planned s.namespaces peers .network network := planned_of_outcome hnetwork
  have hipc : Planned s.namespaces peers .ipc ipc := planned_of_outcome hipc
  have huts : Planned s.namespaces peers .uts uts := planned_of_outcome huts
  refine ⟨?_, fun kind entry hentry => ?_⟩
  · simp only [NamespaceKind.joinable, List.forall_mem_cons]
    exact ⟨hpid, hnetwork, hipc, huts, by simp⟩
  · cases kind with
    | pid => exact hpid.kind_eq hentry
    | network => exact hnetwork.kind_eq hentry
    | ipc => exact hipc.kind_eq hentry
    | uts => exact huts.kind_eq hentry
    | mount => cases hentry; rfl
    | user =>
      simp only [Option.ite_none_right_eq_some] at hentry
      rw [← Option.some.inj hentry.2]
    | cgroup =>
      simp only [Option.ite_none_right_eq_some] at hentry
      rw [← Option.some.inj hentry.2]

private theorem mem_listed_iff {plan : NamespacePlan} {e : Namespace}
    (h : ∀ kind entry, plan kind = some entry → entry.kind = kind.name) :
    e ∈ listed plan ∧ e.kind = kind.name ↔ plan kind = some e := by
  rw [listed, List.mem_filterMap]
  constructor
  · rintro ⟨⟨other, -, hother⟩, hkind⟩
    obtain rfl := NamespaceKind.name_injective ((h other e hother).symm.trans hkind)
    exact hother
  · intro hplan
    exact ⟨⟨kind, by cases kind <;> decide, hplan⟩, h kind e hplan⟩

variable {stat : Examiner} {s : Snapshot} {info : DaemonInfo} {capabilities : Json} {d : Runtime}

structure NamedByMode (s : Snapshot) (peers : Json) (d : Runtime) : Prop where
  shared : s.namespaces.uts = .str "host" → d.hostname = .str "" ∧ ¬ d.Separates .uts
  separate : s.namespaces.uts ≠ .str "host" → hostname s = .ok d.hostname ∧ d.Separates .uts
  path : ∀ entry ∈ d.linux.namespaces, entry.kind = NamespaceKind.uts.name → ∀ path,
    entry.path = some path ↔ s.namespaces.JoinedAt peers .uts path

private theorem namedByMode_of_runtime
    (h : (runtime stat s info capabilities peers).outcome = .ok d) :
    NamedByMode s peers d := by
  -- The list of namespaces and the host name come from one plan.
  obtain ⟨plan, -, hplan, -, hlist, -, -, hname⟩ := steps_of_runtime h
  obtain ⟨hplanned, hkinds⟩ := planned_of_planNamespaces hplan
  have huts : Planned s.namespaces peers .uts (plan .uts) := hplanned .uts (by decide)
  have hentry : ∀ e, e ∈ d.linux.namespaces ∧ e.kind = NamespaceKind.uts.name ↔
      plan .uts = some e := by
    intro e
    rw [hlist]
    exact mem_listed_iff hkinds
  have hseparates : d.Separates .uts ↔ (plan .uts).isSome := by
    simp only [Runtime.Separates, hentry, Option.isSome_iff_exists]
  constructor
  case shared =>
    intro hhost
    have hnone : ¬ (plan .uts).isSome := mt huts.isSome_iff.mp (not_not_intro hhost)
    rw [if_neg hnone] at hname
    exact ⟨(Except.ok.inj hname).symm, mt hseparates.mp hnone⟩
  case separate =>
    intro hhost
    have hsome : (plan .uts).isSome := huts.isSome_iff.mpr hhost
    rw [if_pos hsome] at hname
    exact ⟨hname, hseparates.mpr hsome⟩
  case path =>
    intro e he hkind path
    exact huts.path_iff ((hentry e).mp ⟨he, hkind⟩)

private theorem NamedByMode.hasOwn_iff (h : NamedByMode s peers d)
    (hmode : s.namespaces.uts ≠ .str "host") :
    d.HasOwn .uts ↔ ∀ path, ¬ s.namespaces.JoinedAt peers .uts path := by
  constructor
  · rintro ⟨e, he, hkind, hnone⟩ path hjoined
    have hsome := (h.path e he hkind path).mpr hjoined
    rw [hnone] at hsome
    cases hsome
  · intro hnone
    obtain ⟨-, e, he, hkind⟩ := h.separate hmode
    refine ⟨e, he, hkind, Option.eq_none_iff_forall_ne_some.mpr fun path hpath => ?_⟩
    exact hnone path ((h.path e he hkind path).mp hpath)

/-- The host name is set outside a namespace of the container's own exactly when the snapshot has
one and another container's namespace is joined. -/
theorem hostname_outside_own_namespace_iff
    (h : (runtime stat s info capabilities peers).outcome = .ok d) :
    NamedByMode s peers d ∧
    (d.hostname ≠ .str "" ∧ ¬ d.HasOwn .uts ↔
      hostname s ≠ .ok (.str "") ∧ ∃ path, s.namespaces.JoinedAt peers .uts path) := by
  have hnamed := namedByMode_of_runtime h
  refine ⟨hnamed, ?_⟩
  by_cases hmode : s.namespaces.uts = .str "host"
  · have hunjoined : ¬ ∃ path, s.namespaces.JoinedAt peers .uts path := by
      rintro ⟨path, hjoined⟩
      exact hjoined.ne_host hmode
    simp [(hnamed.shared hmode).1, hunjoined]
  · rw [hnamed.hasOwn_iff hmode, (hnamed.separate hmode).1]
    simp only [not_forall_not, ne_eq, Except.ok.injEq]

theorem hostname_outside_own_namespace_iff_of_own :
    let s : Snapshot := { id := .str "web", hostname := .str "web-1" }
    ∃ d, (runtime (fun _ => .error (.system .missing)) s {} (.arr []) .null).outcome = .ok d ∧
      NamedByMode s .null d ∧ d.hostname = .str "web-1" ∧ d.HasOwn .uts := by
  intro s
  have hruns : ∃ d, (runtime (fun _ => .error (.system .missing)) s {} (.arr []) .null).outcome =
      .ok d ∧ d.hostname = .str "web-1" := ⟨_, rfl, rfl⟩
  obtain ⟨d, hd, hname⟩ := hruns
  obtain ⟨hnamed, houtside⟩ := hostname_outside_own_namespace_iff hd
  refine ⟨d, hd, hnamed, hname, ?_⟩
  by_contra hown
  obtain ⟨-, path, hjoined⟩ := houtside.mp ⟨by simp [hname], hown⟩
  have hpeer := hjoined.isSome_peerOf? rfl
  cases hpeer

/-- The host name is set in the namespace of the other container. -/
theorem hostname_of_joined_namespace :
    let s : Snapshot :=
      { id := .str "web", hostname := .str "web-1", namespaces := { uts := .str "container:db" } }
    let peers : Json := .obj [("db", .int 77)]
    ∃ d, (runtime (fun _ => .error (.system .missing)) s {} (.arr []) peers).outcome = .ok d ∧
      d.hostname = .str "web-1" ∧ ¬ d.HasOwn .uts ∧ ∃ entry ∈ d.linux.namespaces,
        entry.kind = .str "uts" ∧ entry.path = some "/proc/77/ns/uts" := by
  intro s peers
  have hruns : ∃ d, (runtime (fun _ => .error (.system .missing)) s {} (.arr []) peers).outcome =
      .ok d ∧ d.hostname = .str "web-1" := ⟨_, rfl, rfl⟩
  obtain ⟨d, hd, hname⟩ := hruns
  have hnamed := namedByMode_of_runtime hd
  have hjoined : s.namespaces.JoinedAt peers .uts "/proc/77/ns/uts" :=
    ⟨"db", .int 77, rfl, rfl, rfl, rfl⟩
  obtain ⟨-, entry, hentry, hkind⟩ := hnamed.separate hjoined.ne_host
  refine ⟨d, hd, hname, ?_, entry, hentry, hkind, (hnamed.path entry hentry hkind _).mpr hjoined⟩
  rw [hnamed.hasOwn_iff hjoined.ne_host]
  exact fun hunjoined => hunjoined _ hjoined

end Conversion

end ContainerBundle
