import Mathlib
import ContainerBundle.Proofs.Conversion.Namespaces
import ContainerBundle.Proofs.Daemon.Answers
/-!
# Joined containers

The client asks for the processes of the containers whose network, process and message queue
namespaces are joined, and the planner joins every container that the client asked for. A
container that is joined by its host name only is not asked for, and is not joined.
-/
namespace ContainerBundle

open Json

namespace NamespaceModes

def joins (m : NamespaceModes) (kind : NamespaceKind) : Option String :=
  match m.of kind with
  | .str mode => Conversion.peerOf? mode
  | _ => none

theorem joins_eq_some_iff {m : NamespaceModes} {kind : NamespaceKind} {ref : String} :
    m.joins kind = some ref ↔ m.of kind = .str (Conversion.peerMark ++ ref) := by
  cases hmode : m.of kind <;> simp [joins, hmode, Conversion.peerOf?_eq_some_iff]

/-- The containers that the client asks for, in its order. -/
def asked (m : NamespaceModes) : List String :=
  [NamespaceKind.network, .pid, .ipc].flatMap (fun kind => (m.joins kind).toList)

def unasked (m : NamespaceModes) (kind : NamespaceKind) : Option String :=
  (m.joins kind).filter (fun ref => ref ∉ m.asked)

theorem joins_of_text {m : NamespaceModes} {kind : NamespaceKind} {mode : String}
    (h : m.of kind = .str mode) : m.joins kind = Conversion.peerOf? mode := by
  rw [joins, h]

private theorem exists_of_mem_asked {m : NamespaceModes} {ref : String} (h : ref ∈ m.asked) :
    ∃ kind ∈ NamespaceKind.joinable, m.joins kind = some ref := by
  obtain ⟨kind, hkind, href⟩ := List.mem_flatMap.mp h
  refine ⟨kind, ?_, by simpa using href⟩
  simp only [List.mem_cons, List.not_mem_nil, or_false] at hkind
  rcases hkind with rfl | rfl | rfl <;> decide

private theorem unasked_of_ne_uts {m : NamespaceModes} {kind : NamespaceKind}
    (hkind : kind ∈ NamespaceKind.joinable) (huts : kind ≠ .uts) : m.unasked kind = none := by
  have hlisted : kind ∈ [NamespaceKind.network, .pid, .ipc] := by
    simp only [NamespaceKind.joinable, List.mem_cons, List.not_mem_nil, or_false] at hkind
    rcases hkind with rfl | rfl | rfl | rfl <;> simp_all
  rw [unasked, Option.filter_eq_none_iff]
  intro ref href
  have hasked : ref ∈ m.asked := List.mem_flatMap.mpr ⟨kind, hlisted, by simp [href]⟩
  simpa using hasked

end NamespaceModes

namespace Daemon

variable {d : Daemon} {s : Snapshot} {info : DaemonInfo} {known : Peers} {pid : String → Int}
  {refs : List String} {m : NamespaceModes} {kind : NamespaceKind}

/-- The daemon knows a container and tells its process, a positive number. -/
def Tells (d : Daemon) (ref : String) (pid : Int) : Prop :=
  ∃ members state, (d.inspect (.str ref)).outcome = .ok (.obj members) ∧
    find? "State" members = some (.obj state) ∧ find? "Pid" state = some (.int pid) ∧ 0 < pid

private theorem isVoid_of_pos {n : Int} (h : 0 < n) : (int n).isVoid = false := by
  have : n ≠ 0 := by omega
  simp [isVoid, this]

private theorem Tells.of_output {text : String} {members state : List (String × Json)} {n : Int}
    (hhost : d.host.IsText) (hbinary : d.binary.IsText)
    (hrun : ∀ command, d.run command = .output (.str text))
    (hread : Json.read d.limits text = .ok (.obj members))
    (hstate : find? "State" members = some (.obj state)) (hpid : find? "Pid" state = some (.int n))
    (hpos : 0 < n) (ref : String) : d.Tells ref n := by
  obtain ⟨command, hcommand⟩ := @command_of_texts d (.container (.str ref)) hhost hbinary
    (isText_str ref)
  exact ⟨members, state, object_of_read hcommand (hrun command) hread rfl, hstate, hpid, hpos⟩

private theorem Tells.pos {ref : String} {n : Int} (h : d.Tells ref n) : 0 < n := by
  obtain ⟨_, _, _, _, _, hpos⟩ := h
  exact hpos

theorem Tells.processOf {ref : String} {n : Int} (h : d.Tells ref n) :
    ∃ v, (d.inspect (.str ref)).outcome = .ok v ∧ processOf v = .ok (.int n) := by
  obtain ⟨members, state, hinspect, hstate, hpid, hpos⟩ := h
  have hset : (obj state).isVoid = false := by
    cases state with
    | nil => simp [find?] at hpid
    | cons m rest => rfl
  refine ⟨_, hinspect, ?_⟩
  simp [Daemon.processOf, given, member, hstate, hpid, orElse, hset, isVoid_of_pos hpos,
    Except.map]

/-- A table that holds the processes of the containers `refs` and no others. -/
def Knows (known : Peers) (pid : String → Int) (refs : List String) : Prop :=
  ∀ ref, find? ref known = if ref ∈ refs then some (.int (pid ref)) else none

/-- One mode adds the container that it joins to the table. -/
private theorem addPeer_knows (hmode : (m.of kind).IsText) (hknown : Knows known pid refs)
    (htells : ∀ ref, m.joins kind = some ref → d.Tells ref (pid ref)) :
    ∃ known', (d.addPeer (m.of kind) known).outcome = .ok known' ∧
      Knows known' pid (refs ++ (m.joins kind).toList) := by
  obtain ⟨mode, hmode⟩ := hmode
  rw [NamespaceModes.joins_of_text hmode] at htells ⊢
  rw [hmode]
  cases hpeer : Conversion.peerOf? mode with
  | none => exact ⟨known, by simp [addPeer, Json.text, hpeer], by simpa using hknown⟩
  | some ref =>
    by_cases hmem : ref ∈ refs
    · have hheld : (find? ref known).isSome := by simp [hknown ref, hmem]
      refine ⟨known, by simp [addPeer, Json.text, hpeer, hheld], fun other => ?_⟩
      have hsame : other ∈ refs ++ [ref] ↔ other ∈ refs := by grind
      simp only [Option.toList_some, hsame, hknown other]
    · have hfree : find? ref known = none := by simp [hknown ref, hmem]
      obtain ⟨v, hinspect, hprocess⟩ := (htells ref hpeer).processOf
      have hpos : 0 < pid ref := (htells ref hpeer).pos
      refine ⟨known ++ [(ref, .int (pid ref))], ?_, fun other => ?_⟩
      · simp [addPeer, Json.text, hpeer, hfree, Traced.outcome_bind, hinspect, hprocess,
          isVoid_of_pos hpos]
      · have hheld := hknown other
        simp only [find?, List.find?_append, Option.map_or] at hheld ⊢
        rw [hheld]
        by_cases hother : other = ref <;> grind

/-- The table of a container's peers holds the containers that were asked for. -/
private theorem peers_knows (hs : s.namespaces.Declared)
    (htells : ∀ kind ∈ NamespaceKind.joinable, ∀ ref, s.namespaces.joins kind = some ref →
      d.Tells ref (pid ref)) :
    ∃ known, (d.peers s).outcome = .ok known ∧ Knows known pid s.namespaces.asked := by
  have hstep : ∀ kind ∈ NamespaceKind.joinable, ∀ {known refs}, Knows known pid refs → _ :=
    fun kind hkind _ _ hknown => addPeer_knows (hs.of hkind) hknown (htells kind hkind)
  have hnone : Knows [] pid [] := fun ref => by simp [find?]
  obtain ⟨first, hfirst, hknown⟩ := hstep .network (by decide) hnone
  obtain ⟨second, hsecond, hknown⟩ := hstep .pid (by decide) hknown
  obtain ⟨third, hthird, hknown⟩ := hstep .ipc (by decide) hknown
  have hasked : s.namespaces.asked = (([] ++ (s.namespaces.joins .network).toList) ++
      (s.namespaces.joins .pid).toList) ++ (s.namespaces.joins .ipc).toList := by
    simp [NamespaceModes.asked]
  refine ⟨third, ?_, hasked ▸ hknown⟩
  simp only [NamespaceModes.of] at hfirst hsecond hthird
  simp only [peers, Traced.outcome_bind, hfirst, hsecond, hthird, ok_bind]

theorem Knows.peerProcess (hknown : Knows known pid refs) (ref : String) :
    Conversion.peerProcess (.obj known) ref =
      .ok (if ref ∈ refs then .int (pid ref) else .null) := by
  have hmember : (find? ref known).getD .null = if ref ∈ refs then .int (pid ref) else .null := by
    rw [hknown ref]
    split <;> rfl
  have hnothing : (obj []).member ref = .ok .null := rfl
  rw [Conversion.peerProcess, orElse]
  cases known with
  | nil =>
    have hfree : ref ∉ refs := by simpa [find?] using hknown ref
    simpa [isVoid, hfree] using hnothing
  | cons m rest => simp [isVoid, member, hmember]

def entryOf (pid : String → Int) (refs : List String) (kind : NamespaceKind) (ref : String) :
    Descriptor.Namespace :=
  { kind := kind.name
    path := if ref ∈ refs then some (Conversion.processFile (pid ref) kind) else none }

private theorem planNamespace_of_knows (hmode : (m.of kind).IsText) (hknown : Knows known pid refs)
    (hpos : ∀ ref ∈ refs, 0 < pid ref) :
    ∃ entry, (Conversion.planNamespace kind.name (m.of kind) (.obj known)).outcome = .ok entry ∧
      (Conversion.planNamespace kind.name (m.of kind) (.obj known)).events =
        ((m.joins kind).filter (fun ref => ref ∉ refs)).toList.map (.peerUnknown kind.name) ∧
      ∀ ref, m.joins kind = some ref → entry = some (entryOf pid refs kind ref) := by
  obtain ⟨mode, hmode⟩ := hmode
  rw [NamespaceModes.joins_of_text hmode, hmode]
  cases hpeer : Conversion.peerOf? mode with
  | none =>
    by_cases hhost : mode = "host"
    · subst hhost
      exact ⟨none, by simp [Conversion.planNamespace_host]⟩
    · exact ⟨some { kind := kind.name }, by simp [Conversion.planNamespace_own hhost hpeer]⟩
  | some ref =>
    have hprocess := hknown.peerProcess ref
    refine ⟨some (entryOf pid refs kind ref), ?_⟩
    by_cases hmem : ref ∈ refs
    · have hset : pid ref ≠ 0 := by
        have := hpos ref hmem
        omega
      rw [if_pos hmem] at hprocess
      rw [Conversion.planNamespace_joined hpeer hprocess hset]
      simp [entryOf, Option.filter, hmem]
    · rw [if_neg hmem] at hprocess
      rw [Conversion.planNamespace_unknown hpeer hprocess rfl]
      simp [entryOf, Option.filter, hmem]

/-- Every container that the client asks for is joined. One that is joined by its host name only
leaves a host name namespace of its own and the only remark. -/
theorem peers_joined (hs : s.namespaces.Declared) (hinfo : info.Declared)
    (htells : ∀ kind ∈ NamespaceKind.joinable, ∀ ref, s.namespaces.joins kind = some ref →
      d.Tells ref (pid ref)) :
    ∃ known plan, (d.peers s).outcome = .ok known ∧
      (Conversion.planNamespaces s info (.obj known)).outcome = .ok plan ∧
      (Conversion.planNamespaces s info (.obj known)).events =
        (s.namespaces.unasked .uts).toList.map (.peerUnknown NamespaceKind.uts.name) ∧
      ∀ kind ∈ NamespaceKind.joinable, ∀ ref, s.namespaces.joins kind = some ref →
        plan kind = some (entryOf pid s.namespaces.asked kind ref) := by
  obtain ⟨known, hpeers, hknown⟩ := peers_knows hs htells
  have hpos : ∀ ref ∈ s.namespaces.asked, 0 < pid ref := by
    intro ref href
    obtain ⟨kind, hkind, hjoins⟩ := NamespaceModes.exists_of_mem_asked href
    exact (htells kind hkind ref hjoins).pos
  have heach : ∀ kind ∈ NamespaceKind.joinable, _ := fun kind hkind =>
    planNamespace_of_knows (hs.of hkind) hknown hpos
  obtain ⟨plan, hplan, hremarks, hentries⟩ := Conversion.planNamespaces_of_each hinfo
    (fun kind hkind => (heach kind hkind).imp fun _ h => h.1)
  refine ⟨known, plan, hpeers, hplan, ?_, fun kind hkind ref hjoins => ?_⟩
  · have hevents : ∀ kind ∈ NamespaceKind.joinable,
        (Conversion.planNamespace kind.name (s.namespaces.of kind) (.obj known)).events =
          (s.namespaces.unasked kind).toList.map (.peerUnknown kind.name) := by
      intro kind hkind
      obtain ⟨_, -, hkindEvents, -⟩ := heach kind hkind
      exact hkindEvents
    have hquiet : ∀ kind ∈ NamespaceKind.joinable, kind ≠ .uts → s.namespaces.unasked kind = none :=
      fun kind => NamespaceModes.unasked_of_ne_uts
    rw [hremarks]
    simp only [NamespaceKind.joinable, List.forall_mem_cons] at hevents hquiet ⊢
    simp [hevents, hquiet]
  · obtain ⟨entry, hentry, -, hjoined⟩ := heach kind hkind
    rw [hentries kind hkind, Except.ok.injEq] at hentry
    rw [hentry, hjoined ref hjoins]

theorem peers_joined_network_and_uts :
    let d : Daemon :=
      { host := .str "unix:///run/docker.sock", binary := .str "docker"
        run := fun _ => .output (.str "\x7b\"State\": \x7b\"Pid\": 77\x7d\x7d") }
    let modes : NamespaceModes := { network := .str "container:db", uts := .str "container:db" }
    let s : Snapshot := { id := .str "web", namespaces := modes }
    (∀ ref, d.Tells ref 77) ∧ ∃ known plan, (d.peers s).outcome = .ok known ∧
      (Conversion.planNamespaces s {} (.obj known)).outcome = .ok plan ∧
      (Conversion.planNamespaces s {} (.obj known)).events = [] ∧
      plan .network = some { kind := .str "network", path := some "/proc/77/ns/net" } ∧
      plan .uts = some { kind := .str "uts", path := some "/proc/77/ns/uts" } := by
  intro d modes s
  have hread : Json.read CommandOutcome.usualLimits "\x7b\"State\": \x7b\"Pid\": 77\x7d\x7d" =
      .ok (.obj [("State", .obj [("Pid", .int 77)])]) := by cbv
  have htells : ∀ ref, d.Tells ref 77 :=
    Tells.of_output (isText_str _) (isText_str _) (fun _ => rfl) hread rfl rfl (by decide)
  have hs : s.namespaces.Declared :=
    ⟨isText_str _, isText_str _, isText_str _, isText_str _, isText_str _, isText_str _⟩
  obtain ⟨known, plan, hpeers, hplan, hevents, hentries⟩ :=
    @peers_joined d s {} (fun _ => 77) hs DaemonInfo.declared_default (fun _ _ ref _ => htells ref)
  refine ⟨htells, known, plan, hpeers, hplan, ?_, ?_, ?_⟩
  · rw [hevents]
    rfl
  · rw [hentries .network (by decide) "db" (by decide)]
    rfl
  · rw [hentries .uts (by decide) "db" (by decide)]
    rfl

/-- The client asks for no process, so the container gets a host name namespace of its own. -/
theorem peers_of_shared_uts :
    let d : Daemon :=
      { host := .str "unix:///run/docker.sock", binary := .str "docker"
        run := fun _ => .output (.str "\x7b\"State\": \x7b\"Pid\": 77\x7d\x7d") }
    let s : Snapshot := { id := .str "web", namespaces := { uts := .str "container:db" } }
    (∀ ref, d.Tells ref 77) ∧ d.peers s = pure [] ∧
      ∃ plan, Conversion.planNamespaces s {} (.obj []) =
          ⟨[.peerUnknown (.str "uts") "db"], .ok plan⟩ ∧
        plan .uts = some { kind := .str "uts", path := none } := by
  intro d s
  have hread : Json.read CommandOutcome.usualLimits "\x7b\"State\": \x7b\"Pid\": 77\x7d\x7d" =
      .ok (.obj [("State", .obj [("Pid", .int 77)])]) := by cbv
  have htells : ∀ ref, d.Tells ref 77 :=
    Tells.of_output (isText_str _) (isText_str _) (fun _ => rfl) hread rfl rfl (by decide)
  exact ⟨htells, rfl, _, rfl, rfl⟩

end Daemon

end ContainerBundle
