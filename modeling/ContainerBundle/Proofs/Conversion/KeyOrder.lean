import Mathlib
import ContainerBundle.Proofs.Conversion.Templates
import ContainerBundle.Proofs.Daemon.KeyOrder
import ContainerBundle.Proofs.Json.Nesting
import ContainerBundle.Proofs.Json.RoundTrip
/-!
# Bundles from rearranged answers

The members of the daemon's objects may stand in any order: the bundle and what is remarked on the
way to it are the same. Only the kernel parameters are written in the order in which they are read.
-/
namespace ContainerBundle

open Json Conversion Descriptor

def Snapshot.withSysctls (s : Snapshot) (pairs : List (String × Json)) : Snapshot :=
  { s with sysctls := pairs }

private theorem Snapshot.Related.only_sysctls
    {S : List (String × Json) → List (String × Json) → Prop}
    {s t : Snapshot} (h : Related { sysctls := S } s t) : t = s.withSysctls t.sysctls := by
  have hprivileged : s.privileged = t.privileged := h.privileged
  have houtside := h.outside
  rw [← hprivileged] at houtside
  exact houtside

def Descriptor.Runtime.withSysctls (r : Runtime) (pairs : List (String × Json)) : Runtime :=
  { r with linux := { r.linux with sysctl := sysctl? pairs } }

def Bundle.withSysctls (b : Bundle) (pairs : List (String × Json)) : Bundle :=
  { b with runtime := b.runtime.withSysctls pairs }

variable {view : HostView} {stat : Examiner} {s : Snapshot} {info : DaemonInfo}
variable {hooks : HookSource} {capabilities rootfs peers : Json}
variable {pairs others : List (String × Json)}

/-- The kernel parameters reach the runtime alone, and nothing else depends on them. -/
private theorem runtime_sysctls (pairs : List (String × Json)) :
    runtime stat (s.withSysctls pairs) info capabilities peers = (do
      let r ← runtime stat s info capabilities peers
      pure (r.withSysctls pairs)) := by
  simp only [runtime, bind_assoc]
  congr 1
  funext plan
  congr 1
  funext list
  cases (plan .uts).isSome
  · simp only [Bool.false_eq_true, if_false, pure_bind]
    rfl
  · simp only [if_true, bind_assoc, pure_bind]
    rfl

private theorem generate_sysctls (pairs : List (String × Json)) :
    generate view (s.withSysctls pairs) info hooks rootfs peers = (do
      let bundle ← generate view s info hooks rootfs peers
      pure (bundle.withSysctls pairs)) := by
  have hconfig : config view.files (s.withSysctls pairs) info rootfs =
      config view.files s info rootfs := rfl
  simp only [generate, bind_assoc, pure_bind, runtime_sysctls, hconfig]
  rfl

private theorem sysctl?_reordered (h : Reordered pairs others) :
    Option.Rel List.Perm (sysctl? pairs) (sysctl? others) := by
  obtain ⟨horder, hkeys⟩ := h
  have hkeys' : (others.map Prod.fst).Nodup := (horder.map Prod.fst).nodup hkeys
  rw [sysctl?, sysctl?, ofMembers_of_nodup hkeys, ofMembers_of_nodup hkeys', horder.isEmpty_eq]
  split
  · exact .none
  · exact .some horder

private theorem document_endAlike {v w : Json} (h : v.levels = w.levels) (limit : Nat) :
    EndAlike (v.document limit) (w.document limit) := by
  rw [document, document, bounded, bounded, h]
  split
  · exact .held trivial
  · exact .refused _

private theorem written_of_perm {first second : Option (List (String × Json))}
    (h : Option.Rel List.Perm first second) :
    (Json.ofOption (first.map Json.obj)).written =
      (Json.ofOption (second.map Json.obj)).written := by
  cases h with
  | none => rfl
  | some horder => simp [ofOption, written, isNull, levels, depth, depthOfMembers_perm horder]

private theorem levels_withSysctls (r : Runtime)
    (h : Option.Rel List.Perm r.linux.sysctl (sysctl? pairs)) :
    (r.withSysctls pairs).toJson.levels = r.toJson.levels := by
  have hlinux : (r.withSysctls pairs).linux.toJson.written = r.linux.toJson.written := by
    simp only [Runtime.withSysctls, Linux.toJson, Linux.members, written_record, writtenOf,
      written_of_perm h]
  simp only [Runtime.toJson, Runtime.members, levels_record, writtenOf, hlinux]
  rfl

/-- Bundles that differ in the order of the kernel parameters alone. -/
structure Bundle.Resorted (bundle other : Bundle) : Prop where
  config : other.config = bundle.config
  runtime : ∃ sysctl, Option.Rel List.Perm bundle.runtime.linux.sysctl sysctl ∧
    other.runtime = { bundle.runtime with linux := { bundle.runtime.linux with sysctl } }
  rendered : ∀ limit, EndAlike (bundle.render limit) (other.render limit)

private theorem resorted_withSysctls {bundle : Bundle}
    (h : Option.Rel List.Perm bundle.runtime.linux.sysctl (sysctl? pairs)) :
    bundle.Resorted (bundle.withSysctls pairs) where
  config := rfl
  runtime := ⟨_, h, rfl⟩
  rendered := by
    intro limit
    have hruntime : EndAlike (bundle.runtime.render limit)
        ((bundle.withSysctls pairs).runtime.render limit) :=
      document_endAlike (levels_withSysctls bundle.runtime h).symm limit
    apply Agree.bind_same
    intro config
    apply hruntime.bind
    intro _ _ _
    exact .held trivial

private theorem sysctl_of_generate {bundle : Bundle}
    (h : (generate view s info hooks rootfs peers).outcome = .ok bundle) :
    bundle.runtime.linux.sysctl = sysctl? s.sysctls := by
  have hsame := @generate_sysctls view s info hooks rootfs peers s.sysctls
  rw [show s.withSysctls s.sysctls = s from rfl] at hsame
  rw [hsame] at h
  obtain ⟨made, -, h⟩ := Traced.bind_eq_ok_iff.mp h
  cases h
  rfl

private theorem generate_reordered (h : Reordered s.sysctls pairs) :
    let run := generate view s info hooks rootfs peers
    let other := generate view (s.withSysctls pairs) info hooks rootfs peers
    other.events = run.events ∧ Agree Bundle.Resorted run.outcome other.outcome := by
  intro run other
  have hother : other = run >>= fun bundle => pure (bundle.withSysctls pairs) :=
    generate_sysctls pairs
  cases hrun : run.outcome with
  | error fault =>
    rw [hother, Traced.bind_of_error hrun]
    exact ⟨rfl, .refused fault⟩
  | ok bundle =>
    have hsysctl := sysctl_of_generate hrun
    rw [hother, Traced.events_bind_of_ok hrun, Traced.outcome_bind, hrun]
    refine ⟨List.append_nil _, .held (resorted_withSysctls ?_)⟩
    rw [hsysctl]
    exact sysctl?_reordered h

def bundleOfRead (view : HostView) (snapshot : Except Fault Snapshot)
    (daemon : Except Fault DaemonInfo) (hooks : HookSource) (rootfs peers : Json) :
    Traced Bundle := do
  let s ← snapshot
  let info ← daemon
  generate view s info hooks rootfs peers

private theorem bundleOfRead_reordered {first second : Except Fault Snapshot}
    (h : Agree (Snapshot.Related { sysctls := Reordered }) first second)
    (daemon : Except Fault DaemonInfo) :
    let run := bundleOfRead view first daemon hooks rootfs peers
    let other := bundleOfRead view second daemon hooks rootfs peers
    other.events = run.events ∧ Agree Bundle.Resorted run.outcome other.outcome := by
  cases h with
  | refused fault => exact ⟨rfl, .refused fault⟩
  | @held s t hst =>
    cases daemon with
    | error fault =>
      have hfail (s : Snapshot) : bundleOfRead view (.ok s) (.error fault) hooks rootfs peers =
        Traced.fail fault := rfl
      rw [hfail, hfail]
      exact ⟨rfl, .refused fault⟩
    | ok info =>
      rw [hst.only_sysctls]
      simp only [bundleOfRead, Traced.liftM_eq_ofExcept, Traced.ofExcept_ok, pure_bind]
      exact generate_reordered hst.sysctls

/-- The order of the members of the daemon's answers matters only to the kernel parameters: in
another order they are written in another order, and nothing else is different. -/
theorem converted_in_any_order {v w i j : Json} (hv : Keyed ContainerType v)
    (hi : Keyed InfoType i) (h : Rearranged v w) (hinfo : Rearranged i j) (view : HostView)
    (hooks : HookSource) (rootfs peers : Json) :
    let run := bundleOfAnswers view v i hooks rootfs peers
    let other := bundleOfAnswers view w j hooks rootfs peers
    other.events = run.events ∧ Agree Bundle.Resorted run.outcome other.outcome ∧
      (sysctlsOf v = sysctlsOf w → other = run) := by
  intro run other
  have hsame : DaemonInfo.ofInfo i = DaemonInfo.ofInfo j := DaemonInfo.ofInfo_rearranged hinfo hi
  have hread : sysctlsOf v = sysctlsOf w → other = run := by
    intro hsysctls
    simp only [other, run, bundleOfAnswers, hsame, Snapshot.ofInspect_of_same_sysctls h hv hsysctls]
  refine and_assoc.mp ⟨?_, hread⟩
  have hsnapshots := Snapshot.ofInspect_rearranged h hv
  have hother : other = bundleOfRead view (Snapshot.ofInspect w) (DaemonInfo.ofInfo i) hooks rootfs
      peers := by rw [hsame]; rfl
  rw [hother]
  exact bundleOfRead_reordered hsnapshots (DaemonInfo.ofInfo i)

theorem converted_in_any_order_of_swapped :
    let view : HostView := ⟨fun _ => .error (.system .missing), fun _ => none⟩
    let queues : String × Json := ("kernel.msgmax", .str "1")
    let backlog : String × Json := ("net.core.somaxconn", .str "2")
    let first := [queues, backlog]
    let second := [backlog, queues]
    let host (parameters : List (String × Json)) : String × Json :=
      ("HostConfig", .obj [("CapAdd", .arr [.str "kill"]), ("Sysctls", .obj parameters)])
    let root : String × Json := ("GraphDriver", .obj [("Data", .obj [("MergedDir", .str "/r")])])
    let v : Json := .obj [("Id", .str "web"), ("Config", .obj []), host first, root]
    let w : Json := .obj [("Config", .obj []), ("Id", .str "web"), host second, root]
    let run (v : Json) : Traced Bundle :=
      bundleOfAnswers view v (.obj []) (.compiled {}) .null .null
    ∃ bundle other, (run v).outcome = .ok bundle ∧ (run w).outcome = .ok other ∧
      (run w).events = (run v).events ∧ bundle.Resorted other ∧
      bundle.runtime.linux.sysctl = some first ∧ other.runtime.linux.sysctl = some second := by
  intro view queues backlog first second host root v w run
  have htyped : Keyed ContainerType v := by
    have hhost : Keyed HostType (host first).2 := by
      refine .obj (by decide) (List.forall_mem_cons.mpr ⟨fun _ => by simp [IsFlat, IsScalar], ?_⟩)
      refine List.forall_mem_singleton.mpr (.inr (.obj (by decide) ?_))
      simp [first, IsScalar]
    have hroot : Keyed DriverType root.2 := by
      refine .obj (by decide) (List.forall_mem_singleton.mpr fun _ => .inr (.obj (by decide) ?_))
      exact List.forall_mem_singleton.mpr fun _ => trivial
    refine .obj (by decide) ?_
    simp only [List.forall_mem_cons]
    exact ⟨fun _ => trivial, .inr (.obj .nil (by simp)), .inr hhost, .inr hroot, by simp⟩
  have hrearranged : Rearranged v w := by
    refine .obj (.swap _ _ _) rfl ?_
    refine .cons (.same _) (.cons (.same _) (.cons ?_ (.cons (.same _) .nil)))
    refine .obj (.refl _) rfl (.cons (.same _) (.cons ?_ .nil))
    exact .obj (.swap _ _ _) rfl (.cons (.same _) (.cons (.same _) .nil))
  have hinfo : Keyed InfoType (.obj []) := .obj .nil (by simp)
  obtain ⟨hevents, hagree, -⟩ := converted_in_any_order htyped hinfo hrearranged (.same _) view
    (.compiled {}) .null .null
  obtain ⟨bundle, hbundle⟩ : ∃ bundle, (run v).outcome = .ok bundle := ⟨_, rfl⟩
  obtain ⟨other, hother, hresorted⟩ := hagree.exists_of_ok hbundle
  refine ⟨bundle, other, hbundle, hother, hevents, hresorted, ?_, ?_⟩
  · cases hbundle
    rfl
  · cases hother
    rfl

end ContainerBundle
