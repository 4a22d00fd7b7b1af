import ContainerBundle.Bundle
import ContainerBundle.Proofs.Daemon.Readings
/-!
# Snapshots that vary in mounts and limits

The mounts of a snapshot reach the configuration alone, and its limits the runtime alone. So two
snapshots that vary in them make bundles that differ in the one descriptor exactly when the mounts
are converted differently, and in the other exactly when the limits are.
-/
namespace ContainerBundle

open Conversion

/-- Mounts with the same destinations that are converted alike unless `differ`. -/
def MountsVary (differ : Prop) (ms ns : List MountRecord) : Prop :=
  Agree (fun own other => other.map (·.destination) = own.map (·.destination) ∧
    (other = own ↔ ¬ differ)) (ms.mapM mountOf) (ns.mapM mountOf)

def UlimitsVary (differ : Prop) (us vs : List Ulimit) : Prop :=
  Agree (fun limits other => other = limits ↔ ¬ differ) (rlimits us) (rlimits vs)

theorem MountsVary.refl {differ : Prop} (h : ¬ differ) (ms : List MountRecord) :
    MountsVary differ ms ms :=
  Agree.refl (fun _ => ⟨rfl, by simp [h]⟩) _

theorem UlimitsVary.refl {differ : Prop} (h : ¬ differ) (us : List Ulimit) :
    UlimitsVary differ us us :=
  Agree.refl (fun _ => by simp [h]) _

namespace Conversion

open Descriptor

variable {differ limited : Prop} {s t : Snapshot}

private theorem taken_eq {own other : List Mount}
    (h : other.map (·.destination) = own.map (·.destination)) :
    other.mapM (fun m => m.destination.hashable) = own.mapM (fun m => m.destination.hashable) := by
  rw [mapM_hashable_destinations, mapM_hashable_destinations, h]

private theorem mounts_vary (h : s.Varies (MountsVary differ) (UlimitsVary limited) t) :
    Agree (fun list other => other = list ↔ ¬ differ) (mounts s).outcome (mounts t).outcome := by
  have hfiles : networkFiles t = networkFiles s := by rw [h.others]; rfl
  simp only [mounts, Traced.outcome_bind, Traced.ofExcept_outcome, hfiles]
  refine Agree.bind h.mounts fun own other hown => ?_
  obtain ⟨hplaces, hsame⟩ := hown
  rw [taken_eq hplaces]
  refine Agree.bind_same _ fun taken => ?_
  refine Agree.bind_same _ fun kept => ?_
  exact .held (by rw [List.append_cancel_left_eq, hsame])

private theorem config_varies {files : Files} {info : DaemonInfo} {rootfs : Json}
    (h : s.Varies (MountsVary differ) (UlimitsVary limited) t) :
    Agree (fun config other => other = config ↔ ¬ differ)
      (config files s info rootfs).outcome (config files t info rootfs).outcome := by
  have hmounts := mounts_vary h
  rw [h.others] at hmounts ⊢
  rw [config, config]
  by_cases hroot : (rootfs.orElse s.rootfs).isVoid
  · rw [if_pos hroot, if_pos hroot]
    simp only [Traced.outcome_bind]
    refine Agree.bind_same _ fun shortId => ?_
    exact .refused _
  · rw [if_neg hroot, if_neg hroot]
    simp only [Traced.outcome_bind]
    refine Agree.bind_same _ fun user => ?_
    refine Agree.bind_same _ fun env => ?_
    refine Agree.bind_same _ fun platform => ?_
    refine hmounts.bind fun list other hlist => ?_
    refine Agree.bind_same _ fun shortId => ?_
    refine .held ⟨fun heq => hlist.mp (congrArg (·.mounts) heq), fun hsame => ?_⟩
    rw [hlist.mpr hsame]
    rfl

/-- The capabilities of a runtime are those that it is given. -/
theorem runtime_varies {stat : Examiner} {info : DaemonInfo} {peers : Json}
    (h : s.Varies (MountsVary differ) (UlimitsVary limited) t) (template first second : List Json) :
    Agree (fun runtime other => runtime.linux.capabilities = first ∧ ∃ limits,
        other = { runtime with linux := { runtime.linux with
          rlimits := limits, capabilities := second } } ∧
        (limits = runtime.linux.rlimits ↔ ¬ limited))
      (runtime stat s info (.arr first) peers).outcome
      (runtime stat t { info with defaultCapabilities := template } (.arr second)
        peers).outcome := by
  have hulimits := h.ulimits
  have hplan : planNamespaces t { info with defaultCapabilities := template } peers =
      planNamespaces s info peers := by rw [h.others]; rfl
  have helements (items : List Json) : (Json.arr items).elements = .ok items := rfl
  have hdevices : devices stat t = devices stat s := by rw [h.others]; rfl
  have hhostname : hostname t = hostname s := by rw [h.others]; rfl
  have hid : t.shortId = s.shortId := by rw [h.others]; rfl
  have hothers : t.resources = s.resources ∧ t.sysctls = s.sysctls ∧ t.privileged = s.privileged ∧
      t.maskedPaths = s.maskedPaths ∧ t.readonlyPaths = s.readonlyPaths := by
    rw [h.others]
    exact ⟨rfl, rfl, rfl, rfl, rfl⟩
  obtain ⟨hresources, hsysctls, hprivileged, hmasked, hreadonly⟩ := hothers
  simp only [runtime, Traced.outcome_bind, Traced.liftM_eq_ofExcept, Traced.ofExcept_outcome,
    ok_bind, hplan, helements, hdevices, hhostname, hid, hresources, hsysctls, hprivileged,
    hmasked, hreadonly]
  refine Agree.bind_same _ fun plan => ?_
  refine Agree.bind_same _ fun list => ?_
  refine Agree.bind_same _ fun resources => ?_
  refine Agree.bind hulimits fun limits other hlimits => ?_
  refine Agree.bind_same _ fun shortId => ?_
  refine Agree.bind_same _ fun _ => ?_
  split
  · rw [Traced.outcome_bind, Traced.outcome_bind]
    refine Agree.bind_same _ fun name => ?_
    exact .held ⟨rfl, other, rfl, hlimits⟩
  · exact .held ⟨rfl, other, rfl, hlimits⟩

end Conversion

/-- Bundles of snapshots that vary in mounts and limits. -/
theorem generate_varies {differ limited : Prop} {s t : Snapshot} {view : HostView}
    {info : DaemonInfo} {hooks : HookSource} {rootfs peers : Json}
    (h : s.Varies (MountsVary differ) (UlimitsVary limited) t) :
    Agree (fun bundle other => (other.config = bundle.config ↔ ¬ differ) ∧
        (other.runtime = bundle.runtime ↔ ¬ limited))
      (generate view s info hooks rootfs peers).outcome
      (generate view t info hooks rootfs peers).outcome := by
  have hgrants : t.capAdd = s.capAdd ∧ t.capDrop = s.capDrop ∧ t.privileged = s.privileged := by
    rw [h.others]
    exact ⟨rfl, rfl, rfl⟩
  obtain ⟨hadd, hdrop, hprivileged⟩ := hgrants
  simp only [generate, Traced.outcome_bind, hadd, hdrop, hprivileged]
  refine Agree.bind_same _ fun hooks => ?_
  refine Agree.bind_same _ fun granted => ?_
  refine (config_varies h).bind fun config other hconfig => ?_
  refine (runtime_varies h info.defaultCapabilities _ _).bind fun runtime other' hruntime => ?_
  obtain ⟨hcapabilities, limits, rfl, hlimits⟩ := hruntime
  refine .held ⟨hconfig, ?_⟩
  refine Iff.trans ⟨fun heq => congrArg (·.linux.rlimits) heq, fun hsame => ?_⟩ hlimits
  rw [hsame, ← hcapabilities]

end ContainerBundle
