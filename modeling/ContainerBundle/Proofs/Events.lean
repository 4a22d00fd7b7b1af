import ContainerBundle.Directory.Writing
/-!
# What a conversion asks of the host

A conversion runs no command: the daemon is asked before it starts. It examines a file for each
device that a container is given, so the conversion of a privileged container examines none.
-/
namespace ContainerBundle

/-- The event is a remark or a look-up: no command is run and no file is examined. -/
def Event.Quiet : Event → Prop
  | .ran _ => False
  | .examined _ => False
  | _ => True

/-- Every event on the way to a result, or to the fault that stops it, is of a kind. -/
def Traced.LeavesOnly (P : Event → Prop) (x : Traced α) : Prop := ∀ event ∈ x.events, P event

namespace Traced.LeavesOnly

variable {P Q : Event → Prop}

theorem pure (a : α) : (pure a : Traced α).LeavesOnly P := List.forall_mem_nil P

theorem ofExcept (x : Except Fault α) : (Traced.ofExcept x).LeavesOnly P := List.forall_mem_nil P

theorem fail (fault : Fault) : (Traced.fail fault : Traced α).LeavesOnly P := List.forall_mem_nil P

theorem emit {event : Event} (h : P event) : (Traced.emit event).LeavesOnly P :=
  List.forall_mem_singleton.mpr h

theorem mono {x : Traced α} (h : x.LeavesOnly P) (hPQ : ∀ event, P event → Q event) :
    x.LeavesOnly Q :=
  fun event hevent => hPQ event (h event hevent)

theorem bind {x : Traced α} {f : α → Traced β} (hx : x.LeavesOnly P)
    (hf : ∀ a, (f a).LeavesOnly P) : (x >>= f).LeavesOnly P := by
  cases h : x.outcome with
  | error fault =>
    rw [bind_of_error h]
    exact hx
  | ok a =>
    intro event hevent
    rw [events_bind_of_ok h] at hevent
    rcases List.mem_append.mp hevent with hfirst | hlater
    · exact hx event hfirst
    · exact hf a event hlater

theorem forEach {f : α → Traced β} (hf : ∀ a, (f a).LeavesOnly P) (items : List α) :
    (Traced.forEach f items).LeavesOnly P := by
  induction items with
  | nil => exact pure _
  | cons a rest ih => exact bind (hf a) fun _ => bind ih fun _ => pure _

end Traced.LeavesOnly

open Traced (LeavesOnly)

theorem commands_of_leavesOnly {x : Traced α} (h : x.LeavesOnly fun event => ∀ c, event ≠ .ran c) :
    commands x.events = [] := by
  rw [commands, List.filterMap_eq_nil_iff]
  intro event hevent
  have hno := h event hevent
  cases event with
  | ran command => exact absurd rfl (hno command)
  | _ => rfl

theorem Event.Quiet.ne_ran {event : Event} (h : event.Quiet) (command : List String) :
    event ≠ .ran command := by
  rintro rfl
  exact h

private theorem HookEntry.ofRaw_quiet (search : SearchPath) (raw : Json) :
    (HookEntry.ofRaw search raw).LeavesOnly Event.Quiet := by
  have hlocate (executable raw : Json) :
      (search.locate executable raw).LeavesOnly Event.Quiet := by
    rw [SearchPath.locate]
    refine .bind (.emit trivial) fun _ => .bind (.ofExcept _) fun found => ?_
    split
    · exact .fail _
    · split
      · exact .pure _
      · exact .fail _
  rw [ofRaw]
  refine .bind (.ofExcept _) fun raw => .bind (.ofExcept _) fun d => ?_
  rw [ofDeclaration]
  exact .bind (hlocate _ _) fun path => .bind (.emit trivial) fun _ => .pure _

theorem compileHooks_quiet (search : SearchPath) (raws : List Json) :
    (compileHooks search raws).LeavesOnly Event.Quiet :=
  .bind (.forEach (HookEntry.ofRaw_quiet search) raws) fun _ => .pure _

private theorem HookSource.hooks_quiet (hooks : HookSource) :
    hooks.hooks.LeavesOnly Event.Quiet := by
  cases hooks with
  | declared search raws => exact .bind (.ofExcept _) fun raws => compileHooks_quiet search raws
  | compiled hooks => exact .pure _

namespace Conversion

variable {files : Files} {stat : Examiner} {s : Snapshot} {info : DaemonInfo} {rootfs peers : Json}

private theorem userIds_quiet (token : String) :
    (userIds files rootfs token).LeavesOnly Event.Quiet := by
  rw [userIds]
  split
  · exact .pure _
  · split
    · exact .bind (.ofExcept _) fun uid => .pure _
    · refine .bind (.ofExcept _) fun found => ?_
      cases found with
      | some ids => exact .pure _
      | none => exact .bind (.emit trivial) fun _ => .pure _

private theorem groupId_quiet (token : String) (fallback : Int) :
    (groupId files rootfs token fallback).LeavesOnly Event.Quiet := by
  rw [groupId]
  split
  · exact .pure _
  · split
    · exact .ofExcept _
    · refine .bind (.ofExcept _) fun found => ?_
      cases found with
      | some gid => exact .pure _
      | none => exact .bind (.emit trivial) fun _ => .pure _

private theorem extraGroup_quiet (entry : Json) :
    (extraGroup files rootfs entry).LeavesOnly Event.Quiet := by
  rw [extraGroup]
  refine .bind (.ofExcept _) fun token => ?_
  split
  · exact .bind (.ofExcept _) fun gid => .pure _
  · refine .bind (.ofExcept _) fun found => ?_
    cases found with
    | some gid => exact .pure _
    | none => exact .bind (.emit trivial) fun _ => .pure _

private theorem identity_quiet : (identity files rootfs s).LeavesOnly Event.Quiet := by
  rw [identity]
  refine .bind (.ofExcept _) fun configured => ?_
  refine .bind (userIds_quiet _) fun ids => .bind (groupId_quiet _ _) fun gid => ?_
  exact .bind (.forEach extraGroup_quiet _) fun extra => .pure _

private theorem keepFree_quiet_events (taken : List Json) (list : List BuiltInMount) :
    (keepFree taken list).LeavesOnly Event.Quiet := by
  induction list with
  | nil => exact .pure _
  | cons b rest ih =>
    rw [keepFree]
    split
    · exact .bind (.emit trivial) fun _ => ih
    · exact .bind ih fun kept => .pure _

private theorem mounts_quiet : (mounts s).LeavesOnly Event.Quiet := by
  rw [mounts]
  refine .bind (.ofExcept _) fun own => .bind (.ofExcept _) fun taken => ?_
  exact .bind (keepFree_quiet_events _ _) fun kept => .pure _

private theorem config_quiet : (config files s info rootfs).LeavesOnly Event.Quiet := by
  rw [config]
  split
  · exact .bind (.ofExcept _) fun shortId => .fail _
  · refine .bind identity_quiet fun user => .bind (.ofExcept _) fun env => ?_
    refine .bind (.ofExcept _) fun platform => .bind mounts_quiet fun list => ?_
    exact .bind (.ofExcept _) fun shortId => .bind (.emit trivial) fun _ => .pure _

theorem planNamespace_quiet (name mode : Json) :
    (planNamespace name mode peers).LeavesOnly Event.Quiet := by
  rw [planNamespace]
  split
  · exact .pure _
  · refine .bind (.ofExcept _) fun mode => ?_
    split
    · exact .pure _
    · refine .bind (.ofExcept _) fun pid => ?_
      split
      · exact .bind (.emit trivial) fun _ => .pure _
      · exact .bind (.ofExcept _) fun path => .pure _

private theorem planNamespaces_quiet : (planNamespaces s info peers).LeavesOnly Event.Quiet := by
  rw [planNamespaces]
  refine .bind (planNamespace_quiet _ _) fun pid => ?_
  refine .bind (planNamespace_quiet _ _) fun network => ?_
  refine .bind (planNamespace_quiet _ _) fun ipc => ?_
  refine .bind (planNamespace_quiet _ _) fun uts => ?_
  exact .bind (.ofExcept _) fun remaps => .pure _

/-- The event is quiet, or the file of a device is examined for a container without privilege. -/
def Examines (s : Snapshot) (event : Event) : Prop :=
  event.Quiet ∨ s.privileged = false ∧ ∃ path, event = .examined path

private theorem examine_examines (hprivilege : s.privileged = false) (path : Json) :
    (examine stat path).LeavesOnly (Examines s) := by
  rw [examine]
  refine .bind (.emit (.inr ⟨hprivilege, path, rfl⟩)) fun _ => ?_
  split
  · exact .fail _
  · exact .ofExcept _

private theorem deviceNode_examines (hprivilege : s.privileged = false) (m : DeviceMapping) :
    (deviceNode stat m).LeavesOnly (Examines s) := by
  rw [deviceNode]
  refine .bind (examine_examines hprivilege _) fun status => .bind (.ofExcept _) fun mode => ?_
  split
  · exact .fail _
  · exact .bind (.ofExcept _) fun number => .pure _

private theorem declaredRule_quiet (entry : Json) :
    (declaredRule entry).LeavesOnly Event.Quiet := by
  rw [declaredRule]
  refine .bind (.ofExcept _) fun raw => .bind (.ofExcept _) fun rule => ?_
  cases rule with
  | some rule => exact .pure _
  | none => exact .bind (.emit trivial) fun _ => .pure _

private theorem devices_examines : (devices stat s).LeavesOnly (Examines s) := by
  rw [devices]
  split
  · exact .pure _
  · have hprivilege : s.privileged = false := Bool.eq_false_iff.mpr ‹_›
    refine .bind (.forEach (deviceNode_examines hprivilege) _) fun nodes => ?_
    refine .bind (.forEach (fun entry => ?_) _) fun declared => .pure _
    exact (declaredRule_quiet entry).mono fun _ => .inl

private theorem runtime_examines (capabilities : Json) :
    (runtime stat s info capabilities peers).LeavesOnly (Examines s) := by
  rw [runtime]
  refine .bind (planNamespaces_quiet.mono fun _ => .inl) fun plan => ?_
  refine .bind devices_examines fun list => .bind (.ofExcept _) fun capabilities => ?_
  refine .bind (.ofExcept _) fun resources => .bind (.ofExcept _) fun rlimits => ?_
  refine .bind (.ofExcept _) fun shortId => .bind (.emit (.inl trivial)) fun _ => ?_
  dsimp only
  split
  · exact .bind (.ofExcept _) fun hostname => .pure _
  · exact .bind (.pure _) fun hostname => .pure _

end Conversion

private theorem generate_examines (view : HostView) (s : Snapshot) (info : DaemonInfo)
    (hooks : HookSource)
    (rootfs peers : Json) :
    (generate view s info hooks rootfs peers).LeavesOnly (Conversion.Examines s) := by
  rw [generate]
  refine .bind (hooks.hooks_quiet.mono fun _ => .inl) fun hooks => ?_
  refine .bind (.ofExcept _) fun granted => ?_
  refine .bind (Conversion.config_quiet.mono fun _ => .inl) fun config => ?_
  exact .bind (Conversion.runtime_examines _) fun runtime => .pure _

theorem commands_generate (view : HostView) (s : Snapshot) (info : DaemonInfo) (hooks : HookSource)
    (rootfs peers : Json) : commands (generate view s info hooks rootfs peers).events = [] := by
  refine commands_of_leavesOnly
    ((generate_examines view s info hooks rootfs peers).mono fun event h command => ?_)
  rcases h with hquiet | ⟨-, path, rfl⟩
  · exact hquiet.ne_ran command
  · exact Event.noConfusion

theorem not_examined_of_privileged {view : HostView} {s : Snapshot} {info : DaemonInfo}
    {hooks : HookSource} {rootfs peers : Json} (h : s.privileged = true) (path : Json) :
    .examined path ∉ (generate view s info hooks rootfs peers).events := by
  intro hevent
  rcases generate_examines view s info hooks rootfs peers _ hevent with hquiet | ⟨hplain, -⟩
  · exact hquiet
  · rw [h] at hplain
    cases hplain

namespace Tree

private theorem placeAll_quiet (t : Tree) (schedule : WriteSchedule) (directory : String)
    (here : Place)
    (call : Nat) (staged : List Staged) :
    (t.placeAll schedule directory here call staged).2.LeavesOnly Event.Quiet := by
  induction staged generalizing t call with
  | nil => exact .pure _
  | cons s rest ih =>
    rw [placeAll]
    split
    · exact .fail _
    · exact .bind (.emit trivial) fun _ => ih _ _

theorem writeBundleAt_quiet (t : Tree) (schedule : WriteSchedule) (b : Bundle) (directory : Json)
    (force : Bool) : (t.writeBundleAt schedule b directory force).2.LeavesOnly Event.Quiet := by
  rw [writeBundleAt]
  split
  · exact .fail _
  · rw [writeBundle]
    split
    · exact .fail _
    · split
      · exact .fail _
      · split
        · exact .fail _
        · rw [writeDocuments]
          split
          · exact .fail _
          · split
            · exact .fail _
            · exact .bind (placeAll_quiet _ _ _ _ _ _) fun _ => .pure _

end Tree

end ContainerBundle
