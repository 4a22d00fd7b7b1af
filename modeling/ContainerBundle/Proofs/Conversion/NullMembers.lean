import Mathlib
import ContainerBundle.Proofs.Conversion.Variations
/-!
# Null and absent members

A member of an inspected container that is null is converted as an absent one is, with two
exceptions, both where a default stands in for an absent member and not for a null one: a mount
whose `RW` is null is read-only, and one without it is writable; a limit whose `Soft` or `Hard` is
null is written without it, and one that lacks it has a zero there.
-/
namespace ContainerBundle

open Json

/-- The records of an inspected container whose members are read by name. -/
inductive Record
  | container
  | config
  | hostConfig
  | graphDriver
  | graphData
  | state
  | mount (place : Nat)
  | device (place : Nat)
  | ulimit (place : Nat)

namespace Record

def route : Record → List Step
  | container => []
  | config => [.member "Config"]
  | hostConfig => [.member "HostConfig"]
  | graphDriver => [.member "GraphDriver"]
  | graphData => [.member "GraphDriver", .member "Data"]
  | state => [.member "State"]
  | mount n => [.member "Mounts", .item n]
  | device n => [.member "HostConfig", .member "Devices", .item n]
  | ulimit n => [.member "HostConfig", .member "Ulimits", .item n]

def DecidesAccess (r : Record) (key : String) : Prop := (∃ n, r = .mount n) ∧ key = "RW"

def BoundsLimit (r : Record) (key : String) (record : Json) : Prop :=
  (∃ n, r = .ulimit n) ∧ (key = "Soft" ∨ key = "Hard") ∧
    ∃ name, record.memberOr "Name" void = .ok name ∧ ¬ name.isVoid

end Record

/-- A mount as it is read when the member `key`, which is null, is absent. -/
inductive MountRecord.Refilled (key : String) (m : MountRecord) : MountRecord → Prop
  | access (hkey : key = "RW") (hnull : m.writable = .null) :
      Refilled key m { m with writable := .bool true }
  | same (hkey : key ≠ "RW") : Refilled key m m

inductive Ulimit.Refilled (key : String) (u : Ulimit) : Ulimit → Prop
  | name (hkey : key = "Name") (hnull : u.name = .null) : Refilled key u { u with name := void }
  | soft (hkey : key = "Soft") (hnull : u.soft = .null) : Refilled key u { u with soft := .int 0 }
  | hard (hkey : key = "Hard") (hnull : u.hard = .null) : Refilled key u { u with hard := .int 0 }
  | same (hname : key ≠ "Name") (hsoft : key ≠ "Soft") (hhard : key ≠ "Hard") : Refilled key u u

variable {key : String} {record v w : Json}

private theorem MountRecord.ofInspect_refilled (h : DropsNull key record v w) :
    Agree (Refilled key) (ofInspect v) (ofInspect w) := by
  simp only [ofInspect, h.given_eq]
  refine Agree.bind_same _ fun destination => ?_
  refine Agree.bind_same _ fun source => ?_
  refine Agree.bind_same _ fun kind => ?_
  refine Agree.bind_same _ fun name => ?_
  refine Agree.bind_same _ fun mode => ?_
  by_cases hkey : key = "RW"
  · subst hkey
    obtain ⟨hnull, habsent⟩ := h.memberOr_self (.bool true)
    rw [hnull, habsent, ok_bind, ok_bind]
    exact Agree.bind_same _ fun propagation => .held (.access rfl rfl)
  · rw [h.memberOr_eq (Ne.symm hkey)]
    refine Agree.bind_same _ fun writable => ?_
    exact Agree.bind_same _ fun propagation => .held (.same hkey)

private theorem DeviceMapping.ofInspect_eq (h : DropsNull key record v w) :
    ofInspect v = ofInspect w := by
  simp only [ofInspect, h.given_eq]

private theorem Ulimit.ofInspect_refilled (h : DropsNull key record v w) :
    Agree (fun u u' => record.memberOr "Name" void = .ok u.name ∧ Refilled key u u')
      (ofInspect v) (ofInspect w) := by
  obtain ⟨name, hname⟩ := h.exists_memberOr "Name" void
  have hother (k : String) (hk : k ≠ key) (default : Json) :
      w.memberOr k default = v.memberOr k default := h.memberOr_eq hk default
  rw [h.record_eq, ofInspect, ofInspect, hname, ok_bind]
  by_cases hkey : key = "Name"
  · subst hkey
    obtain ⟨hnull, habsent⟩ := h.memberOr_self void
    obtain rfl : name = .null := by simpa [hname] using hnull
    rw [habsent, ok_bind, hother "Soft" (by decide), hother "Hard" (by decide)]
    refine Agree.bind_same _ fun soft => ?_
    exact Agree.bind_same _ fun hard => .held ⟨rfl, .name rfl rfl⟩
  rw [hother "Name" (Ne.symm hkey), hname, ok_bind]
  by_cases hkey' : key = "Soft"
  · subst hkey'
    obtain ⟨hnull, habsent⟩ := h.memberOr_self (.int 0)
    rw [hnull, habsent, ok_bind, ok_bind, hother "Hard" (by decide)]
    exact Agree.bind_same _ fun hard => .held ⟨rfl, .soft rfl rfl⟩
  rw [hother "Soft" (Ne.symm hkey')]
  refine Agree.bind_same _ fun soft => ?_
  by_cases hkey'' : key = "Hard"
  · subst hkey''
    obtain ⟨hnull, habsent⟩ := h.memberOr_self (.int 0)
    rw [hnull, habsent, ok_bind, ok_bind]
    exact .held ⟨rfl, .hard rfl rfl⟩
  · rw [hother "Hard" (Ne.symm hkey'')]
    exact Agree.bind_same _ fun hard => .held ⟨rfl, .same hkey hkey' hkey''⟩

private theorem set_eq_self {items : List α} {n : Nat} {a : α} (h : items[n]? = some a) :
    items.set n a = items := by
  obtain ⟨hn, rfl⟩ := List.getElem?_eq_some_iff.mp h
  exact List.set_getElem_self hn

private theorem set_ne_self {items : List α} {n : Nat} {a b : α} (h : items[n]? = some a)
    (hne : b ≠ a) : items.set n b ≠ items := by
  intro heq
  obtain ⟨hn, -⟩ := List.getElem?_eq_some_iff.mp h
  have hitem : items[n]? = some b := by rw [← heq, List.getElem?_set_self hn]
  rw [h] at hitem
  exact hne (Option.some.inj hitem).symm

namespace Conversion

variable {m m' : MountRecord} {u u' : Ulimit} {us : List Ulimit} {n : Nat}

private theorem access_place (kind : Json) (mode : String) : ∃ place : Nat,
    ∀ (writable whole : Bool) (last : Json),
    (if whole then (accessOptions kind mode writable).map str
      else (accessOptions kind mode writable).map str ++ [last])[place]? =
        some (str (if writable then "rw" else "ro")) := by
  refine ⟨((modeTokens mode).foldl addOption (if bindsHost kind then ["rbind"] else [])).length,
    fun writable whole last => ?_⟩
  cases whole
  · simp [accessOptions]
  · simp [accessOptions]

private theorem mountOf_of_access (hnull : m.writable = .null) :
    Agree (fun mount other => other.destination = mount.destination ∧ other ≠ mount) (mountOf m)
      (mountOf { m with writable := .bool true }) := by
  obtain ⟨destination, source, kind, name, mode, writable, propagation⟩ := m
  subst hnull
  rw [mountOf, mountOf]
  refine Agree.bind_same _ fun mode => .held ⟨rfl, fun heq => ?_⟩
  obtain ⟨place, hplace⟩ := access_place (mountKind { destination, source, kind, name }) mode
  have hflags := congrArg (fun mount => mount.options[place]?) heq
  have hclash := (hplace true _ _).symm.trans (hflags.trans (hplace false _ _))
  simp at hclash

private theorem rlimits_set_of_void (hitem : us[n]? = some u) (hu : u.name.isVoid)
    (hu' : u'.name.isVoid) :
    rlimits (us.set n u') = rlimits us := by
  induction us generalizing n with
  | nil => rfl
  | cons first rest ih =>
    cases n with
    | zero =>
      obtain rfl : first = u := by simpa using hitem
      rw [List.set_cons_zero, rlimits, rlimits, if_pos hu, if_pos hu']
    | succ n =>
      rw [List.set_cons_succ, rlimits, rlimits, ih (by simpa using hitem)]

private theorem rlimits_set_of_named (hitem : us[n]? = some u) (hu : ¬ u.name.isVoid)
    (hname : u'.name = u.name) (hbounds : u'.hard ≠ u.hard ∨ u'.soft ≠ u.soft) :
    Agree (fun limits other => other ≠ limits) (rlimits us) (rlimits (us.set n u')) := by
  induction us generalizing n with
  | nil => simp at hitem
  | cons first rest ih =>
    cases n with
    | zero =>
      obtain rfl : first = u := by simpa using hitem
      rw [List.set_cons_zero, rlimits, rlimits, hname, if_neg hu, if_neg hu]
      refine Agree.bind_same _ fun name => ?_
      refine Agree.bind_same _ fun others => .held fun heq => ?_
      simp only [List.cons.injEq, Descriptor.Rlimit.mk.injEq] at heq
      exact hbounds.elim (fun hard => hard heq.1.2.1) (fun soft => soft heq.1.2.2)
    | succ n =>
      have hrest := ih (by simpa using hitem)
      rw [List.set_cons_succ, rlimits, rlimits]
      by_cases hvoid : first.name.isVoid
      · rw [if_pos hvoid, if_pos hvoid]
        exact hrest
      · rw [if_neg hvoid, if_neg hvoid]
        refine Agree.bind_same _ fun name => ?_
        refine hrest.bind fun limits other hlimits => .held fun heq => ?_
        exact hlimits (List.cons.inj heq).2

private theorem mountsVary_of_refilled {ms ns : List MountRecord}
    (h : ∃ m m', ms[n]? = some m ∧ m.Refilled key m' ∧ ns = ms.set n m') :
    MountsVary (key = "RW") ms ns := by
  obtain ⟨m, m', hitem, hrefilled, rfl⟩ := h
  cases hrefilled with
  | access hkey hnull =>
    refine (Agree.mapM_set hitem (mountOf_of_access hnull)).mono fun own other hown => ?_
    obtain ⟨mount, mount', hmount, ⟨hplace, hne⟩, rfl⟩ := hown
    have hplaces : (own.map (·.destination))[n]? = some mount.destination := by simp [hmount]
    refine ⟨?_, by simpa [hkey] using set_ne_self hmount hne⟩
    rw [List.map_set, hplace, set_eq_self hplaces]
  | same hkey =>
    rw [set_eq_self hitem]
    exact .refl hkey ms

private theorem ulimitsVary_of_equal {differ : Prop} {vs : List Ulimit}
    (hlimits : rlimits vs = rlimits us)
    (h : ¬ differ) : UlimitsVary differ us vs := by
  rw [UlimitsVary, hlimits]
  exact UlimitsVary.refl h us

private theorem ulimitsVary_of_bounds (hitem : us[n]? = some u) (hname : u'.name = u.name)
    (hbounds : u'.hard ≠ u.hard ∨ u'.soft ≠ u.soft) :
    UlimitsVary (¬ u.name.isVoid) us (us.set n u') := by
  by_cases hvoid : u.name.isVoid
  · exact ulimitsVary_of_equal (rlimits_set_of_void hitem hvoid (hname ▸ hvoid)) (not_not.mpr hvoid)
  · refine (rlimits_set_of_named hitem hvoid hname hbounds).mono fun limits other hne => ?_
    simp [hne, hvoid]

private theorem ulimitsVary_of_refilled {us vs : List Ulimit}
    (h : ∃ u u', us[n]? = some u ∧
      (record.memberOr "Name" void = .ok u.name ∧ u.Refilled key u') ∧ vs = us.set n u') :
    UlimitsVary ((key = "Soft" ∨ key = "Hard") ∧
      ∃ name, record.memberOr "Name" void = .ok name ∧ ¬ name.isVoid) us vs := by
  obtain ⟨u, u', hitem, ⟨hname, hrefilled⟩, rfl⟩ := h
  have hnamed : (∃ name, record.memberOr "Name" void = .ok name ∧ ¬ name.isVoid) ↔
      ¬ u.name.isVoid := by simp [hname]
  rw [hnamed]
  cases hrefilled with
  | name hkey hnull =>
    have hvoid : u.name.isVoid := by rw [hnull]; rfl
    have hlimits : rlimits (us.set n { u with name := void }) = rlimits us :=
      rlimits_set_of_void hitem hvoid rfl
    exact ulimitsVary_of_equal hlimits (by simp [hkey])
  | soft hkey hnull =>
    have hvary : UlimitsVary (¬ u.name.isVoid) us (us.set n { u with soft := .int 0 }) :=
      ulimitsVary_of_bounds hitem rfl (.inr (by simp [hnull]))
    simpa [hkey] using hvary
  | hard hkey hnull =>
    have hvary : UlimitsVary (¬ u.name.isVoid) us (us.set n { u with hard := .int 0 }) :=
      ulimitsVary_of_bounds hitem rfl (.inl (by simp [hnull]))
    simpa [hkey] using hvary
  | same _ hsoft hhard =>
    rw [set_eq_self hitem]
    exact .refl (by simp [hsoft, hhard]) us

end Conversion

private theorem readEach_agree {R : Json → Json → Prop} {S : α → α → Prop}
    {read : Json → Except Fault α}
    {n : Nat} {rest : List Step} {x y : Json} (h : DiffersAt R (.item n :: rest) x y)
    (hread : ∀ a b, DiffersAt R rest a b → Agree S (read a) (read b)) :
    Agree (fun xs ys => ∃ a b, xs[n]? = some a ∧ S a b ∧ ys = xs.set n b) (readEach read x)
      (readEach read y) := by
  have hlist (items : List Json) : readEach read (.arr items) = items.mapM read := by
    cases items <;> rfl
  cases h with
  | item hitem h =>
    rw [hlist, hlist]
    exact Agree.mapM_set hitem (hread _ _ h)

variable {r : Record}

variable {M : List MountRecord → List MountRecord → Prop}
variable {U : List Ulimit → List Ulimit → Prop}

/-- Outside of mounts and limits, a document that lacks a null member is read alike. -/
private theorem recordsAlike_of_dropsNull (hM : ∀ ms, M ms ms) (hU : ∀ us, U us us)
    (hmount : ∀ n, r ≠ .mount n) (hulimit : ∀ n, r ≠ .ulimit n)
    (h : DiffersAt (DropsNull key record) r.route v w) : RecordsAlike (RootMember M U) v w := by
  have hroot (k : String) (x : Json) : RootMember M U k x x := .refl (fun _ => hM) (fun _ => hU) x
  have hhost (k : String) (x : Json) : HostMember { mounts := M, ulimits := U } k x x :=
    .refl (fun _ => hU) (fun _ _ => rfl) (fun _ _ => rfl) x
  cases r with
  | container =>
    cases h with
    | here h => exact h.recordsAlike hroot
  | config =>
    refine h.recordsAlike (fun k x _ => hroot k x) fun x y hxy => ?_
    cases hxy with
    | here h => exact .inl (h.recordsAlike ConfigMember.refl)
  | hostConfig =>
    refine h.recordsAlike (fun k x _ => hroot k x) fun x y hxy => ?_
    cases hxy with
    | here h => exact .inl (h.recordsAlike hhost)
  | graphDriver =>
    refine h.recordsAlike (fun k x _ => hroot k x) fun x y hxy => ?_
    cases hxy with
    | here h => exact .inr (h.recordsAlike fun _ _ _ => .inl rfl)
  | graphData =>
    refine h.recordsAlike (fun k x _ => hroot k x) fun x y hxy => .inr ?_
    refine hxy.recordsAlike (fun _ _ _ _ => .inl rfl) fun x y hxy _ => .inr ?_
    cases hxy with
    | here h => exact h.recordsAlike fun _ _ _ => rfl
  | state =>
    refine h.recordsAlike (fun k x _ => hroot k x) fun x y hxy => ?_
    cases hxy with
    | here h => exact .inr (h.recordsAlike fun _ _ _ => rfl)
  | device n =>
    refine h.recordsAlike (fun k x _ => hroot k x) fun x y hxy => .inl ?_
    refine hxy.recordsAlike (fun k x _ => hhost k x) fun x y hxy => ?_
    have hitem (a b : Json) (hab : DiffersAt (DropsNull key record) [] a b) :
        Agree Eq (DeviceMapping.ofInspect a) (DeviceMapping.ofInspect b) := by
      cases hab with
      | here h => exact DeviceMapping.ofInspect_eq h ▸ Agree.refl (fun _ => rfl) _
    refine Agree.eq ((readEach_agree hxy hitem).mono fun xs ys hrows => ?_)
    obtain ⟨device, _, hdevice, rfl, rfl⟩ := hrows
    exact (set_eq_self hdevice).symm
  | mount n => exact absurd rfl (hmount n)
  | ulimit n => exact absurd rfl (hulimit n)

private theorem recordsAlike_of_mount {n : Nat} (hU : ∀ us, U us us)
    (h : DiffersAt (DropsNull key record) (Record.mount n).route v w) :
    RecordsAlike (RootMember (MountsVary (key = "RW")) U) v w := by
  refine h.recordsAlike (fun k x hk => .refl (fun hmounts => absurd hmounts hk) (fun _ => hU) x)
    fun x y hxy => ?_
  refine (readEach_agree hxy fun a b hab => ?_).mono fun ms ns => Conversion.mountsVary_of_refilled
  cases hab with
  | here h => exact MountRecord.ofInspect_refilled h

private theorem recordsAlike_of_ulimit {n : Nat} (hM : ∀ ms, M ms ms)
    (h : DiffersAt (DropsNull key record) (Record.ulimit n).route v w) :
    RecordsAlike (RootMember M (UlimitsVary ((key = "Soft" ∨ key = "Hard") ∧
      ∃ name, record.memberOr "Name" void = .ok name ∧ ¬ name.isVoid))) v w := by
  refine h.recordsAlike (fun k x hk => .refl (fun _ => hM) (fun hhost => absurd hhost hk) x)
    fun x y hxy => .inl ?_
  refine hxy.recordsAlike (fun k x hk => .refl (fun hulimits => absurd hulimits hk)
    (fun _ _ => rfl) (fun _ _ => rfl) x) fun x y hxy => ?_
  refine (readEach_agree hxy fun a b hab => ?_).mono fun us vs =>
    Conversion.ulimitsVary_of_refilled
  cases hab with
  | here h => exact Ulimit.ofInspect_refilled h

def bundleOfInspect (view : HostView) (v : Json) (info : DaemonInfo) (hooks : HookSource)
    (rootfs peers : Json) : Traced Bundle := do
  let s ← Snapshot.ofInspect v
  generate view s info hooks rootfs peers

/-- A null member and an absent one lead to the same fault or the same descriptors, but for the
access to a mount and the bounds of a limit with a name, where they lead to different ones. -/
theorem null_converted_as_absent (h : DiffersAt (DropsNull key record) r.route v w)
    (view : HostView) (info : DaemonInfo) (hooks : HookSource) (rootfs peers : Json) :
    Agree (fun bundle other =>
        (other.config = bundle.config ↔ ¬ r.DecidesAccess key) ∧
        (other.runtime = bundle.runtime ↔ ¬ r.BoundsLimit key record))
      (bundleOfInspect view v info hooks rootfs peers).outcome
      (bundleOfInspect view w info hooks rootfs peers).outcome := by
  have halike : RecordsAlike (RootMember (MountsVary (r.DecidesAccess key))
      (UlimitsVary (r.BoundsLimit key record))) v w := by
    cases r with
    | mount n =>
      have haccess : (Record.mount n).DecidesAccess key ↔ key = "RW" := by
        simp [Record.DecidesAccess]
      rw [haccess]
      exact recordsAlike_of_mount (.refl (by simp [Record.BoundsLimit])) h
    | ulimit n =>
      have hbounds : (Record.ulimit n).BoundsLimit key record ↔ (key = "Soft" ∨ key = "Hard") ∧
          ∃ name, record.memberOr "Name" void = .ok name ∧ ¬ name.isVoid := by
        simp [Record.BoundsLimit]
      rw [hbounds]
      exact recordsAlike_of_ulimit (.refl (by simp [Record.DecidesAccess])) h
    | _ =>
      refine recordsAlike_of_dropsNull (.refl ?_) (.refl ?_) ?_ ?_ h
      all_goals simp [Record.DecidesAccess, Record.BoundsLimit]
  simp only [bundleOfInspect, Traced.outcome_bind]
  exact (Snapshot.ofInspect_agree halike).bind fun s t hvaries => generate_varies hvaries

theorem null_converted_as_absent_of_limit :
    let view : HostView := ⟨fun _ => .error (.system .missing), fun _ => none⟩
    let info : DaemonInfo := { defaultCapabilities := [] }
    let container (bounds : List (String × Json)) : Json :=
      .obj [("Id", .str "web"), ("Config", .obj []),
        ("HostConfig", .obj [("Ulimits", .arr [.obj (("Name", .str "nofile") :: bounds)])]),
        ("GraphDriver", .obj [("Data", .obj [("MergedDir", .str "/r")])])]
    ∃ bundle other,
      (bundleOfInspect view (container [("Soft", .null)]) info (.compiled {}) .null .null).outcome =
        .ok bundle ∧
      (bundleOfInspect view (container []) info (.compiled {}) .null .null).outcome = .ok other ∧
      other.config = bundle.config ∧ other.runtime ≠ bundle.runtime := by
  intro view info container
  have hdrops : DiffersAt
      (DropsNull "Soft" (.obj [("Name", .str "nofile"), ("Soft", .null)]))
      (Record.ulimit 0).route (container [("Soft", .null)]) (container []) :=
    .member rfl (.member rfl (.item rfl (.here (.obj rfl))))
  have hends := null_converted_as_absent hdrops view info (.compiled {}) .null .null
  obtain ⟨bundle, hbundle⟩ : ∃ bundle, (bundleOfInspect view (container [("Soft", .null)]) info
      (.compiled {}) .null .null).outcome = .ok bundle := ⟨_, rfl⟩
  obtain ⟨other, hother, hconfig, hruntime⟩ := hends.exists_of_ok hbundle
  refine ⟨bundle, other, hbundle, hother, hconfig.mpr ?_, fun hsame => hruntime.mp hsame ?_⟩
  · simp [Record.DecidesAccess]
  · exact ⟨⟨0, rfl⟩, .inl rfl, .str "nofile", rfl, by decide⟩

/-- A mount whose access is null is read-only, and without the member it is writable. -/
theorem access_of_null_and_absent :
    let view : HostView := ⟨fun _ => .error (.system .missing), fun _ => none⟩
    let info : DaemonInfo := { defaultCapabilities := [] }
    let container (access : List (String × Json)) : Json :=
      .obj [("Id", .str "web"), ("Config", .obj []), ("HostConfig", .obj []),
        ("GraphDriver", .obj [("Data", .obj [("MergedDir", .str "/r")])]),
        ("Mounts", .arr [.obj (("Destination", .str "/data") :: access)])]
    ∃ bundle other,
      (bundleOfInspect view (container [("RW", .null)]) info (.compiled {}) .null .null).outcome =
        .ok bundle ∧
      (bundleOfInspect view (container []) info (.compiled {}) .null .null).outcome = .ok other ∧
      bundle.config.mounts.getLast?.map (·.options) = some [.str "rbind", .str "ro"] ∧
      other.config.mounts.getLast?.map (·.options) = some [.str "rbind", .str "rw"] := by
  intro view info container
  exact ⟨_, _, rfl, rfl, rfl, rfl⟩

end ContainerBundle
