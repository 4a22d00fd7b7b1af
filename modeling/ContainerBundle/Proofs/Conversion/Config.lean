import Mathlib
import ContainerBundle.Conversion.Config
import ContainerBundle.Proofs.Conversion.Identity
/-!
# When a configuration is refused

A container without a root filesystem has no configuration. Any other has one, unless one of the
tokens of its identity is a row of digits that writes no integer; tokens that are found nowhere
leave warnings and nothing else.
-/
namespace ContainerBundle

open Json

def Snapshot.Rootless (s : Snapshot) (rootfs : Option String) : Prop :=
  (Json.ofText? rootfs).isVoid ∧ s.rootfs.isVoid

instance (s : Snapshot) (rootfs : Option String) : Decidable (s.Rootless rootfs) :=
  inferInstanceAs (Decidable (_ ∧ _))

private theorem Snapshot.Declared.root_cases {s : Snapshot} (hs : s.Declared)
    (rootfs : Option String) :
    (s.rootfs.orElse (Json.ofText? rootfs)).isVoid ∨
      (s.rootfs.orElse (Json.ofText? rootfs)).IsText := by
  rw [Json.orElse]
  split
  · cases rootfs with
    | none => exact Or.inl rfl
    | some root => exact Or.inr ⟨root, rfl⟩
  · exact Or.inr hs.rootfs

theorem Snapshot.Declared.shortId {s : Snapshot} (hs : s.Declared) : ∃ id, s.shortId = .ok id := by
  obtain ⟨id, hid⟩ := hs.id
  exact ⟨_, by rw [Snapshot.shortId, hid]; rfl⟩

namespace Conversion

open Descriptor

variable {files : Files} {s : Snapshot} {info : DaemonInfo} {rootfs : Option String}

private theorem environment_declared (hs : s.Declared) : ∃ env, environment s.env = .ok env := by
  have heach : ∀ v ∈ s.env, ∃ entry, Json.text .splitting v = .ok entry ∧ True := by
    intro v hv
    obtain ⟨entry, rfl⟩ := hs.env v hv
    exact ⟨entry, rfl, trivial⟩
  obtain ⟨entries, hentries, -⟩ := exists_mapM heach
  exact ⟨_, by rw [environment, hentries]; rfl⟩

private theorem platform_declared (hinfo : info.Declared) : ∃ p, platform info = .ok p := by
  obtain ⟨arch, harch⟩ := hinfo.architecture
  exact ⟨_, by rw [platform, harch]; rfl⟩

private theorem mountOf_declared {r : MountRecord} (h : r.Declared) :
    ∃ m, mountOf r = .ok m ∧ m.destination.IsText := by
  obtain ⟨mode, hmode⟩ := h.mode
  exact ⟨_, by rw [mountOf, hmode]; rfl, h.destination⟩

private theorem keepFree_quiet (taken : List Json) (builtIns : List BuiltInMount) :
    ∃ kept, (keepFree taken builtIns).outcome = .ok kept ∧
      warnings (keepFree taken builtIns).events = [] := by
  induction builtIns with
  | nil => exact ⟨[], rfl, rfl⟩
  | cons b rest ih =>
    obtain ⟨kept, hkept, hquiet⟩ := ih
    rw [keepFree]
    by_cases htaken : taken.any (·.isText b.destination)
    · refine ⟨kept, by rw [if_pos htaken]; exact hkept, ?_⟩
      rw [if_pos htaken]
      exact hquiet
    · refine ⟨b.mount :: kept, ?_, ?_⟩
      · rw [if_neg htaken, Traced.outcome_bind, hkept]
        rfl
      · rw [if_neg htaken, Traced.events_bind_of_ok hkept, Traced.pure_events, List.append_nil,
          hquiet]

private theorem mounts_declared (hs : s.Declared) :
    ∃ list, (mounts s).outcome = .ok list ∧ warnings (mounts s).events = [] := by
  obtain ⟨own, hown, htexts⟩ := exists_mapM (fun r hr => mountOf_declared (hs.mounts r hr))
  have htaken : own.mapM (fun m => m.destination.hashable) = .ok (own.map (·.destination)) := by
    rw [mapM_hashable_destinations, Json.mapM_hashable (List.forall_mem_map.mpr htexts)]
  obtain ⟨kept, hkept, hquiet⟩ :=
    keepFree_quiet (own.map (·.destination)) (defaultMounts ++ networkFiles s)
  have hmounts : mounts s = (do
      let kept ← keepFree (own.map (·.destination)) (defaultMounts ++ networkFiles s)
      pure (kept ++ own)) := by
    rw [mounts, hown, Traced.ofExcept_ok, pure_bind, htaken, Traced.ofExcept_ok, pure_bind]
  rw [hmounts]
  refine ⟨kept ++ own, by rw [Traced.outcome_bind, hkept]; rfl, ?_⟩
  rw [Traced.events_bind_of_ok hkept, Traced.pure_events, List.append_nil, hquiet]

private theorem config_of_rootless (hs : s.Declared) (h : s.Rootless rootfs) :
    ∃ shortId, config files s info (Json.ofText? rootfs) =
      Traced.fail (.conversion (.noRootfs shortId)) := by
  obtain ⟨shortId, hid⟩ := hs.shortId
  have hroot : ((Json.ofText? rootfs).orElse s.rootfs).isVoid := (isVoid_orElse _ _).mpr h
  refine ⟨shortId, ?_⟩
  simp only [config, if_pos hroot, hid, Traced.liftM_eq_ofExcept, Traced.ofExcept_ok, pure_bind]

/-- With a root filesystem, nothing but the identity is refused or leaves a warning. -/
theorem config_of_rooted (hs : s.Declared) (hinfo : info.Declared) (h : ¬ s.Rootless rootfs) :
    ∃ events, ∃ descriptor : User → Config, warnings events = [] ∧
      (∀ user, (descriptor user).process.user = user) ∧
      config files s info (Json.ofText? rootfs) = (do
        let user ← identity files (s.rootfs.orElse (Json.ofText? rootfs)) s
        ⟨events, .ok (descriptor user)⟩) := by
  have hroot : ¬ ((Json.ofText? rootfs).orElse s.rootfs).isVoid :=
    fun hvoid => h ((isVoid_orElse _ _).mp hvoid)
  obtain ⟨env, henv⟩ := environment_declared hs
  obtain ⟨platform, hplatform⟩ := platform_declared hinfo
  obtain ⟨list, hlist, hquiet⟩ := mounts_declared hs
  obtain ⟨shortId, hid⟩ := hs.shortId
  have hmounts : mounts s = ⟨(mounts s).events, .ok list⟩ := by rw [← hlist]
  have hquiet' : warnings ((mounts s).events ++
      [.processConverted shortId (arguments s).length list.length]) = [] := by
    rw [warnings_append, hquiet]
    rfl
  -- The descriptor is read off the conversion itself, with the identity left open.
  apply Exists.intro
  apply Exists.intro
  refine ⟨hquiet', ?own, ?config⟩
  case config =>
    rw [config, if_neg hroot]
    simp only [henv, hplatform, hid, Traced.liftM_eq_ofExcept, Traced.ofExcept_ok, pure_bind]
    rw [hmounts]
    rfl
  case own => exact fun _ => rfl

private theorem warnings_unknownTokens (passwd group : List (List String)) (s : Snapshot) :
    warnings (unknownTokens passwd group s) = remarks (unknownTokens passwd group s) := by
  apply warnings_eq_remarks
  intro event hevent r hr
  have hkind : ∃ token, event = .userUnknown token ∨ event = .groupUnknown token ∨
      event = .extraGroupUnknown token := by
    simp only [unknownTokens, List.mem_append, List.mem_map] at hevent
    rcases hevent with (huser | hprimary) | ⟨token, -, rfl⟩
    · split at huser
      · simp at huser
      · exact ⟨_, Or.inl (List.mem_singleton.mp huser)⟩
    · split at hprimary
      · simp at hprimary
      · exact ⟨_, Or.inr (Or.inl (List.mem_singleton.mp hprimary))⟩
    · exact ⟨token, Or.inr (Or.inr rfl)⟩
  obtain ⟨token, rfl | rfl | rfl⟩ := hkind <;> (cases hr; rfl)

/-- There is no root filesystem, or a token of the identity is illegible, or there is a
configuration, with warnings about the tokens found nowhere. -/
theorem config_ends (hs : s.Declared) (hinfo : info.Declared)
    (hfiles : Account.Readable files (s.rootfs.orElse (Json.ofText? rootfs))) :
    let conversion := config files s info (Json.ofText? rootfs)
    let passwd := Account.table files (s.rootfs.orElse (Json.ofText? rootfs)) "passwd"
    let group := Account.table files (s.rootfs.orElse (Json.ofText? rootfs)) "group"
    (s.Rootless rootfs → ∃ shortId, conversion = Traced.fail (.conversion (.noRootfs shortId))) ∧
    (¬ s.Rootless rootfs → (∃ token ∈ s.identityTokens, Text.Illegible token.toList) →
      ∃ token ∈ s.identityTokens, Text.Illegible token.toList ∧
        ∃ cause, conversion.outcome = .error (.integer token cause)) ∧
    (¬ s.Rootless rootfs → (∀ token ∈ s.identityTokens, ¬ Text.Illegible token.toList) →
      ∃ descriptor, conversion.outcome = .ok descriptor ∧
        descriptor.process.user = knownIdentity passwd group s ∧
        warnings conversion.events = remarks (unknownTokens passwd group s)) := by
  intro conversion passwd group
  have hread : ∀ name ∈ ["passwd", "group"], _ := fun name hname =>
    Account.readTable_of_readable hfiles (hs.root_cases rootfs) hname
  have hpasswd := hread "passwd" (by simp)
  have hgroup := hread "group" (by simp)
  refine ⟨config_of_rootless hs, fun hrooted hbad => ?_, fun hrooted hlegible => ?_⟩
  · obtain ⟨events, descriptor, -, -, hconfig⟩ := config_of_rooted hs hinfo hrooted
    obtain ⟨token, htoken, hillegible, cause, hcause⟩ :=
      identity_of_illegible hs hpasswd hgroup hbad
    refine ⟨token, htoken, hillegible, cause, ?_⟩
    rw [show conversion = _ from hconfig, Traced.outcome_bind, hcause, error_bind]
  · obtain ⟨events, descriptor, hquiet, huser, hconfig⟩ := config_of_rooted hs hinfo hrooted
    have hidentity := identity_of_legible hs hpasswd hgroup hlegible
    rw [show conversion = _ from hconfig, hidentity, Traced.mk_ok_bind]
    refine ⟨_, rfl, huser _, ?_⟩
    rw [warnings_append, hquiet, List.append_nil, warnings_unknownTokens]

theorem config_ends_with_unknown_user :
    let files : Files := fun path =>
      if path = "/r/etc/group" then some ("staff:x:50:".toList.map fun c => UInt8.ofNat c.toNat)
      else none
    let s : Snapshot :=
      { id := .str "web", user := .str "ghost:staff", rootfs := .str "/r"
        groupAdd := [.str "wheel", .str "12"] }
    ∃ descriptor, (config files s {} .null).outcome = .ok descriptor ∧
      descriptor.process.user = { uid := 0, gid := 50, additionalGids := some [12] } ∧
      warnings (config files s {} .null).events =
        [⟨.warning, "ocigen.process", "Looking up user 'ghost' failed, running as uid 0"⟩,
          ⟨.warning, "ocigen.process", "Looking up additional group 'wheel' failed, skipping"⟩] := by
  intro files s
  have hs : s.Declared :=
    { Snapshot.declared_bare "web" with
      user := isText_str _
      rootfs := isText_str _
      groupAdd := by simp [s, isText_str] }
  have hfiles : Account.Readable files (s.rootfs.orElse (Json.ofText? none)) := by
    intro name _ path _ bytes hbytes
    by_cases hpath : path = "/r/etc/group"
    · simp only [files, if_pos hpath, Option.some.injEq] at hbytes
      exact ⟨"staff:x:50:", by rw [← hbytes]; decide +kernel⟩
    · simp [files, hpath] at hbytes
  have hlegible : ∀ token ∈ s.identityTokens, ¬ Text.Illegible token.toList := by
    decide +kernel
  obtain ⟨-, -, hends⟩ := @config_ends files s {} none hs DaemonInfo.declared_default hfiles
  obtain ⟨descriptor, hconfig, huser, hwarnings⟩ := hends (by decide) hlegible
  have hpasswd : Account.table files (.str "/r") "passwd" = [] := rfl
  have hgroup : Account.table files (.str "/r") "group" = [["staff", "x", "50", ""]] := by
    decide +kernel
  have hroot : s.rootfs.orElse (Json.ofText? none) = .str "/r" := rfl
  rw [hroot, hpasswd, hgroup] at huser hwarnings
  exact ⟨descriptor, hconfig, huser, hwarnings⟩

/-- A user that is an ornamental digit: the container has a root filesystem and no configuration. -/
theorem config_of_ornamental_user :
    let s : Snapshot := { id := .str "web", user := .str "²", rootfs := .str "/r" }
    s.Declared ∧ ¬ s.Rootless none ∧
      (config (fun _ => none) s {} .null).outcome = .error (.integer "²" .malformed) := by
  intro s
  have hs : s.Declared :=
    { Snapshot.declared_bare "web" with user := isText_str _, rootfs := isText_str _ }
  exact ⟨hs, by decide, by cbv⟩

end Conversion

end ContainerBundle
