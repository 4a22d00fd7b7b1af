import Mathlib
import ContainerBundle.Proofs.Conversion.Config
/-!
# Built-in mounts that are covered

A built-in mount is left out when a record of the container has its destination to the letter.
Whether it is seen is a question about places: a later mount on the same place, or on a directory
above it, covers it. The two come apart at other spellings of a destination and at directories
above it, and nowhere else.
-/
namespace ContainerBundle

/-- The same place as `lower` or a directory above it, both read from the root. -/
def Path.Above (upper lower : String) : Prop :=
  Path.resolve (Path.components upper) <+: Path.resolve (Path.components lower)

instance (upper lower : String) : Decidable (Path.Above upper lower) :=
  inferInstanceAs (Decidable (_ <+: _))

namespace Snapshot

def destinations (s : Snapshot) : List Json := s.mounts.map (·.destination)

def MountsAbsolute (s : Snapshot) : Prop :=
  ∀ v ∈ s.destinations, ∃ place, v = .str place ∧ Path.isAbsolute place

private theorem mountsAbsolute_of_texts {s : Snapshot} {places : List String}
    (h : s.destinations = places.map Json.str)
    (habsolute : ∀ place ∈ places, Path.isAbsolute place) : s.MountsAbsolute := by
  intro v hv
  rw [h] at hv
  obtain ⟨place, hplace, rfl⟩ := List.mem_map.mp hv
  exact ⟨place, rfl, habsolute place hplace⟩

end Snapshot

namespace Conversion

open Descriptor

variable {s : Snapshot}

/-- One of the destinations is the place of a path, or above it. -/
def Covered (destinations : List Json) (path : String) : Prop :=
  ∃ place, Json.str place ∈ destinations ∧ Path.Above place path

private theorem covered_append {first second : List Json} {path : String} :
    Covered (first ++ second) path ↔ Covered first path ∨ Covered second path := by
  simp only [Covered, List.mem_append, or_and_right, exists_or]

private theorem covered_texts {places : List String} {path : String} :
    Covered (places.map Json.str) path ↔ ∃ place ∈ places, Path.Above place path := by
  simp only [Covered, List.mem_map, Json.str.injEq, exists_eq_right]

def builtIns (s : Snapshot) : List BuiltInMount := defaultMounts ++ networkFiles s

def untaken (s : Snapshot) : List BuiltInMount :=
  (builtIns s).filter fun b => !s.destinations.any (·.isText b.destination)

/-- Of the built-in mounts in a list, none is covered by a mount that comes after it. -/
def NoneCovered (kept : List BuiltInMount) (own : List Mount) : Prop :=
  ∀ front b back, kept = front ++ b :: back →
    ¬ Covered ((back.map (·.mount) ++ own).map (·.destination)) b.destination

theorem networkFiles_sublist (s : Snapshot) :
    ((networkFiles s).map (·.destination)).Sublist
      ["/etc/resolv.conf", "/etc/hostname", "/etc/hosts"] := by
  rw [networkFiles]
  split
  · simp
  · cases hresolv : s.resolvConfPath.isVoid <;> cases hname : s.hostnamePath.isVoid <;>
      cases hhosts : s.hostsPath.isVoid <;> simp [hresolv, hname, hhosts]

private theorem defaultMounts_destination :
    ∀ b ∈ defaultMounts, b.mount.destination = .str b.destination := by
  simp only [defaultMounts, List.forall_mem_cons]
  exact ⟨rfl, rfl, rfl, rfl, rfl, rfl, rfl, by simp⟩

theorem builtIns_destination {b : BuiltInMount} (hb : b ∈ builtIns s) :
    b.mount.destination = .str b.destination := by
  rcases List.mem_append.mp hb with hdefault | hfile
  · exact defaultMounts_destination b hdefault
  · rw [networkFiles] at hfile
    split at hfile
    · simp at hfile
    · obtain ⟨⟨destination, source⟩, -, hb⟩ := List.mem_filterMap.mp hfile
      dsimp only at hb
      split at hb
      · simp at hb
      · rw [← Option.some.inj hb]

theorem builtIns_pairwise (s : Snapshot) :
    (builtIns s).Pairwise fun b c => ¬ Path.Above c.destination b.destination := by
  have hplaces : ((builtIns s).map (·.destination)).Sublist
      (defaultMounts.map (·.destination) ++
        ["/etc/resolv.conf", "/etc/hostname", "/etc/hosts"]) := by
    rw [builtIns, List.map_append]
    exact (List.Sublist.refl _).append (networkFiles_sublist s)
  have hfixed : (defaultMounts.map (·.destination) ++
      ["/etc/resolv.conf", "/etc/hostname", "/etc/hosts"]).Pairwise
        fun upper lower => ¬ Path.Above lower upper := by
    decide +kernel
  exact List.pairwise_map.mp (hfixed.sublist hplaces)

theorem mountOf_of_mode {r : MountRecord} (h : r.mode.IsText) : ∃ m, mountOf r = .ok m := by
  obtain ⟨mode, hmode⟩ := h
  rw [mountOf, hmode]
  exact ⟨_, rfl⟩

theorem mountOf_eq_ok {r : MountRecord} {m : Mount} (h : mountOf r = .ok m) :
    r.mode.IsText ∧ m.destination = r.destination := by
  rw [mountOf] at h
  cases hmode : r.mode with
  | str mode =>
    rw [hmode] at h
    cases h
    exact ⟨Json.isText_str mode, rfl⟩
  | _ =>
    rw [hmode] at h
    cases h

theorem mapM_mountOf {records : List MountRecord} {own : List Mount}
    (h : records.mapM mountOf = .ok own) :
    (∀ r ∈ records, r.mode.IsText) ∧
      own.map (·.destination) = records.map (·.destination) := by
  induction records generalizing own with
  | nil =>
    cases h
    exact ⟨by simp, rfl⟩
  | cons r rest ih =>
    obtain ⟨m, ms, hm, hms, rfl⟩ := mapM_cons_eq_ok_iff.mp h
    have hr := mountOf_eq_ok hm
    have hrest := ih hms
    constructor
    · exact List.forall_mem_cons.mpr ⟨hr.1, hrest.1⟩
    · rw [List.map_cons, List.map_cons, hr.2, hrest.2]

private theorem keepFree_outcome (taken : List Json) (candidates : List BuiltInMount) :
    (keepFree taken candidates).outcome = .ok
      ((candidates.filter fun b => !taken.any (·.isText b.destination)).map (·.mount)) := by
  induction candidates with
  | nil => rfl
  | cons b rest ih =>
    rw [keepFree]
    by_cases htaken : taken.any (·.isText b.destination)
    · rw [if_pos htaken, List.filter_cons_of_neg (by simp [htaken])]
      exact ih
    · rw [if_neg htaken, List.filter_cons_of_pos (by simp [htaken]), Traced.outcome_bind, ih]
      rfl

/-- The list is the built-in mounts that are not taken and then the container's own ones. -/
theorem mounts_of_texts (htexts : ∀ v ∈ s.destinations, v.IsText) {own : List Mount}
    (hown : s.mounts.mapM mountOf = .ok own) :
    (mounts s).outcome = .ok ((untaken s).map (·.mount) ++ own) := by
  have hplaces : own.map (·.destination) = s.destinations := (mapM_mountOf hown).2
  have htaken : own.mapM (fun m => m.destination.hashable) = .ok s.destinations := by
    rw [mapM_hashable_destinations, hplaces, Json.mapM_hashable htexts]
  rw [mounts, hown, Traced.ofExcept_ok, pure_bind, htaken, Traced.ofExcept_ok, pure_bind,
    Traced.outcome_bind, keepFree_outcome]
  rfl

private theorem mounts_of_own (hs : s.MountsAbsolute) {own : List Mount}
    (hown : s.mounts.mapM mountOf = .ok own) :
    (mounts s).outcome = .ok ((untaken s).map (·.mount) ++ own) := by
  apply mounts_of_texts _ hown
  intro v hv
  obtain ⟨place, hplace, -⟩ := hs v hv
  exact ⟨place, hplace⟩

theorem mem_untaken {b : BuiltInMount} :
    b ∈ untaken s ↔ b ∈ builtIns s ∧ Json.str b.destination ∉ s.destinations := by
  rw [untaken, List.mem_filter, Bool.not_eq_true', ← Bool.not_eq_true, List.any_eq_true]
  simp only [Json.isText_iff, exists_eq_right]

/-- No built-in mount covers an earlier one, so a record has to cover one that is kept. -/
theorem covered_after_iff {own : List Mount} (hplaces : own.map (·.destination) = s.destinations)
    {front back : List BuiltInMount} {b : BuiltInMount} (hkept : untaken s = front ++ b :: back) :
    Covered ((back.map (·.mount) ++ own).map (·.destination)) b.destination ↔
      Covered s.destinations b.destination := by
  have hpairs : (untaken s).Pairwise fun b c => ¬ Path.Above c.destination b.destination :=
    (builtIns_pairwise s).sublist List.filter_sublist
  rw [hkept] at hpairs
  have hlater := (List.pairwise_cons.mp (List.pairwise_append.mp hpairs).2.1).1
  have hback : ¬ Covered ((back.map (·.mount)).map (·.destination)) b.destination := by
    rintro ⟨place, hmem, habove⟩
    obtain ⟨m, hm, hplace⟩ := List.mem_map.mp hmem
    obtain ⟨c, hc, rfl⟩ := List.mem_map.mp hm
    have huntaken : c ∈ untaken s := by rw [hkept]; simp [hc]
    rw [builtIns_destination (mem_untaken.mp huntaken).1] at hplace
    rw [← Json.str.inj hplace] at habove
    exact hlater c hc habove
  rw [List.map_append, covered_append, hplaces, or_iff_right hback]

private theorem noneCovered_iff {own : List Mount}
    (hplaces : own.map (·.destination) = s.destinations) :
    NoneCovered (untaken s) own ↔ ∀ b ∈ untaken s, ¬ Covered s.destinations b.destination := by
  constructor
  · intro hnone b hb hcovered
    obtain ⟨front, back, hkept⟩ := List.append_of_mem hb
    exact hnone front b back hkept ((covered_after_iff hplaces hkept).mpr hcovered)
  · intro hfree front b back hkept hcovered
    have hb : b ∈ untaken s := by rw [hkept]; simp
    exact hfree b hb ((covered_after_iff hplaces hkept).mp hcovered)

/-- The built-in mounts that no record takes to the letter come first, then a mount for each record.
A built-in mount is covered by a later one exactly when a record stands on its place or above it, so
none is covered exactly when every one that a record covers is taken to the letter. -/
theorem mounts_covered_iff (hs : s.MountsAbsolute) :
    ((∃ list, (mounts s).outcome = .ok list) ↔ ∀ r ∈ s.mounts, r.mode.IsText) ∧
    ∀ list, (mounts s).outcome = .ok list → ∃ own, s.mounts.mapM mountOf = .ok own ∧
      own.map (·.destination) = s.destinations ∧ list = (untaken s).map (·.mount) ++ own ∧
      (∀ front b back, untaken s = front ++ b :: back →
        (Covered ((back.map (·.mount) ++ own).map (·.destination)) b.destination ↔
          Covered s.destinations b.destination)) ∧
      (NoneCovered (untaken s) own ↔ ∀ b ∈ builtIns s,
        Covered s.destinations b.destination → .str b.destination ∈ s.destinations) := by
  have hown : ∀ list, (mounts s).outcome = .ok list → ∃ own, s.mounts.mapM mountOf = .ok own := by
    intro list hlist
    cases hmapped : s.mounts.mapM mountOf with
    | error fault =>
      rw [mounts, hmapped] at hlist
      cases hlist
    | ok own => exact ⟨own, rfl⟩
  constructor
  · constructor
    · rintro ⟨list, hlist⟩
      obtain ⟨own, hmapped⟩ := hown list hlist
      exact (mapM_mountOf hmapped).1
    · intro hmodes
      have heach : ∀ r ∈ s.mounts, ∃ m, mountOf r = .ok m ∧ True := by
        intro r hr
        obtain ⟨m, hm⟩ := mountOf_of_mode (hmodes r hr)
        exact ⟨m, hm, trivial⟩
      obtain ⟨own, hmapped, -⟩ := exists_mapM heach
      exact ⟨_, mounts_of_own hs hmapped⟩
  · intro list hlist
    obtain ⟨own, hmapped⟩ := hown list hlist
    have hplaces : own.map (·.destination) = s.destinations := (mapM_mountOf hmapped).2
    have hwhole : list = (untaken s).map (·.mount) ++ own := by
      have hmounts := mounts_of_own hs hmapped
      rw [hlist] at hmounts
      exact Except.ok.inj hmounts
    refine ⟨own, hmapped, hplaces, hwhole, fun front b back => covered_after_iff hplaces, ?_⟩
    rw [noneCovered_iff hplaces]
    constructor
    · intro hfree b hb hcovered
      by_contra huntaken
      exact hfree b (mem_untaken.mpr ⟨hb, huntaken⟩) hcovered
    · intro htaken b hb hcovered
      have hkept := mem_untaken.mp hb
      exact hkept.2 (htaken b hkept.1 hcovered)

theorem mounts_covered_iff_of_proc :
    let s : Snapshot :=
      { id := .str "web"
        mounts := [{ destination := .str "/proc" }, { destination := .str "/data" }] }
    s.MountsAbsolute ∧ ∃ own, (mounts s).outcome = .ok ((untaken s).map (·.mount) ++ own) ∧
      NoneCovered (untaken s) own := by
  intro s
  have hplaces : s.destinations = ["/proc", "/data"].map Json.str := rfl
  have hs : s.MountsAbsolute := Snapshot.mountsAbsolute_of_texts hplaces (by decide)
  have hcovers : ∀ b ∈ builtIns s, (∃ place ∈ ["/proc", "/data"], Path.Above place b.destination) →
      b.destination ∈ ["/proc", "/data"] := by
    decide +kernel
  have htaken : ∀ b ∈ builtIns s,
      Covered s.destinations b.destination → .str b.destination ∈ s.destinations := by
    intro b hb hcovered
    rw [hplaces, covered_texts] at hcovered
    rw [hplaces]
    exact List.mem_map_of_mem (hcovers b hb hcovered)
  obtain ⟨hends, hlists⟩ := mounts_covered_iff hs
  obtain ⟨list, hlist⟩ := hends.mpr (by simp [s, Json.isText_str])
  obtain ⟨own, -, -, rfl, -, hnone⟩ := hlists list hlist
  exact ⟨hs, own, hlist, hnone.mpr htaken⟩

/-- What lies below `/dev` and `/proc` is mounted all the same, and then covered. -/
theorem mounts_of_covering_records :
    let s : Snapshot :=
      { id := .str "web"
        mounts := [
          { destination := .str "/dev", source := .str "/srv/dev", kind := .str "bind" },
          { destination := .str "/proc/", source := .str "/srv/proc", kind := .str "bind" }] }
    s.MountsAbsolute ∧ ∃ own, (mounts s).outcome = .ok ((untaken s).map (·.mount) ++ own) ∧
      own.map (·.destination) = ["/dev", "/proc/"].map Json.str ∧
      (untaken s).map (·.destination) =
        ["/proc", "/dev/pts", "/dev/shm", "/dev/mqueue", "/sys", "/sys/fs/cgroup"] ∧
      Covered (own.map (·.destination)) "/proc" ∧ Covered (own.map (·.destination)) "/dev/pts" ∧
      ¬ NoneCovered (untaken s) own := by
  intro s
  have hplaces : s.destinations = ["/dev", "/proc/"].map Json.str := rfl
  have hs : s.MountsAbsolute := Snapshot.mountsAbsolute_of_texts hplaces (by decide)
  have hproc : Covered (["/dev", "/proc/"].map Json.str) "/proc" :=
    covered_texts.mpr ⟨"/proc/", by decide, by decide +kernel⟩
  have hpts : Covered (["/dev", "/proc/"].map Json.str) "/dev/pts" :=
    covered_texts.mpr ⟨"/dev", by decide, by decide +kernel⟩
  have hkept : (untaken s).map (·.destination) =
      ["/proc", "/dev/pts", "/dev/shm", "/dev/mqueue", "/sys", "/sys/fs/cgroup"] := by
    decide +kernel
  refine ⟨hs, _, mounts_of_own hs rfl, rfl, hkept, hproc, hpts, fun hnone => ?_⟩
  have hmem : "/proc" ∈ (untaken s).map (·.destination) := by rw [hkept]; simp
  obtain ⟨b, hb, hname⟩ := List.mem_map.mp hmem
  have hfree := (noneCovered_iff rfl).mp hnone b hb
  rw [hname] at hfree
  exact hfree hproc

end Conversion

end ContainerBundle
