import ContainerBundle.Proofs.Conversion.CoveredMounts
/-!
# The order of the mounts

The list of mounts has three parts: the default mounts, the files that the daemon manages, and the
container's own mounts, one for each record in the order of the records. A built-in mount is left
out when a record has its destination and for no other reason. So a built-in destination is in the
list once, or else as often as the records have it.
-/
namespace ContainerBundle

def Snapshot.managedFiles (s : Snapshot) : List (String × Json) :=
  [("/etc/resolv.conf", s.resolvConfPath), ("/etc/hostname", s.hostnamePath),
    ("/etc/hosts", s.hostsPath)]

namespace Conversion

open Descriptor

variable {s : Snapshot} {own : List Mount} {path : String}

/-- Of the mounts on offer those are kept, in their order, whose destination no record has. -/
structure Spared (s : Snapshot) (offered kept : List BuiltInMount) : Prop where
  order : kept.Sublist offered
  mem_iff : ∀ b, b ∈ kept ↔ b ∈ offered ∧ .str b.destination ∉ s.destinations

def fileMount (file : String) (source : Json) : BuiltInMount where
  destination := file
  mount := { destination := .str file, kind := .str "bind", source
             options := ["rbind", "rprivate", "rw"].map Json.str }

/-- The managed files with a source, in a network of the container's own. -/
structure OffersFiles (s : Snapshot) (files : List BuiltInMount) : Prop where
  order : (files.map (·.destination)).Sublist (s.managedFiles.map (·.1))
  mem_iff : ∀ b, b ∈ files ↔
    s.namespaces.network ≠ .str "host" ∧ s.namespaces.network ≠ .str "none" ∧
      ∃ file ∈ s.managedFiles, file.2.isVoid = false ∧ b = fileMount file.1 file.2

def occurrences (path : String) (list : List Mount) : Nat :=
  list.countP (·.destination.isText path)

private theorem spared_filter (s : Snapshot) (offered : List BuiltInMount) :
    Spared s offered (offered.filter fun b => !s.destinations.any (·.isText b.destination)) := by
  constructor
  · exact List.filter_sublist
  · intro b
    rw [List.mem_filter, Bool.not_eq_true', ← Bool.not_eq_true, List.any_eq_true]
    simp only [Json.isText_iff, exists_eq_right]

private theorem networkFiles_offered (s : Snapshot) : OffersFiles s (networkFiles s) := by
  constructor
  · exact networkFiles_sublist s
  · intro b
    rw [networkFiles]
    by_cases hshared : s.namespaces.network.isText "host" || s.namespaces.network.isText "none"
    · rw [if_pos hshared]
      rw [Bool.or_eq_true, Json.isText_iff, Json.isText_iff] at hshared
      constructor
      · intro hb
        cases hb
      · rintro ⟨hhost, hnone, -⟩
        exact absurd hshared (not_or.mpr ⟨hhost, hnone⟩)
    · rw [if_neg hshared, List.mem_filterMap]
      rw [Bool.or_eq_true, Json.isText_iff, Json.isText_iff, not_or] at hshared
      have hfile : ∀ file : String × Json,
          (if file.2.isVoid then none else some (fileMount file.1 file.2)) = some b ↔
            file.2.isVoid = false ∧ b = fileMount file.1 file.2 := by
        intro file
        cases file.2.isVoid <;> simp [eq_comm]
      constructor
      · rintro ⟨file, hmem, hb⟩
        exact ⟨hshared.1, hshared.2, file, hmem, (hfile file).mp hb⟩
      · rintro ⟨-, -, file, hmem, hb⟩
        exact ⟨file, hmem, (hfile file).mpr hb⟩

private theorem mapM_eq_ok_iff_forall₂ {records : List MountRecord} :
    records.mapM mountOf = .ok own ↔
      List.Forall₂ (fun r m => mountOf r = .ok m) records own := by
  induction records generalizing own with
  | nil => cases own <;> simp [pure, Except.pure]
  | cons r rest ih =>
    rw [mapM_cons_eq_ok_iff]
    constructor
    · rintro ⟨m, others, hm, hrest, rfl⟩
      exact .cons hm (ih.mp hrest)
    · intro h
      cases h with
      | cons hm hrest => exact ⟨_, _, hm, ih.mpr hrest, rfl⟩

private theorem occurrences_append (path : String) (first second : List Mount) :
    occurrences path (first ++ second) = occurrences path first + occurrences path second :=
  List.countP_append

private theorem occurrences_own (h : own.map (·.destination) = s.destinations) (path : String) :
    occurrences path own = s.destinations.countP (·.isText path) := by
  rw [← h, List.countP_map]
  rfl

private theorem nodup_builtIns (s : Snapshot) : ((builtIns s).map (·.destination)).Nodup := by
  apply List.pairwise_map.mpr
  apply (builtIns_pairwise s).imp
  intro b c hapart hsame
  apply hapart
  rw [hsame]
  exact List.prefix_rfl

private theorem occurrences_untaken (path : String) (s : Snapshot) :
    occurrences path ((untaken s).map (·.mount)) =
      ((untaken s).map (·.destination)).count path := by
  rw [occurrences, List.countP_map, List.count, List.countP_map]
  apply List.countP_congr
  intro b hb
  have hplace := builtIns_destination (mem_untaken.mp hb).1
  simp [hplace, Json.isText]

private theorem occurrences_untaken_of_taken (h : .str path ∈ s.destinations) :
    occurrences path ((untaken s).map (·.mount)) = 0 := by
  rw [occurrences_untaken, List.count_eq_zero]
  intro hmem
  obtain ⟨b, hb, rfl⟩ := List.mem_map.mp hmem
  exact (mem_untaken.mp hb).2 h

private theorem occurrences_untaken_of_free (h : .str path ∉ s.destinations) :
    occurrences path ((untaken s).map (·.mount)) =
      if path ∈ (builtIns s).map (·.destination) then 1 else 0 := by
  have hnodup : ((untaken s).map (·.destination)).Nodup :=
    (nodup_builtIns s).sublist (List.filter_sublist.map _)
  have hkept :
      path ∈ (untaken s).map (·.destination) ↔ path ∈ (builtIns s).map (·.destination) := by
    simp only [List.mem_map, mem_untaken]
    constructor
    · rintro ⟨b, ⟨hb, -⟩, hname⟩
      exact ⟨b, hb, hname⟩
    · rintro ⟨b, hb, rfl⟩
      exact ⟨b, ⟨hb, h⟩, rfl⟩
  rw [occurrences_untaken, hnodup.count]
  simp only [hkept]

private theorem own_of_mounts {list : List Mount} (h : (mounts s).outcome = .ok list) :
    ∃ own, s.mounts.mapM mountOf = .ok own := by
  obtain ⟨own, hown, -⟩ := Traced.bind_eq_ok_iff.mp h
  exact ⟨own, hown⟩

private theorem mounts_exist_iff (hs : ∀ v ∈ s.destinations, v.IsText) :
    (∃ list, (mounts s).outcome = .ok list) ↔ ∀ r ∈ s.mounts, r.mode.IsText := by
  constructor
  · rintro ⟨list, hlist⟩
    obtain ⟨own, hown⟩ := own_of_mounts hlist
    exact (mapM_mountOf hown).1
  · intro hmodes
    have heach : ∀ r ∈ s.mounts, ∃ m, mountOf r = .ok m ∧ True := by
      intro r hr
      obtain ⟨m, hm⟩ := mountOf_of_mode (hmodes r hr)
      exact ⟨m, hm, trivial⟩
    obtain ⟨own, hown, -⟩ := exists_mapM heach
    exact ⟨_, mounts_of_texts hs hown⟩

/-- The default mounts and the managed files whose destination no record takes, in this order, and
then one mount for each record. A destination of a record occurs as often as the records have it;
any other occurs once if a built-in mount on offer has it. -/
theorem mounts_in_order (hs : ∀ r ∈ s.mounts, r.destination.IsText) :
    ((∃ list, (mounts s).outcome = .ok list) ↔ ∀ r ∈ s.mounts, r.mode.IsText) ∧
    ∀ list, (mounts s).outcome = .ok list → ∃ defaults offered files own,
      list = defaults.map (·.mount) ++ (files.map (·.mount) ++ own) ∧
      Spared s defaultMounts defaults ∧ OffersFiles s offered ∧ Spared s offered files ∧
      List.Forall₂ (fun r m => mountOf r = .ok m) s.mounts own ∧
      (∀ path, .str path ∈ s.destinations →
        occurrences path list = s.destinations.countP (·.isText path)) ∧
      ∀ path, .str path ∉ s.destinations → occurrences path list =
        if path ∈ (defaultMounts ++ offered).map (·.destination) then 1 else 0 := by
  have htexts : ∀ v ∈ s.destinations, v.IsText := List.forall_mem_map.mpr hs
  refine ⟨mounts_exist_iff htexts, fun list hlist => ?_⟩
  obtain ⟨own, hown⟩ := own_of_mounts hlist
  have hplaces : own.map (·.destination) = s.destinations := (mapM_mountOf hown).2
  have hwhole : list = (untaken s).map (·.mount) ++ own := by
    rw [mounts_of_texts htexts hown] at hlist
    exact (Except.ok.inj hlist).symm
  have hcount (path : String) : occurrences path list =
      occurrences path ((untaken s).map (·.mount)) + s.destinations.countP (·.isText path) := by
    rw [hwhole, occurrences_append, occurrences_own hplaces]
  refine ⟨_, networkFiles s, _, own, ?_, spared_filter s defaultMounts, networkFiles_offered s,
    spared_filter s (networkFiles s), mapM_eq_ok_iff_forall₂.mp hown, ?_, ?_⟩
  · rw [hwhole, untaken, builtIns, List.filter_append, List.map_append, List.append_assoc]
  · intro path hpath
    rw [hcount, occurrences_untaken_of_taken hpath, Nat.zero_add]
  · intro path hfree
    have hnone : s.destinations.countP (·.isText path) = 0 := by
      rw [List.countP_eq_zero]
      intro v hv htext
      rw [Json.isText_iff.mp htext] at hv
      exact hfree hv
    rw [hcount, occurrences_untaken_of_free hfree, hnone]
    rfl

theorem mounts_in_order_of_repeated :
    let s : Snapshot :=
      { id := .str "web", resolvConfPath := .str "/run/resolv.conf", hostsPath := .str "/run/hosts"
        mounts := [
          { destination := .str "/data", source := .str "/srv/old" },
          { destination := .str "/proc" }, { destination := .str "/etc/hosts" },
          { destination := .str "/data", source := .str "/srv/new" }] }
    defaultMounts.map (·.destination) =
        ["/proc", "/dev", "/dev/pts", "/dev/shm", "/dev/mqueue", "/sys", "/sys/fs/cgroup"] ∧
    (∀ r ∈ s.mounts, r.destination.IsText) ∧ ∃ list, (mounts s).outcome = .ok list ∧
      list.map (·.destination) = ["/dev", "/dev/pts", "/dev/shm", "/dev/mqueue", "/sys",
        "/sys/fs/cgroup", "/etc/resolv.conf", "/data", "/proc", "/etc/hosts", "/data"].map .str ∧
      occurrences "/data" list = 2 ∧ occurrences "/proc" list = 1 ∧
      occurrences "/etc/hosts" list = 1 ∧ occurrences "/dev" list = 1 ∧
      occurrences "/etc/resolv.conf" list = 1 := by
  intro s
  have hs : ∀ r ∈ s.mounts, r.destination.IsText := by simp [s, Json.isText_str]
  obtain ⟨hends, hlists⟩ := mounts_in_order hs
  obtain ⟨list, hlist⟩ := hends.mpr (by simp [s, Json.isText_str])
  obtain ⟨-, offered, -, -, -, -, hoffered, -, -, htaken, hfree⟩ := hlists list hlist
  have hplaces : s.destinations = ["/data", "/proc", "/etc/hosts", "/data"].map .str := rfl
  have hdev : "/dev" ∈ defaultMounts.map (·.destination) := by decide
  have hresolv : fileMount "/etc/resolv.conf" (.str "/run/resolv.conf") ∈ offered :=
    (hoffered.mem_iff _).mpr ⟨by simp [s], by simp [s],
      ("/etc/resolv.conf", .str "/run/resolv.conf"), by simp [s, Snapshot.managedFiles], rfl, rfl⟩
  have hlisted : (mounts s).outcome.map (·.map (·.destination)) = .ok
      (["/dev", "/dev/pts", "/dev/shm", "/dev/mqueue", "/sys", "/sys/fs/cgroup",
        "/etc/resolv.conf", "/data", "/proc", "/etc/hosts", "/data"].map .str) := rfl
  rw [hlist] at hlisted
  refine ⟨rfl, hs, list, hlist, Except.ok.inj hlisted, ?_, ?_, ?_, ?_, ?_⟩
  · rw [htaken "/data" (by simp [hplaces])]
    decide
  · rw [htaken "/proc" (by simp [hplaces])]
    decide
  · rw [htaken "/etc/hosts" (by simp [hplaces])]
    decide
  · rw [hfree "/dev" (by simp [hplaces]), List.map_append, if_pos (List.mem_append_left _ hdev)]
  · have hfile : "/etc/resolv.conf" ∈ offered.map (·.destination) := List.mem_map_of_mem hresolv
    rw [hfree "/etc/resolv.conf" (by simp [hplaces]), List.map_append,
      if_pos (List.mem_append_right _ hfile)]

end Conversion

end ContainerBundle
