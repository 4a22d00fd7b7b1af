import ContainerBundle.Proofs.Daemon.Readings
import ContainerBundle.Proofs.Json.Rearranging
/-!
# Answers with their members in another order

The daemon's answers are read by names, and the fields that are read hold scalars, lists of them,
records and lists of records. So an answer of these types is read alike whatever the order of its
members, except for the kernel parameters, which are read in the order of their object.
-/
namespace ContainerBundle

open Json

def mountMembers : List String :=
  ["Destination", "Source", "Type", "Name", "Mode", "RW", "Propagation"]

def deviceMembers : List String := ["PathOnHost", "PathInContainer", "CgroupPermissions"]

def ulimitMembers : List String := ["Name", "Soft", "Hard"]

def HostType (key : String) (x : Json) : Prop :=
  if key = "Devices" then Tables (FlatAmong deviceMembers) x
  else if key = "Ulimits" then Tables (FlatAmong ulimitMembers) x
  else if key = "Sysctls" then Table (fun _ => IsScalar) x
  else FlatAmong ("Privileged" :: hostLists ++ hostMembers) key x

def DriverType (key : String) (x : Json) : Prop :=
  key = "Data" → Table (FlatAmong dataMembers) x

/-- The types of an inspected container's members. A member that is not read may hold anything. -/
def ContainerType (key : String) (x : Json) : Prop :=
  if key = "Config" then Table (FlatAmong (configLists ++ configMembers)) x
  else if key = "HostConfig" then Table HostType x
  else if key = "GraphDriver" then Table DriverType x
  else if key = "State" then Table (FlatAmong stateMembers) x
  else if key = "Mounts" then Tables (FlatAmong mountMembers) x
  else FlatAmong ("Args" :: rootMembers) key x

def InfoType : String → Json → Prop :=
  FlatAmong ("SecurityOptions" :: "DefaultCapabilities" :: infoMembers)

variable {v w x y : Json} {keys : List String} {T : String → Json → Prop}

theorem MountRecord.ofInspect_rearranged (h : Rearranged v w)
    (hv : Keyed (FlatAmong mountMembers) v) : ofInspect v = ofInspect w := by
  obtain ⟨members, others, rfl, rfl, hfind⟩ := h.lookup_eq hv
  simp (disch := decide) only [ofInspect, given, member, memberOr, hfind]

theorem DeviceMapping.ofInspect_rearranged (h : Rearranged v w)
    (hv : Keyed (FlatAmong deviceMembers) v) : ofInspect v = ofInspect w := by
  obtain ⟨members, others, rfl, rfl, hfind⟩ := h.lookup_eq hv
  simp (disch := decide) only [ofInspect, given, member, hfind]

theorem Ulimit.ofInspect_rearranged (h : Rearranged v w)
    (hv : Keyed (FlatAmong ulimitMembers) v) : ofInspect v = ofInspect w := by
  obtain ⟨members, others, rfl, rfl, hfind⟩ := h.lookup_eq hv
  simp (disch := decide) only [ofInspect, memberOr, hfind]

private theorem readEach_rearranged {read : Json → Except Fault α} (h : Rearranged v w)
    (hv : Tables T v)
    (hread : ∀ x y, Rearranged x y → Keyed T x → read x = read y) :
    readEach read v = readEach read w := by
  rcases hv with rfl | ⟨items, rfl, hitems⟩
  · cases h
    rfl
  · cases h with
    | same => rfl
    | @arr items others h =>
      have hlist (items : List Json) : readEach read (.arr items) = items.mapM read := by
        cases items <;> rfl
      rw [hlist, hlist]
      induction h with
      | nil => rfl
      | cons hitem _ ih =>
        obtain ⟨hfirst, hrest⟩ := List.forall_mem_cons.mp hitems
        rw [List.mapM_cons, List.mapM_cons, hread _ _ hitem hfirst, ih hrest]

private theorem eq_or_recordsAlike {P : String → Json → Json → Prop} (h : Rearranged v w)
    (hv : Table T v)
    (hnull : ∀ key, P key .null .null)
    (hmember : ∀ key x y, v.member key = .ok x → w.member key = .ok y → T key x →
      Rearranged x y → P key x y) : v = w ∧ v = .null ∨ RecordsAlike P v w := by
  rcases hv with rfl | hv
  · cases h
    exact .inl ⟨rfl, rfl⟩
  · exact .inr (h.recordsAlike hv hnull hmember)

private theorem sectionAlike_of_rearranged {P : String → Json → Json → Prop} (h : Rearranged v w)
    (hv : Table T v) (hnull : ∀ key, P key .null .null)
    (hmember : ∀ key x y, v.member key = .ok x → w.member key = .ok y → T key x →
      Rearranged x y → P key x y) : SectionAlike P v w := by
  rcases eq_or_recordsAlike h hv hnull hmember with ⟨rfl, rfl⟩ | halike
  · exact .inr ⟨rfl, fun members hobj => Json.noConfusion hobj⟩
  · exact .inl halike

private theorem recordsAlike_of_flat (h : Rearranged v w) (hv : Table (FlatAmong keys) v) :
    v = w ∨ RecordsAlike (SameAmong keys) v w := by
  rcases eq_or_recordsAlike h hv (fun _ _ => rfl)
    (fun key x y _ _ hflat hxy hkey => hxy.eq_of_isFlat (hflat hkey)) with ⟨hsame, -⟩ | halike
  · exact .inl hsame
  · exact .inr halike

def sysctlsOf (v : Json) : Except Fault Json := do
  let host ← v.member "HostConfig"
  host.member "Sysctls"

/-- The same pairs in another order, no key being repeated. -/
def Reordered (pairs others : List (String × Json)) : Prop :=
  pairs.Perm others ∧ (pairs.map Prod.fst).Nodup

private theorem readPairs_obj (members : List (String × Json)) :
    readPairs (.obj members) = .ok members := by
  cases members <;> rfl

private theorem readPairs_rearranged (h : Rearranged x y) (hx : Table (fun _ => IsScalar) x) :
    Agree Reordered (readPairs x) (readPairs y) := by
  rcases hx with rfl | hx
  · cases h
    exact .held ⟨.nil, List.nodup_nil⟩
  · cases hx with
    | @obj members hkeys hscalars =>
      obtain ⟨others, rfl⟩ := h.exists_obj
      rw [readPairs_obj, readPairs_obj]
      exact .held ⟨perm_of_rearranged h hscalars, hkeys⟩

variable {S : List (String × Json) → List (String × Json) → Prop}

private theorem hostType_null (key : String) : HostType key .null := by
  rw [HostType]
  split
  · exact .inl rfl
  split
  · exact .inl rfl
  split
  · exact .inl rfl
  · exact fun _ => trivial

private theorem hostMember_of_rearranged {key : String} (h : Rearranged x y) (hx : HostType key x)
    (hsysctls : key = "Sysctls" → Table (fun _ => IsScalar) x →
      Agree S (readPairs x) (readPairs y)) : HostMember { sysctls := S } key x y := by
  rw [HostType] at hx
  rw [HostMember]
  by_cases hdevices : key = "Devices"
  · subst hdevices
    exact readEach_rearranged h hx fun _ _ => DeviceMapping.ofInspect_rearranged
  by_cases hulimits : key = "Ulimits"
  · subst hulimits
    have hsame := readEach_rearranged h hx fun _ _ => Ulimit.ofInspect_rearranged
    exact hsame ▸ Agree.refl (fun _ => rfl) _
  rw [if_neg hdevices, if_neg hulimits] at hx ⊢
  by_cases hkey : key = "Sysctls"
  · subst hkey
    exact hsysctls rfl hx
  rw [if_neg hkey] at hx ⊢
  have hflat (hread : key ∈ "Privileged" :: hostLists ++ hostMembers) : x = y :=
    h.eq_of_isFlat (hx hread)
  by_cases hlist : key ∈ hostLists
  · rw [if_pos hlist, hflat (by simp [hlist])]
  rw [if_neg hlist]
  by_cases hprivileged : key = "Privileged"
  · rw [if_pos hprivileged, hflat (by simp [hprivileged])]
  · rw [if_neg hprivileged]
    exact fun hmember => hflat (by simp [hmember])

private theorem configMember_of_rearranged {key : String} (h : Rearranged x y)
    (hx : FlatAmong (configLists ++ configMembers) key x) : ConfigMember key x y := by
  have hflat (hread : key ∈ configLists ++ configMembers) : x = y := h.eq_of_isFlat (hx hread)
  rw [ConfigMember]
  split
  · rw [hflat (List.mem_append_left _ ‹_›)]
  · exact fun hmember => hflat (List.mem_append_right _ hmember)

private theorem driver_of_rearranged (h : Rearranged x y) (hx : Table DriverType x) :
    x = y ∨ RecordsAlike DriverMember x y := by
  rcases eq_or_recordsAlike h hx (fun _ _ => .inl rfl)
    (fun _ _ _ _ _ htype hxy hkey => recordsAlike_of_flat hxy (htype hkey)) with ⟨hsame, -⟩ | halike
  · exact .inl hsame
  · exact .inr halike

private theorem containerMember_of_rearranged {key : String} (h : Rearranged x y)
    (hx : ContainerType key x)
    (hhost : key = "HostConfig" → Table HostType x →
      SectionAlike (HostMember { sysctls := S }) x y) :
    ContainerMember { sysctls := S } key x y := by
  rw [ContainerType] at hx
  rw [ContainerMember]
  by_cases hargs : key = "Args"
  · subst hargs
    rw [h.eq_of_isFlat (hx (by decide))]
    rfl
  rw [if_neg hargs]
  by_cases hconfig : key = "Config"
  · rw [if_pos hconfig] at hx ⊢
    exact sectionAlike_of_rearranged h hx (fun key => ConfigMember.refl key .null)
      fun _ _ _ _ _ htype hxy => configMember_of_rearranged hxy htype
  rw [if_neg hconfig] at hx ⊢
  by_cases hkey : key = "HostConfig"
  · rw [if_pos hkey] at hx ⊢
    exact hhost hkey hx
  rw [if_neg hkey] at hx ⊢
  by_cases hdriver : key = "GraphDriver"
  · rw [if_pos hdriver] at hx ⊢
    exact driver_of_rearranged h hx
  rw [if_neg hdriver] at hx ⊢
  by_cases hstate : key = "State"
  · rw [if_pos hstate] at hx ⊢
    exact recordsAlike_of_flat h hx
  rw [if_neg hstate] at hx ⊢
  by_cases hmounts : key = "Mounts"
  · rw [if_pos hmounts] at hx ⊢
    have hsame := readEach_rearranged h hx fun _ _ => MountRecord.ofInspect_rearranged
    exact hsame ▸ Agree.refl (fun _ => rfl) _
  rw [if_neg hmounts] at hx ⊢
  exact fun hroot => h.eq_of_isFlat (hx (List.mem_cons_of_mem _ hroot))

private theorem containerType_null (key : String) : ContainerType key .null := by
  rw [ContainerType]
  split
  · exact .inl rfl
  split
  · exact .inl rfl
  split
  · exact .inl rfl
  split
  · exact .inl rfl
  split
  · exact .inl rfl
  · exact fun _ => trivial

private theorem recordsAlike_of_rearranged (h : Rearranged v w) (hv : Keyed ContainerType v)
    (hnone : S [] [])
    (hsysctls : ∀ x y, sysctlsOf v = .ok x → sysctlsOf w = .ok y →
      Table (fun _ => IsScalar) x → Rearranged x y → Agree S (readPairs x) (readPairs y)) :
    RecordsAlike (ContainerMember { sysctls := S }) v w := by
  apply h.recordsAlike hv
  · intro key
    apply containerMember_of_rearranged (.same _) (containerType_null key)
    intro _ _
    exact .inr ⟨rfl, fun members hobj => Json.noConfusion hobj⟩
  · intro key x y hx hy htype hxy
    apply containerMember_of_rearranged hxy htype
    rintro rfl hhost
    apply sectionAlike_of_rearranged hxy hhost
    · intro key
      exact hostMember_of_rearranged (.same _) (hostType_null key) fun _ _ => .held hnone
    · intro key a b ha hb htype hab
      apply hostMember_of_rearranged hab htype
      rintro rfl htable
      apply hsysctls a b _ _ htable hab
      · rw [sysctlsOf, hx, ok_bind, ha]
      · rw [sysctlsOf, hy, ok_bind, hb]

/-- Rearranged containers have the same snapshot, but for the order of the kernel parameters. -/
theorem Snapshot.ofInspect_rearranged (h : Rearranged v w) (hv : Keyed ContainerType v) :
    Agree (Related { sysctls := Reordered }) (ofInspect v) (ofInspect w) :=
  ofInspect_related (recordsAlike_of_rearranged h hv ⟨.nil, List.nodup_nil⟩
    fun _ _ _ _ htable hxy => readPairs_rearranged hxy htable)

theorem Snapshot.ofInspect_of_same_sysctls (h : Rearranged v w) (hv : Keyed ContainerType v)
    (hsame : sysctlsOf v = sysctlsOf w) : ofInspect v = ofInspect w := by
  have halike : RecordsAlike (ContainerMember {}) v w := by
    apply recordsAlike_of_rearranged h hv rfl
    intro x y hx hy _ _
    rw [hx, hy] at hsame
    cases hsame
    exact Agree.refl (fun _ => rfl) _
  apply Agree.eq
  apply (ofInspect_related halike).mono
  intro s t hst
  have hprivileged : s.privileged = t.privileged := hst.privileged
  have hsysctls : s.sysctls = t.sysctls := hst.sysctls
  have houtside := hst.outside
  rw [← hprivileged, ← hsysctls] at houtside
  exact houtside.symm

theorem DaemonInfo.ofInfo_rearranged (h : Rearranged v w) (hv : Keyed InfoType v) :
    ofInfo v = ofInfo w := by
  have halike : RecordsAlike (InfoMember Eq) v w := by
    apply h.recordsAlike hv
    · intro key
      exact .refl (fun _ _ => rfl) .null
    · intro key x y _ _ htype hxy
      by_cases hread : key ∈ "SecurityOptions" :: "DefaultCapabilities" :: infoMembers
      · rw [hxy.eq_of_isFlat (htype hread)]
        exact .refl (fun _ _ => rfl) y
      · simp only [List.mem_cons, not_or] at hread
        rw [InfoMember, if_neg hread.1, if_neg hread.2.1]
        exact fun hmember => absurd hmember hread.2.2
  apply Agree.eq
  apply (ofInfo_agree halike).mono
  intro info other hinfo
  obtain ⟨htemplate, hothers⟩ := hinfo
  rw [← htemplate] at hothers
  exact hothers.symm

end ContainerBundle
