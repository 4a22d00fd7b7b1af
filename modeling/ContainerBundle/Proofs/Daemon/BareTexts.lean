import ContainerBundle.Proofs.Daemon.Readings
/-!
# Texts in the place of lists

Where an answer of the daemon lists texts, a bare text is read as the list of it alone. One member
is read in another way: a bare text in the place of the template of capabilities lists its
characters.
-/
namespace ContainerBundle

open Json

def Enlisted (text : String) (x y : Json) : Prop := x = .str text ∧ y = .arr [.str text]

def characters (text : String) : List String := text.toList.map String.singleton

def Snapshot.textLists : List (List Step) :=
  [.member "Args"] :: configLists.map (fun key => [.member "Config", .member key]) ++
    hostLists.map (fun key => [.member "HostConfig", .member key])

variable {text : String} {x y v w : Json}

private theorem Enlisted.entries_eq (h : Enlisted text x y) : x.entries = y.entries := by
  rw [h.1, h.2]
  rfl

theorem characters_eq_iff : characters text = [text] ↔ text.length = 1 := by
  rw [characters, ← String.length_toList]
  constructor
  · intro h
    simpa using congrArg List.length h
  · intro h
    obtain ⟨c, hc⟩ := List.length_eq_one_iff.mp h
    have htext : text = String.singleton c := String.toList_injective (by simp [hc])
    rw [hc, htext]
    rfl

private theorem recordsAlike_of_enlisted {route : List Step} (hroute : route ∈ Snapshot.textLists)
    (h : DiffersAt (Enlisted text) route v w) : RecordsAlike (RootMember Eq Eq) v w := by
  have hsame (k : String) (x : Json) : RootMember Eq Eq k x x :=
    .refl (fun _ => Eq.refl) (fun _ => Eq.refl) x
  have hentries {x y : Json} (hxy : DiffersAt (Enlisted text) [] x y) : x.entries = y.entries := by
    cases hxy with
    | here h => exact h.entries_eq
  simp only [Snapshot.textLists, List.cons_append, List.mem_cons, List.mem_append,
    List.mem_map] at hroute
  rcases hroute with rfl | ⟨key, hkey, rfl⟩ | ⟨key, hkey, rfl⟩
  · exact h.recordsAlike (fun k x _ => hsame k x) fun x y hxy => hentries hxy
  · refine h.recordsAlike (fun k x _ => hsame k x) fun x y hxy => .inl ?_
    refine hxy.recordsAlike (fun k x _ => ConfigMember.refl k x) fun x y hxy => ?_
    rw [ConfigMember, if_pos hkey]
    exact hentries hxy
  · refine h.recordsAlike (fun k x _ => hsame k x) fun x y hxy => .inl ?_
    refine hxy.recordsAlike (fun k x _ => HostMember.refl (fun _ => Eq.refl) (fun _ => Eq.refl)
      (fun _ => Eq.refl) x) fun x y hxy => ?_
    rw [HostMember, if_pos hkey]
    exact hentries hxy

theorem Snapshot.ofInspect_of_enlisted {route : List Step} (hroute : route ∈ textLists)
    (h : DiffersAt (Enlisted text) route v w) : ofInspect v = ofInspect w := by
  refine Agree.eq ((ofInspect_agree (recordsAlike_of_enlisted hroute h)).mono fun s t hvaries => ?_)
  rw [hvaries.others, ← hvaries.mounts, ← hvaries.ulimits]

namespace DaemonInfo

theorem ofInfo_of_enlisted_options (h : DiffersAt (Enlisted text) [.member "SecurityOptions"] v w) :
    ofInfo v = ofInfo w := by
  have halike : RecordsAlike (InfoMember Eq) v w := by
    refine h.recordsAlike (fun k x _ => InfoMember.refl (fun _ => Eq.refl) x) fun x y hxy => ?_
    cases hxy with
    | here h => exact h.entries_eq
  refine Agree.eq ((ofInfo_agree halike).mono fun info other hinfo => ?_)
  obtain ⟨hlist, hother⟩ := hinfo
  rw [hother, ← hlist]

/-- The template is the text's characters on the one side and the text itself on the other. -/
theorem ofInfo_of_enlisted_template (htext : text ≠ "")
    (h : DiffersAt (Enlisted text) [.member "DefaultCapabilities"] v w) :
    Agree (fun info other => info.defaultCapabilities = (characters text).map .str ∧
      other = { info with defaultCapabilities := [.str text] }) (ofInfo v) (ofInfo w) := by
  have hset : (Json.str text).isVoid = false := by simpa [isVoid] using htext
  have htemplates {x y : Json} (hxy : Enlisted text x y) :
      readTemplate x = .ok ((characters text).map .str) ∧ readTemplate y = .ok [.str text] := by
    rw [hxy.1, hxy.2, readTemplate, readTemplate, orElse, hset]
    exact ⟨by simp [elements, characters], rfl⟩
  have halike : RecordsAlike (InfoMember fun list other =>
      list = (characters text).map .str ∧ other = [.str text]) v w := by
    refine h.recordsAlike (fun k x hk => InfoMember.refl (fun hkey => absurd hkey hk) x)
      fun x y hxy => ?_
    cases hxy with
    | here h =>
      obtain ⟨hcharacters, hlist⟩ := htemplates h
      show Agree _ (readTemplate x) (readTemplate y)
      rw [hcharacters, hlist]
      exact .held ⟨rfl, rfl⟩
  refine (ofInfo_agree halike).mono fun info other hinfo => ?_
  obtain ⟨⟨hcharacters, hlist⟩, hother⟩ := hinfo
  exact ⟨hcharacters, hlist ▸ hother⟩

end DaemonInfo

end ContainerBundle
