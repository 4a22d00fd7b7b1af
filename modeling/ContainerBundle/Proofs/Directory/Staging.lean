import ContainerBundle.Proofs.Directory.Occupancy
/-!
# Staging

Staging documents either fails and leaves the tree that was there, or adds one hidden file for
each document and nothing else. Discarding the files gives the tree back.
-/
namespace ContainerBundle

namespace Tree

/-- Why a document cannot be staged: the schedule fails a call, or its path is not taken. -/
def stagingFault? (t : Tree) (schedule : WriteSchedule) (directory : String) (call : Nat)
    (name : String) : Option OsError :=
  match schedule.stage call, t.stagingPlace schedule directory name with
  | some cause, _ => some cause
  | none, .error cause => some cause
  | none, .ok _ => schedule.permit call

abbrev Load := Staged × String

def Load.document (f : Load) : String × String := (f.1.name, f.2)

def documentEntry (text : String) : Entry := .file descriptorMode text

/-- Trees that arise from `base` by staging: every document lies in a hidden file that was free. -/
inductive Laden (base : Tree) : Tree → List Load → Prop
  | bare : Laden base base []
  | stage {t : Tree} {files : List Load} (s : Staged) (text : String) (above : Place)
      (name : String) : Laden base t files → t.find? s.source = none →
      s.source = above.child name → Hidden name →
      Laden base (t.put s.source (documentEntry text)) (files ++ [(s, text)])

private theorem discard_append (t : Tree) (xs ys : List Staged) :
    t.discard (xs ++ ys) = (t.discard xs).discard ys := by
  simp [discard]

private theorem discard_put_of_ne {t : Tree} {p : Place} (entry : Entry) {staged : List Staged}
    (h : ∀ s ∈ staged, p ≠ s.source) :
    (t.put p entry).discard staged = (t.discard staged).put p entry := by
  induction staged generalizing t with
  | nil => rfl
  | cons s staged ih =>
    simp only [discard, List.foldl_cons]
    rw [erase_put_of_ne entry (h s (by simp))]
    exact ih (fun s' hs' => h s' (by simp [hs']))

theorem find?_discard (t : Tree) (staged : List Staged) (p : Place) :
    (t.discard staged).find? p = if p ∈ staged.map Staged.source then none else t.find? p := by
  induction staged generalizing t with
  | nil => simp [discard]
  | cons s staged ih =>
    have hrest := ih (t.erase s.source)
    simp only [discard, List.foldl_cons] at hrest ⊢
    rw [hrest, find?_erase]
    by_cases hs : p = s.source
    · simp [hs]
    · simp [hs]

namespace Laden

variable {base t : Tree} {files : List Load}

theorem find?_source (h : Laden base t files) {f : Load} (hf : f ∈ files) :
    t.find? f.1.source = some (documentEntry f.2) := by
  induction h with
  | bare => simp at hf
  | stage s text above name _ hfree _ _ ih =>
    rw [find?_put]
    rcases List.mem_append.mp hf with hf | hf
    · have hne : f.1.source ≠ s.source := by
        intro heq
        have hsome := ih hf
        rw [heq, hfree] at hsome
        simp at hsome
      rw [if_neg hne, ih hf]
    · rw [List.mem_singleton.mp hf]
      simp

theorem find?_elsewhere (h : Laden base t files) {p : Place}
    (hp : p ∉ files.map (fun f => f.1.source)) : t.find? p = base.find? p := by
  induction h with
  | bare => rfl
  | stage s text above name _ _ _ _ ih =>
    simp only [List.map_append, List.map_cons, List.map_nil, List.mem_append, List.mem_singleton,
      not_or] at hp
    rw [find?_put, if_neg hp.2, ih hp.1]

private theorem source_ne (h : Laden base t files) {p : Place} (hp : t.find? p = none) :
    ∀ s ∈ files.map (fun f => f.1), p ≠ s.source := by
  intro s hs heq
  obtain ⟨f, hf, rfl⟩ := List.mem_map.mp hs
  have hsome := h.find?_source hf
  rw [← heq, hp] at hsome
  simp at hsome

theorem discard_eq (h : Laden base t files) : t.discard (files.map (fun f => f.1)) = base := by
  induction h with
  | bare => rfl
  | @stage t files s text above name hladen hfree _ _ ih =>
    rw [List.map_append, discard_append, discard_put_of_ne _ (hladen.source_ne hfree), ih]
    have hbase : base.find? s.source = none := by
      rw [← ih, find?_discard, hfree]
      simp
    exact erase_put_of_free _ hbase

theorem source_free (h : Laden base t files) {f : Load} (hf : f ∈ files) :
    base.find? f.1.source = none := by
  rw [← h.discard_eq, find?_discard, if_pos]
  exact List.mem_map.mpr ⟨f.1, List.mem_map.mpr ⟨f, hf, rfl⟩, rfl⟩

theorem nodup_sources (h : Laden base t files) :
    (files.map (fun f => f.1.source)).Nodup := by
  induction h with
  | bare => simp
  | @stage t files s text above name hladen hfree _ _ ih =>
    rw [List.map_append, List.nodup_append]
    refine ⟨ih, by simp, ?_⟩
    intro p hp q hq
    obtain ⟨f, hf, rfl⟩ := List.mem_map.mp hp
    have hq : q = s.source := by simpa using hq
    subst hq
    exact (hladen.source_ne hfree f.1 (List.mem_map.mpr ⟨f, hf, rfl⟩)).symm

theorem source_ne_child (h : Laden base t files) {f : Load} (hf : f ∈ files) (here : Place)
    {name : String} (hname : ¬ Hidden name) : f.1.source ≠ here.child name := by
  induction h with
  | bare => simp at hf
  | stage s text above hidden _ _ hs hh ih =>
    rcases List.mem_append.mp hf with hf | hf
    · exact ih hf
    · rw [List.mem_singleton.mp hf]
      intro heq
      exact hname ((Place.child_eq_child_iff.mp (hs.symm.trans heq)).2 ▸ hh)

theorem directory?_eq (h : Laden base t files) (path : String) :
    t.directory? path = base.directory? path := by
  induction h with
  | bare => rfl
  | @stage t files s text above name _ hfree hs _ ih =>
    rw [hs] at hfree ⊢
    rw [documentEntry, directory?_put_file _ _ hfree, ih]

private theorem stagingPlace_eq (h : Laden base t files) (schedule : WriteSchedule)
    (directory name : String) :
    t.stagingPlace schedule directory name = base.stagingPlace schedule directory name := by
  have hdirectory : t.spelledDirectory? directory = base.spelledDirectory? directory := by
    induction h with
    | bare => rfl
    | @stage t files s text above name _ hfree hs _ ih =>
      rw [hs] at hfree ⊢
      rw [documentEntry, spelledDirectory?_put_file _ _ hfree, ih]
  unfold stagingPlace
  rw [hdirectory]

private theorem stagingFault?_eq (h : Laden base t files) (schedule : WriteSchedule)
    (directory : String)
    (call : Nat) (name : String) :
    t.stagingFault? schedule directory call name =
      base.stagingFault? schedule directory call name := by
  rw [stagingFault?, stagingFault?, h.stagingPlace_eq]

end Laden

variable {t : Tree} {schedule : WriteSchedule} {directory : String} {call : Nat} {name : String}

private theorem stageOne_of_fault {cause : OsError} (text : String)
    (h : t.stagingFault? schedule directory call name = some cause) :
    t.stageOne schedule directory call name text = (t, .error cause) := by
  rw [stagingFault?] at h
  rw [stageOne]
  cases hstage : schedule.stage call with
  | some first =>
    rw [hstage] at h
    rw [Option.some.inj h]
  | none =>
    rw [hstage] at h
    cases hplace : t.stagingPlace schedule directory name with
    | error refused =>
      rw [hplace] at h
      rw [Option.some.inj h]
    | ok above =>
      rw [hplace] at h
      simp only [h]
      rw [erase_put_of_free _ (find?_freshName t above name)]

private theorem stageOne_of_no_fault (text : String)
    (h : t.stagingFault? schedule directory call name = none) :
    ∃ above : Place, t.stageOne schedule directory call name text =
      (t.put (above.child (t.freshName name)) (documentEntry text),
        .ok ⟨name, above.child (t.freshName name)⟩) := by
  rw [stagingFault?] at h
  rw [stageOne]
  cases hstage : schedule.stage call with
  | some first =>
    rw [hstage] at h
    cases h
  | none =>
    rw [hstage] at h
    cases hplace : t.stagingPlace schedule directory name with
    | error refused =>
      rw [hplace] at h
      cases h
    | ok above =>
      rw [hplace] at h
      simp only [h]
      exact ⟨above, by rw [put_put, documentEntry]⟩

theorem stageAll_of_unhindered {base : Tree} {files : List Load}
    {documents : List (String × String)} (hladen : Laden base t files)
    (h : ∀ d ∈ documents.zipIdx call, base.stagingFault? schedule directory d.2 d.1.1 = none) :
    ∃ staging all, t.stageAll schedule directory call (files.map (fun f => f.1)) documents =
        (staging, .ok (all.map (fun f => f.1))) ∧
      Laden base staging all ∧
      all.map Load.document = files.map Load.document ++ documents := by
  -- Staged files lie beside what the base holds, so each step fails exactly as on the base.
  induction documents generalizing t files call with
  | nil => exact ⟨t, files, rfl, hladen, by simp⟩
  | cons d documents ih =>
    obtain ⟨name, text⟩ := d
    obtain ⟨hnow, hlater⟩ := List.forall_mem_cons.mp h
    rw [← hladen.stagingFault?_eq] at hnow
    obtain ⟨above, hstage⟩ := stageOne_of_no_fault text hnow
    have hnext := hladen.stage ⟨name, above.child (t.freshName name)⟩ text above (t.freshName name)
      (find?_freshName t above name) rfl (freshName_hidden t name)
    obtain ⟨staging, all, hrun, hall, hdocuments⟩ := ih hnext hlater
    refine ⟨staging, all, ?_, hall, ?_⟩
    · rw [stageAll, hstage]
      simpa using hrun
    · simpa [Load.document] using hdocuments

theorem stageAll_of_hindered {base : Tree} {files : List Load}
    {documents : List (String × String)} (hladen : Laden base t files)
    (h : ∃ d ∈ documents.zipIdx call, base.stagingFault? schedule directory d.2 d.1.1 ≠ none) :
    ∃ fault, t.stageAll schedule directory call (files.map (fun f => f.1)) documents =
      (base, .error fault) := by
  induction documents generalizing t files call with
  | nil => simp at h
  | cons d documents ih =>
    obtain ⟨name, text⟩ := d
    rw [stageAll]
    cases hnow : t.stagingFault? schedule directory call name with
    | some cause =>
      rw [stageOne_of_fault text hnow]
      exact ⟨(name, cause), by simp [hladen.discard_eq]⟩
    | none =>
      obtain ⟨above, hstage⟩ := stageOne_of_no_fault text hnow
      have hnext := hladen.stage ⟨name, above.child (t.freshName name)⟩ text above
        (t.freshName name) (find?_freshName t above name) rfl (freshName_hidden t name)
      obtain ⟨d, hd, hfault⟩ := h
      rcases List.mem_cons.mp hd with rfl | hd
      · exact absurd (hladen.stagingFault?_eq .. ▸ hnow) hfault
      · rw [hstage]
        simpa using ih hnext ⟨d, hd, hfault⟩

end Tree

end ContainerBundle
