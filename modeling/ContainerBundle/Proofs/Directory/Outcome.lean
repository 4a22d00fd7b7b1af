import ContainerBundle.Proofs.Directory.Placing
/-!
# How the writing of a bundle ends

Either a call is turned down before its first move, and the tree is the one before; or it is
admitted, and the number of moves that are made decides both the tree and the outcome.
-/
namespace ContainerBundle

namespace Bundle

def names : List String := [configName, runtimeName]

variable {b : Bundle} {limit : Nat} {documents : List (String × String)}

theorem render_eq_ok_iff :
    b.render limit = .ok documents ↔ ∃ config runtime, b.config.render limit = .ok config ∧
      b.runtime.render limit = .ok runtime ∧
      documents = [(configName, config), (runtimeName, runtime)] := by
  unfold render
  cases b.config.render limit with
  | error fault => simp [bind, Except.bind]
  | ok config =>
    cases b.runtime.render limit with
    | error fault => simp [bind, Except.bind]
    | ok runtime => simp [bind, Except.bind, pure, Except.pure, eq_comm]

theorem names_of_render (h : b.render limit = .ok documents) :
    documents.map Prod.fst = names := by
  obtain ⟨config, runtime, _, _, rfl⟩ := render_eq_ok_iff.mp h
  rfl

theorem mem_names_of_render (h : b.render limit = .ok documents) {name : String} :
    name ∈ names ↔ ∃ d ∈ documents, d.1 = name := by
  rw [← names_of_render h, List.mem_map]

private theorem zipIdx_of_render (h : b.render limit = .ok documents) (start : Nat) :
    names.zipIdx start = (documents.zipIdx start).map (Prod.map Prod.fst id) := by
  rw [← names_of_render h, List.zipIdx_map]

private theorem not_hidden_of_mem_names {name : String} (h : name ∈ names) :
    ¬ Tree.Hidden name := by
  have hall : ∀ name ∈ names, name.toList.head? ≠ some '.' := by decide
  exact hall name h

end Bundle

namespace Tree

variable {t : Tree} {schedule : WriteSchedule} {b : Bundle} {directory : String} {force : Bool}

/-- Everything before the first move goes well. -/
structure Admits (t : Tree) (schedule : WriteSchedule) (b : Bundle) (directory : String)
    (force : Bool) (here : Place) (documents : List (String × String)) : Prop where
  found : t.directory? directory = some here
  rendered : b.render schedule.levels = .ok documents
  unborne : force = true ∨ ∀ name ∈ Bundle.names, t.bears directory here name = false
  staged : ∀ d ∈ Bundle.names.zipIdx 1, t.stagingFault? schedule directory d.2 d.1 = none
  noDirectory : ∀ name ∈ Bundle.names, t.directory? (Path.join directory name) = none

/-- A call that is not admitted fails and changes nothing. -/
theorem writeBundle_of_not_admits
    (h : ∀ here documents, ¬ t.Admits schedule b directory force here documents) :
    (t.writeBundle schedule b directory force).1 = t ∧
      ∃ fault, (t.writeBundle schedule b directory force).2.outcome = .error fault := by
  unfold writeBundle
  cases hfound : t.directory? directory with
  | none => exact ⟨rfl, _, rfl⟩
  | some here =>
    cases hrendered : b.render schedule.levels with
    | error fault => exact ⟨rfl, _, rfl⟩
    | ok documents =>
      simp only
      cases hborne : documents.find? (fun d => !force && t.bears directory here d.1) with
      | some d => exact ⟨rfl, _, rfl⟩
      | none =>
        have hunborne : force = true ∨
            ∀ name ∈ Bundle.names, t.bears directory here name = false := by
          cases force with
          | true => exact Or.inl rfl
          | false =>
            refine Or.inr (fun name hname => ?_)
            obtain ⟨d, hd, rfl⟩ := (Bundle.mem_names_of_render hrendered).mp hname
            simpa using List.find?_eq_none.mp hborne d hd
        simp only [writeDocuments]
        by_cases hstaged : ∀ d ∈ documents.zipIdx 1,
            t.stagingFault? schedule directory d.2 d.1.1 = none
        · obtain ⟨staging, all, hrun, hladen, _⟩ :=
            stageAll_of_unhindered (.bare : Laden t t []) hstaged
          rw [List.map_nil] at hrun
          rw [hrun]
          simp only [hladen.directory?_eq]
          cases hdirectory : documents.find?
              (fun d => (t.directory? (Path.join directory d.1)).isSome) with
          | some d => exact ⟨hladen.discard_eq, _, rfl⟩
          | none =>
            refine absurd ⟨hfound, hrendered, hunborne, ?_, fun name hname => ?_⟩
              (h here documents)
            · rw [Bundle.zipIdx_of_render hrendered, List.forall_mem_map]
              exact hstaged
            · obtain ⟨d, hd, rfl⟩ := (Bundle.mem_names_of_render hrendered).mp hname
              simpa using List.find?_eq_none.mp hdirectory d hd
        · have hstaged : ∃ d ∈ documents.zipIdx 1,
              t.stagingFault? schedule directory d.2 d.1.1 ≠ none := by
            simpa only [Classical.not_forall, exists_prop] using hstaged
          obtain ⟨fault, hrun⟩ := stageAll_of_hindered (.bare : Laden t t []) hstaged
          rw [List.map_nil] at hrun
          rw [hrun]
          exact ⟨rfl, _, rfl⟩

/-- An admitted call comes down to its moves from a tree with both documents staged. -/
private theorem writeBundle_eq_placeAll {here : Place} {documents : List (String × String)}
    (h : t.Admits schedule b directory force here documents) :
    ∃ staging files, Laden t staging files ∧ files.map Load.document = documents ∧
      (files.map (fun f => f.1)).map Staged.name = Bundle.names ∧
      t.writeBundle schedule b directory force =
        ((staging.placeAll schedule directory here 1 (files.map (fun f => f.1))).1,
          do (staging.placeAll schedule directory here 1 (files.map (fun f => f.1))).2
             pure (Bundle.names.map (Path.join directory))) := by
  have hnames := Bundle.names_of_render h.rendered
  have hmem : ∀ d ∈ documents, d.1 ∈ Bundle.names :=
    fun d hd => (Bundle.mem_names_of_render h.rendered).mpr ⟨d, hd, rfl⟩
  have hstaged : ∀ d ∈ documents.zipIdx 1,
      t.stagingFault? schedule directory d.2 d.1.1 = none := by
    have hnames := h.staged
    rw [Bundle.zipIdx_of_render h.rendered, List.forall_mem_map] at hnames
    exact hnames
  obtain ⟨staging, files, hrun, hladen, hdocuments⟩ :=
    stageAll_of_unhindered (.bare : Laden t t []) hstaged
  have hunborne : documents.find? (fun d => !force && t.bears directory here d.1) = none := by
    apply List.find?_eq_none.mpr
    intro d hd
    rcases h.unborne with hforce | hnone
    · simp [hforce]
    · simp [hnone d.1 (hmem d hd)]
  have hdirectory : documents.find?
      (fun d => (staging.directory? (Path.join directory d.1)).isSome) = none := by
    apply List.find?_eq_none.mpr
    intro d hd
    simp [hladen.directory?_eq, h.noDirectory d.1 (hmem d hd)]
  have hfiles : files.map Load.document = documents := by simpa using hdocuments
  rw [List.map_nil] at hrun
  refine ⟨staging, files, hladen, hfiles, ?_, ?_⟩
  · rw [← hnames, ← hfiles]
    simp [Load.document]
  · rw [← hnames, List.map_map]
    simp only [writeBundle, h.found, h.rendered, hunborne, writeDocuments, hrun, hdirectory,
      Function.comp_def]

variable {here : Place} {documents : List (String × String)}

theorem writeBundle_tree_of_admits (h : t.Admits schedule b directory force here documents)
    (p : Place) :
    (t.writeBundle schedule b directory force).1.find? p =
      t.shown here (documents.take (schedule.movesMade directory 1 Bundle.names)) p := by
  obtain ⟨staging, files, hladen, rfl, hstaged, hrun⟩ := writeBundle_eq_placeAll h
  rw [hrun, placeAll_tree, hstaged, ← List.map_take, ← List.map_drop, ← List.map_take]
  have hname : files.map (fun f => f.1.name) = Bundle.names := by
    rw [← hstaged, List.map_map]
    rfl
  rw [← List.take_append_drop (schedule.movesMade directory 1 Bundle.names) files] at hladen hname
  refine hladen.find?_moved_discard here ?_ ?_ p
  · rw [hname]
    decide
  · intro f hf
    apply Bundle.not_hidden_of_mem_names
    rw [← hname]
    exact List.mem_map.mpr ⟨f, hf, rfl⟩

theorem writeBundle_eq_of_no_move (h : t.Admits schedule b directory force here documents)
    (hmoves : schedule.movesMade directory 1 Bundle.names = 0) :
    (t.writeBundle schedule b directory force).1 = t := by
  obtain ⟨staging, files, hladen, rfl, hstaged, hrun⟩ := writeBundle_eq_placeAll h
  rw [hrun, placeAll_tree, hstaged, hmoves]
  exact hladen.discard_eq

theorem writeBundle_outcome_of_admits (h : t.Admits schedule b directory force here documents) :
    (schedule.movesMade directory 1 Bundle.names = Bundle.names.length →
      (t.writeBundle schedule b directory force).2.outcome =
        .ok (Bundle.names.map (Path.join directory))) ∧
    (schedule.movesMade directory 1 Bundle.names < Bundle.names.length →
      ∃ path cause, (t.writeBundle schedule b directory force).2.outcome =
        .error (.bundle (.writeFailed path (.system cause)))) := by
  obtain ⟨staging, files, hladen, rfl, hstaged, hrun⟩ := writeBundle_eq_placeAll h
  have hlength : (files.map (fun f => f.1)).length = Bundle.names.length := by
    simpa using congrArg List.length hstaged
  obtain ⟨hall, hsome⟩ :=
    placeAll_outcome staging schedule directory here 1 (files.map (fun f => f.1))
  rw [hstaged, hlength] at hall hsome
  rw [hrun]
  constructor
  · intro hmoves
    rw [Traced.bind_eq_ok_iff]
    exact ⟨(), hall hmoves.symm, rfl⟩
  · intro hmoves
    obtain ⟨path, cause, hfault⟩ := hsome hmoves
    exact ⟨path, cause, by rw [Traced.bind_of_error hfault]⟩

theorem Admits.target_free (h : t.Admits schedule b directory false here documents) {name : String}
    (hname : name ∈ Bundle.names) {call : Nat}
    (hmove : schedule.moveFault? directory call name = none) :
    t.find? (here.child name) = none := by
  have hborne : t.bears directory here name = false := by
    rcases h.unborne with hforce | hnone
    · simp at hforce
    · exact hnone name hname
  have hpath : followable (Path.join directory name) = true := by
    rw [WriteSchedule.moveFault?, Option.or_eq_none_iff, Option.map_eq_none_iff, refusal?] at hmove
    simpa using hmove.2
  rw [bears, hpath, Bool.true_and] at hborne
  simpa using hborne

end Tree

end ContainerBundle
