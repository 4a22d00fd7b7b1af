import ContainerBundle.Proofs.Directory.Outcome
/-!
# Atomicity of the pair

A failing call keeps both descriptors of the directory, but for one case: the first move is made
and the second fails. Then the new `config.json` stands beside the old `runtime.json`.
-/
namespace ContainerBundle.Tree

structure MovesFirst (t : Tree) (schedule : WriteSchedule) (b : Bundle) (directory : String)
    (force : Bool) (here : Place) (config runtime : String) : Prop where
  admits : t.Admits schedule b directory force here
    [(Bundle.configName, config), (Bundle.runtimeName, runtime)]
  first : schedule.moveFault? directory 1 Bundle.configName = none

section

variable {t : Tree} {schedule : WriteSchedule} {b : Bundle} {directory : String} {force : Bool}
  {here : Place} {config runtime : String}

/-- A call that does not make its first move fails and changes nothing. -/
theorem writeBundle_of_no_first_move
    (h : ∀ here config runtime, ¬ t.MovesFirst schedule b directory force here config runtime) :
    (t.writeBundle schedule b directory force).1 = t ∧
      ∃ fault, (t.writeBundle schedule b directory force).2.outcome = .error fault := by
  by_cases hadmits : ∃ here documents, t.Admits schedule b directory force here documents
  · obtain ⟨here, documents, hadmits⟩ := hadmits
    obtain ⟨config, runtime, _, _, rfl⟩ := Bundle.render_eq_ok_iff.mp hadmits.rendered
    have hmoves : schedule.movesMade directory 1 Bundle.names = 0 := by
      rw [Bundle.names, WriteSchedule.movesMade]
      cases hfirst : schedule.moveFault? directory 1 Bundle.configName with
      | some cause => rfl
      | none => exact absurd ⟨hadmits, hfirst⟩ (h here config runtime)
    refine ⟨writeBundle_eq_of_no_move hadmits hmoves, ?_⟩
    obtain ⟨path, cause, hfault⟩ := (writeBundle_outcome_of_admits hadmits).2
      (by rw [hmoves]; decide)
    exact ⟨_, hfault⟩
  · exact writeBundle_of_not_admits (fun here documents h => hadmits ⟨here, documents, h⟩)

/-- When the second move fails, the first document stands in the directory on its own. -/
theorem MovesFirst.second_refused
    (h : t.MovesFirst schedule b directory force here config runtime)
    (hsecond : schedule.moveFault? directory 2 Bundle.runtimeName ≠ none) :
    (∀ p, (t.writeBundle schedule b directory force).1.find? p =
      t.shown here [(Bundle.configName, config)] p) ∧
    ∃ path cause, (t.writeBundle schedule b directory force).2.outcome =
      .error (.bundle (.writeFailed path (.system cause))) := by
  have hmoves : schedule.movesMade directory 1 Bundle.names = 1 := by
    obtain ⟨cause, hsecond⟩ := Option.ne_none_iff_exists'.mp hsecond
    simp [Bundle.names, WriteSchedule.movesMade, h.first, hsecond]
  constructor
  · intro p
    rw [writeBundle_tree_of_admits h.admits, hmoves]
    rfl
  · exact (writeBundle_outcome_of_admits h.admits).2 (by rw [hmoves]; decide)

theorem MovesFirst.second_made
    (h : t.MovesFirst schedule b directory force here config runtime)
    (hsecond : schedule.moveFault? directory 2 Bundle.runtimeName = none) :
    (∀ p, (t.writeBundle schedule b directory force).1.find? p =
      t.shown here [(Bundle.configName, config), (Bundle.runtimeName, runtime)] p) ∧
    (t.writeBundle schedule b directory force).2.outcome =
      .ok (Bundle.names.map (Path.join directory)) := by
  have hmoves : schedule.movesMade directory 1 Bundle.names = 2 := by
    simp [Bundle.names, WriteSchedule.movesMade, h.first, hsecond]
  constructor
  · intro p
    rw [writeBundle_tree_of_admits h.admits, hmoves]
    rfl
  · exact (writeBundle_outcome_of_admits h.admits).1 hmoves

end

/-- The two descriptors of a directory, as `before` has them, are the same in `after`. -/
def PairKept (before after : Tree) (directory : String) : Prop :=
  ∀ here, before.directory? directory = some here →
    ∀ name ∈ Bundle.names, after.find? (here.child name) = before.find? (here.child name)

/-- The call fails between its moves, and what it has moved is new in the directory. -/
def HalfPlaced (t : Tree) (schedule : WriteSchedule) (b : Bundle) (directory : String)
    (force : Bool) : Prop :=
  ∃ here config runtime, t.MovesFirst schedule b directory force here config runtime ∧
    schedule.moveFault? directory 2 Bundle.runtimeName ≠ none ∧
    t.find? (here.child Bundle.configName) ≠ some (.file descriptorMode config)

end ContainerBundle.Tree
