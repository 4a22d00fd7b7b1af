import ContainerBundle.Proofs.Directory.Atomicity
/-!
# Runs of writing calls

Calls follow one another, each on the tree that the one before it left. Whatever fails in them,
each call touches the two descriptors of its directory only, and these hold a whole document or
what they held before.
-/
namespace ContainerBundle

structure WriteCall where
  schedule : WriteSchedule
  bundle : Bundle
  directory : String
  force : Bool

structure WriteTurn where
  before : Tree
  call : WriteCall
  after : Tree
  outcome : Except Fault (List String)

def WriteCall.on (c : WriteCall) (t : Tree) : WriteTurn :=
  let written := t.writeBundle c.schedule c.bundle c.directory c.force
  ⟨t, c, written.1, written.2.outcome⟩

namespace Tree

def writeRun (t : Tree) : List WriteCall → List WriteTurn
  | [] => []
  | c :: rest => c.on t :: (c.on t).after.writeRun rest

def afterRun (t : Tree) (calls : List WriteCall) : Tree :=
  calls.foldl (fun t c => (c.on t).after) t

def IsTarget (t : Tree) (directory : String) (p : Place) : Prop :=
  ∃ here, t.directory? directory = some here ∧ ∃ name ∈ Bundle.names, p = here.child name

end Tree

namespace WriteTurn

/-- What a call keeps and what it may change. -/
structure Sound (turn : WriteTurn) : Prop where
  /-- Every other entry stays, and no staging file is left. -/
  others : ∀ p, ¬ turn.before.IsTarget turn.call.directory p →
    turn.after.find? p = turn.before.find? p
  /-- A descriptor is as before, or the whole document of this call's bundle. -/
  whole : ∀ here, turn.before.directory? turn.call.directory = some here →
    ∀ name ∈ Bundle.names,
      turn.after.find? (here.child name) = turn.before.find? (here.child name) ∨
      ∃ documents text, turn.call.bundle.render turn.call.schedule.levels = .ok documents ∧
        (name, text) ∈ documents ∧
        turn.after.find? (here.child name) = some (.file 0o644 text)
  /-- Without `force` an existing descriptor stays, whatever it is. -/
  unforced : turn.call.force = false → ∀ p, turn.before.IsTarget turn.call.directory p →
    turn.before.find? p ≠ none → turn.after.find? p = turn.before.find? p
  /-- After a success both names hold their new documents. -/
  complete : ∀ paths, turn.outcome = .ok paths → ∃ here documents,
    turn.before.directory? turn.call.directory = some here ∧
    turn.call.bundle.render turn.call.schedule.levels = .ok documents ∧
    documents.map Prod.fst = Bundle.names ∧
    ∀ d ∈ documents, turn.after.find? (here.child d.1) = some (.file 0o644 d.2)

end WriteTurn

namespace Tree

variable {t : Tree} {schedule : WriteSchedule} {b : Bundle} {directory : String} {force : Bool}
  {here : Place}

private theorem sound_of_shown {c : WriteCall} {documents : List (String × String)}
    (hadmits : t.Admits c.schedule c.bundle c.directory c.force here documents)
    {placed : List (String × String)} (hplaced : ∀ d ∈ placed, d ∈ documents)
    (htree : ∀ p, (c.on t).after.find? p = t.shown here placed p)
    (hmoved : ∀ d ∈ placed, ∃ call, c.schedule.moveFault? c.directory call d.1 = none)
    (hall : ∀ paths, (c.on t).outcome = .ok paths → placed = documents) : (c.on t).Sound := by
  have hnames := Bundle.names_of_render hadmits.rendered
  have hname : ∀ d ∈ documents, d.1 ∈ Bundle.names :=
    fun d hd => (Bundle.mem_names_of_render hadmits.rendered).mpr ⟨d, hd, rfl⟩
  have hcases : ∀ p, (c.on t).after.find? p = t.find? p ∨
      ∃ d ∈ placed, p = here.child d.1 ∧
        (c.on t).after.find? p = some (documentEntry d.2) := by
    intro p
    rw [htree]
    exact shown_cases t here placed p
  constructor
  · intro p hp
    rcases hcases p with hsame | ⟨d, hd, rfl, _⟩
    · exact hsame
    · exact absurd ⟨here, hadmits.found, d.1, hname d (hplaced d hd), rfl⟩ hp
  · intro here' hhere' name _
    have heq : here' = here := Option.some.inj (hhere'.symm.trans hadmits.found)
    subst heq
    rcases hcases (here'.child name) with hsame | ⟨d, hd, hp, hnew⟩
    · exact Or.inl hsame
    · have hd' : d = (name, d.2) := by rw [Place.child_inj.mp hp]
      exact Or.inr ⟨documents, d.2, hadmits.rendered, hd' ▸ hplaced d hd, hnew⟩
  · intro hforce p _ hsome
    rcases hcases p with hsame | ⟨d, hd, rfl, _⟩
    · exact hsame
    · obtain ⟨call, hmove⟩ := hmoved d hd
      have hforce : c.force = false := hforce
      rw [hforce] at hadmits
      exact absurd (hadmits.target_free (hname d (hplaced d hd)) hmove) hsome
  · intro paths hok
    have hdone := hall paths hok
    subst hdone
    refine ⟨here, placed, hadmits.found, hadmits.rendered, hnames, fun d hd => ?_⟩
    rw [htree, shown_of_mem (hnames ▸ by decide) hd]
    rfl

/-- The step: a call is sound on every tree. -/
theorem sound_on (t : Tree) (c : WriteCall) : (c.on t).Sound := by
  -- Both moves made, the first alone, or none.
  by_cases hmoves : ∃ here config runtime,
      t.MovesFirst c.schedule c.bundle c.directory c.force here config runtime
  · obtain ⟨here, config, runtime, hmoves⟩ := hmoves
    by_cases hsecond : c.schedule.moveFault? c.directory 2 Bundle.runtimeName = none
    · obtain ⟨htree, _⟩ := hmoves.second_made hsecond
      apply sound_of_shown hmoves.admits (fun d hd => hd) htree ?_ (fun _ _ => rfl)
      intro d hd
      rcases List.mem_cons.mp hd with rfl | hd
      · exact ⟨1, hmoves.first⟩
      · rw [List.mem_singleton.mp hd]
        exact ⟨2, hsecond⟩
    · obtain ⟨htree, path, cause, hfault⟩ := hmoves.second_refused hsecond
      apply sound_of_shown hmoves.admits (fun d hd => List.mem_of_mem_take (i := 1) hd) htree
      · intro d hd
        rw [List.mem_singleton.mp hd]
        exact ⟨1, hmoves.first⟩
      · intro paths hok
        have hok : (t.writeBundle c.schedule c.bundle c.directory c.force).2.outcome = .ok paths :=
          hok
        rw [hfault] at hok
        simp at hok
  · obtain ⟨hsame, fault, hfault⟩ := writeBundle_of_no_first_move
      (fun here config runtime h => hmoves ⟨here, config, runtime, h⟩)
    have hsame : (c.on t).after = t := hsame
    constructor
    · intro p _
      rw [hsame]
      rfl
    · intro here _ name _
      rw [hsame]
      exact Or.inl rfl
    · intro _ p _ _
      rw [hsame]
      rfl
    · intro paths hok
      have hok : (t.writeBundle c.schedule c.bundle c.directory c.force).2.outcome = .ok paths :=
        hok
      rw [hfault] at hok
      simp at hok

/-- Every place holds what it held at the start, or the whole document of a call. -/
theorem find?_afterRun (t : Tree) (calls : List WriteCall) (p : Place) :
    (t.afterRun calls).find? p = t.find? p ∨
      ∃ turn ∈ t.writeRun calls, turn.before.IsTarget turn.call.directory p ∧
        ∃ documents d, turn.call.bundle.render turn.call.schedule.levels = .ok documents ∧
          d ∈ documents ∧
          (t.afterRun calls).find? p = some (.file 0o644 d.2) := by
  induction calls generalizing t with
  | nil => exact Or.inl rfl
  | cons c calls ih =>
    rw [afterRun, List.foldl_cons, ← afterRun]
    rcases ih (c.on t).after with hsame | ⟨turn, hturn, hrest⟩
    · have hsound := sound_on t c
      by_cases htarget : t.IsTarget c.directory p
      · obtain ⟨here, hhere, name, hname, rfl⟩ := htarget
        rcases hsound.whole here hhere name hname with hkept | ⟨documents, text, hr, hd, hnew⟩
        · exact Or.inl (hsame.trans hkept)
        · exact Or.inr ⟨c.on t, List.mem_cons_self, ⟨here, hhere, name, hname, rfl⟩, documents,
            (name, text), hr, hd, hsame.trans hnew⟩
      · exact Or.inl (hsame.trans (hsound.others p htarget))
    · exact Or.inr ⟨turn, List.mem_cons_of_mem _ hturn, hrest⟩

end Tree

end ContainerBundle
