import ContainerBundle.Proofs.Directory.Staging
/-!
# Moving documents into place

The moves are made in order up to the first that fails. What then stands in the tree is the tree
before the staging, with the documents moved so far over it.
-/
namespace ContainerBundle

/-- Why a document cannot be moved: the schedule fails the call, or its path is not taken. -/
def WriteSchedule.moveFault? (schedule : WriteSchedule) (directory : String) (call : Nat)
    (name : String) : Option OsError :=
  let path := Path.join directory name
  (schedule.replace call).or
    ((Tree.refusal? path).map (·.between (Tree.stagingPath schedule.top directory name) path))

def WriteSchedule.movesMade (schedule : WriteSchedule) (directory : String) :
    (call : Nat) → List String → Nat
  | _, [] => 0
  | call, name :: rest =>
    match schedule.moveFault? directory call name with
    | some _ => 0
    | none => schedule.movesMade directory (call + 1) rest + 1

namespace Tree

def moved (t : Tree) (here : Place) (staged : List Staged) : Tree :=
  staged.foldl (fun t s => t.move s.source (here.child s.name)) t

/-- What stands at a place when documents stand in a directory over the entries of a tree. -/
def shown (t : Tree) (here : Place) (documents : List (String × String)) (p : Place) :
    Option Entry :=
  match documents.find? (fun d => here.child d.1 == p) with
  | some d => some (documentEntry d.2)
  | none => t.find? p

@[simp] theorem shown_nil (t : Tree) (here : Place) (p : Place) : t.shown here [] p = t.find? p :=
  rfl

theorem shown_cons (t : Tree) (here : Place) (d : String × String)
    (documents : List (String × String)) (p : Place) :
    t.shown here (d :: documents) p =
      if here.child d.1 = p then some (documentEntry d.2) else t.shown here documents p := by
  by_cases h : here.child d.1 = p
  · simp [shown, h]
  · simp [shown, h]

theorem shown_of_ne {t : Tree} {here p : Place} {documents : List (String × String)}
    (h : ∀ d ∈ documents, here.child d.1 ≠ p) : t.shown here documents p = t.find? p := by
  induction documents with
  | nil => rfl
  | cons d documents ih =>
    rw [shown_cons, if_neg (h d (by simp)), ih (fun d' hd' => h d' (by simp [hd']))]

theorem shown_of_mem {t : Tree} {here : Place} {documents : List (String × String)}
    (hnd : (documents.map Prod.fst).Nodup) {d : String × String} (hd : d ∈ documents) :
    t.shown here documents (here.child d.1) = some (documentEntry d.2) := by
  induction documents with
  | nil => simp at hd
  | cons first documents ih =>
    obtain ⟨hfirst, hrest⟩ := List.nodup_cons.mp hnd
    rw [shown_cons]
    rcases List.mem_cons.mp hd with rfl | hd
    · rw [if_pos rfl]
    · have hne : first.1 ≠ d.1 := fun heq => hfirst (heq ▸ List.mem_map.mpr ⟨d, hd, rfl⟩)
      rw [if_neg (fun heq => hne (Place.child_inj.mp heq)), ih hrest hd]

theorem shown_cases (t : Tree) (here : Place) (documents : List (String × String)) (p : Place) :
    t.shown here documents p = t.find? p ∨
      ∃ d ∈ documents, p = here.child d.1 ∧
        t.shown here documents p = some (documentEntry d.2) := by
  induction documents with
  | nil => exact Or.inl rfl
  | cons d documents ih =>
    rw [shown_cons]
    split
    · rename_i h
      exact Or.inr ⟨d, by simp, h.symm, rfl⟩
    · rcases ih with h | ⟨d', hd', hp, h⟩
      · exact Or.inl h
      · exact Or.inr ⟨d', by simp [hd'], hp, h⟩

private theorem shown_congr {t t' : Tree} {p : Place} (h : t.find? p = t'.find? p) (here : Place)
    (documents : List (String × String)) : t.shown here documents p = t'.shown here documents p := by
  simp only [shown, h]

private theorem find?_moved {t : Tree} {here : Place} {files : List Load}
    (hsource : ∀ f ∈ files, t.find? f.1.source = some (documentEntry f.2))
    (hnd : (files.map (fun f => f.1.source)).Nodup)
    (hnames : (files.map (fun f => f.1.name)).Nodup)
    (happart : ∀ f ∈ files, ∀ g ∈ files, f.1.source ≠ here.child g.1.name) (p : Place) :
    (t.moved here (files.map (fun f => f.1))).find? p =
      if p ∈ files.map (fun f => f.1.source) then none
      else t.shown here (files.map Load.document) p := by
  induction files generalizing t with
  | nil => simp [moved]
  | cons f files ih =>
    rw [List.map_cons, List.nodup_cons] at hnd hnames
    have hview := @find?_move t f.1.source (here.child f.1.name) _ (hsource f (by simp))
    have hsource' : ∀ g ∈ files, (t.move f.1.source (here.child f.1.name)).find? g.1.source =
        some (documentEntry g.2) := by
      intro g hg
      have hne : g.1.source ≠ f.1.source := fun heq => hnd.1 (List.mem_map.mpr ⟨g, hg, heq⟩)
      rw [hview, if_neg (happart g (by simp [hg]) f (by simp)), if_neg hne]
      exact hsource g (by simp [hg])
    have hrest := ih hsource' hnd.2 hnames.2
      (fun g hg g' hg' => happart g (by simp [hg]) g' (by simp [hg']))
    change ((t.move f.1.source (here.child f.1.name)).moved here
      (files.map (fun f => f.1))).find? p = _
    rw [hrest, List.map_cons, List.map_cons, shown_cons]
    by_cases htarget : here.child f.1.name = p
    · have hout : p ∉ (f :: files).map (fun f => f.1.source) := by
        intro hmem
        obtain ⟨g, hg, heq⟩ := List.mem_map.mp hmem
        exact happart g hg f (by simp) (heq.trans htarget.symm)
      have hother : ∀ d ∈ files.map Load.document, here.child d.1 ≠ p := by
        intro d hd heq
        obtain ⟨g, hg, rfl⟩ := List.mem_map.mp hd
        exact hnames.1 (List.mem_map.mpr ⟨g, hg, Place.child_inj.mp (heq.trans htarget.symm)⟩)
      rw [List.map_cons] at hout
      rw [if_neg hout, if_neg (fun h => hout (List.mem_cons_of_mem _ h)), shown_of_ne hother, hview,
        if_pos htarget.symm, if_pos (show here.child f.document.1 = p from htarget)]
      rfl
    · rw [if_neg (show ¬here.child f.document.1 = p from htarget)]
      by_cases hp : p = f.1.source
      · have hother : ∀ d ∈ files.map Load.document, here.child d.1 ≠ p := by
          intro d hd heq
          obtain ⟨g, hg, rfl⟩ := List.mem_map.mp hd
          exact happart f (by simp) g (by simp [hg]) (hp.symm.trans heq.symm)
        have hgone : (t.move f.1.source (here.child f.1.name)).shown here
            (files.map Load.document) p = none := by
          rw [shown_of_ne hother, hview, if_neg (fun h => htarget h.symm), if_pos hp]
        have hmem : p ∈ f.1.source :: files.map (fun f => f.1.source) :=
          List.mem_cons.mpr (Or.inl hp)
        rw [if_pos hmem, hgone, ite_self]
      · have hkept : (t.move f.1.source (here.child f.1.name)).find? p = t.find? p := by
          rw [hview, if_neg (fun h => htarget h.symm), if_neg hp]
        simp only [shown_congr hkept, List.mem_cons, hp, false_or]

/-- The tree before the staging is seen, with the moved documents over it. -/
theorem Laden.find?_moved_discard {base t : Tree} {done rest : List Load}
    (h : Laden base t (done ++ rest)) (here : Place)
    (hnames : ((done ++ rest).map (fun f => f.1.name)).Nodup)
    (hseen : ∀ f ∈ done ++ rest, ¬ Hidden f.1.name) (p : Place) :
    ((t.moved here (done.map (fun f => f.1))).discard (rest.map (fun f => f.1))).find? p =
      base.shown here (done.map Load.document) p := by
  have hsources := h.nodup_sources
  rw [List.map_append, List.nodup_append] at hsources hnames
  have happart : ∀ f ∈ done ++ rest, ∀ g ∈ done ++ rest, f.1.source ≠ here.child g.1.name :=
    fun f hf g hg => h.source_ne_child hf here (hseen g hg)
  have hmoved := @find?_moved t here done
    (fun f hf => h.find?_source (List.mem_append_left _ hf)) hsources.1 hnames.1
    (fun f hf g hg => happart f (List.mem_append_left _ hf) g (List.mem_append_left _ hg)) p
  have hvacant : ∀ f ∈ done ++ rest, f.1.source = p →
      base.shown here (done.map Load.document) p = none := by
    intro f hf hp
    rw [shown_of_ne, ← hp, h.source_free hf]
    intro d hd heq
    obtain ⟨g, hg, rfl⟩ := List.mem_map.mp hd
    exact happart f hf g (List.mem_append_left _ hg) (hp.trans heq.symm)
  rw [find?_discard, hmoved]
  by_cases hrest : p ∈ (rest.map (fun f => f.1)).map Staged.source
  · rw [if_pos hrest]
    rw [List.map_map] at hrest
    obtain ⟨f, hf, hp⟩ := List.mem_map.mp hrest
    exact (hvacant f (List.mem_append_right _ hf) hp).symm
  · rw [if_neg hrest]
    by_cases hdone : p ∈ done.map (fun f => f.1.source)
    · rw [if_pos hdone]
      obtain ⟨f, hf, hp⟩ := List.mem_map.mp hdone
      exact (hvacant f (List.mem_append_left _ hf) hp).symm
    · rw [if_neg hdone]
      apply shown_congr
      apply h.find?_elsewhere
      rw [List.map_append, List.mem_append]
      rw [List.map_map] at hrest
      exact fun hmem => hmem.elim hdone hrest

/-- The moves before the first fault are made, and the files that are left are discarded. -/
theorem placeAll_tree (t : Tree) (schedule : WriteSchedule) (directory : String) (here : Place)
    (call : Nat) (staged : List Staged) :
    (t.placeAll schedule directory here call staged).1 =
      (t.moved here
        (staged.take (schedule.movesMade directory call (staged.map Staged.name)))).discard
        (staged.drop (schedule.movesMade directory call (staged.map Staged.name))) := by
  induction staged generalizing t call with
  | nil => rfl
  | cons s staged ih =>
    rw [placeAll, List.map_cons, WriteSchedule.movesMade, WriteSchedule.moveFault?]
    cases (schedule.replace call).or ((refusal? (Path.join directory s.name)).map _) with
    | some cause => rfl
    | none => exact ih (t.move s.source (here.child s.name)) (call + 1)

theorem placeAll_outcome (t : Tree) (schedule : WriteSchedule) (directory : String) (here : Place)
    (call : Nat) (staged : List Staged) :
    (staged.length = schedule.movesMade directory call (staged.map Staged.name) →
      (t.placeAll schedule directory here call staged).2.outcome = .ok ()) ∧
    (schedule.movesMade directory call (staged.map Staged.name) < staged.length →
      ∃ path cause, (t.placeAll schedule directory here call staged).2.outcome =
        .error (.bundle (.writeFailed path (.system cause)))) := by
  induction staged generalizing t call with
  | nil => exact ⟨fun _ => rfl, fun h => absurd h (Nat.not_lt_zero _)⟩
  | cons s staged ih =>
    rw [placeAll, List.map_cons, WriteSchedule.movesMade, WriteSchedule.moveFault?]
    cases (schedule.replace call).or ((refusal? (Path.join directory s.name)).map _) with
    | some cause => exact ⟨fun h => by simp at h, fun _ => ⟨_, cause, rfl⟩⟩
    | none =>
      obtain ⟨hall, hsome⟩ := ih (t.move s.source (here.child s.name)) (call + 1)
      constructor
      · intro h
        have hrest := hall (by simpa using h)
        rw [Traced.bind_eq_ok_iff]
        exact ⟨(), rfl, hrest⟩
      · intro h
        obtain ⟨path, cause, hfault⟩ := hsome (by simpa using h)
        exact ⟨path, cause, by simp [bind, Traced.andThen, Traced.emit, hfault]⟩

end Tree

end ContainerBundle
