import ContainerBundle.Directory.Writing
/-!
# Free places

A staging file is put at a place that no entry of the tree has. There it is seen by nobody else:
every other place keeps its entry, every path leads to the directory it led to before, and without
the file the tree is the one before.
-/
namespace ContainerBundle.Tree

private theorem find?_eq_none_iff {t : Tree} {p : Place} :
    t.find? p = none ↔ ∀ e ∈ t.entries, e.1 ≠ p := by
  simp [find?]

private theorem erase_of_free {t : Tree} {p : Place} (h : t.find? p = none) : t.erase p = t := by
  have hkeep : t.entries.filter (fun e => e.1 != p) = t.entries := by
    apply List.filter_eq_self.mpr
    intro e he
    simpa using find?_eq_none_iff.mp h e he
  rw [erase, hkeep]

theorem put_put (t : Tree) (p : Place) (first second : Entry) :
    (t.put p first).put p second = t.put p second := by
  simp [put, erase]

theorem erase_put_of_free {t : Tree} {p : Place} (entry : Entry) (h : t.find? p = none) :
    (t.put p entry).erase p = t := by
  have hgone : (t.put p entry).erase p = t.erase p := by simp [put, erase]
  rw [hgone, erase_of_free h]

theorem erase_put_of_ne {t : Tree} {p q : Place} (entry : Entry) (h : p ≠ q) :
    (t.put p entry).erase q = (t.erase q).put p entry := by
  simp only [put, erase, List.filter_filter]
  rw [List.filter_cons_of_pos (by simpa using h)]
  simp only [List.filter_filter, Bool.and_comm]

private theorem le_foldl_max_start {α : Type} (f : α → Nat) (xs : List α) (n : Nat) :
    n ≤ xs.foldl (fun n x => max n (f x)) n := by
  induction xs generalizing n with
  | nil => exact Nat.le_refl n
  | cons x xs ih => exact Nat.le_trans (Nat.le_max_left n (f x)) (ih _)

private theorem le_foldl_max {α : Type} (f : α → Nat) {xs : List α} {x : α} (h : x ∈ xs) (n : Nat) :
    f x ≤ xs.foldl (fun n x => max n (f x)) n := by
  induction xs generalizing n with
  | nil => simp at h
  | cons y ys ih =>
    rcases List.mem_cons.mp h with rfl | h
    · exact Nat.le_trans (Nat.le_max_right n (f x)) (le_foldl_max_start f ys _)
    · exact ih h _

private theorem length_lt_freshName {t : Tree} {e : Place × Entry} (he : e ∈ t.entries)
    {part : String}
    (hp : part ∈ e.1.names) (name : String) : part.length < (t.freshName name).length := by
  have hlongest : part.length ≤
      t.entries.foldl (fun n e => e.1.names.foldl (fun n part => max n part.length) n) 0 := by
    rw [← List.foldl_flatMap (f := fun e : Place × Entry => e.1.names)]
    exact le_foldl_max String.length (List.mem_flatMap.mpr ⟨e, he, hp⟩) 0
  simp only [freshName, String.length_append, String.length_ofList, List.length_replicate]
  omega

theorem find?_freshName (t : Tree) (here : Place) (name : String) :
    t.find? (here.child (t.freshName name)) = none := by
  apply find?_eq_none_iff.mpr
  intro e he heq
  have hmem : t.freshName name ∈ e.1.names := by
    rw [heq, Place.names_child]
    simp
  exact Nat.lt_irrefl _ (length_lt_freshName he hmem name)

def Hidden (name : String) : Prop := name.toList.head? = some '.'

theorem freshName_hidden (t : Tree) (name : String) : Hidden (t.freshName name) := by
  simp [Hidden, freshName]

/-- A path leads where it led before, or to the new file at the free place `p`. -/
private def SameBut (p : Place) (before after : Option Place) : Prop :=
  after = before ∨ before = none ∧ after = some p

private theorem walkNames_put {t : Tree} {p : Place} (mode : Nat) (text : String)
    (hp : t.find? p = none) {follow follow' : Place → List String → Option Place}
    (hfollow : ∀ here names, SameBut p (follow here names) (follow' here names))
    (here : Place) (names : List String) :
    SameBut p (t.walkNames follow here names)
      ((t.put p (.file mode text)).walkNames follow' here names) := by
  induction names generalizing here with
  | nil => exact Or.inl rfl
  | cons name rest ih =>
    simp only [walkNames]
    split
    · exact ih here
    · split
      · exact ih here.parent
      · by_cases hc : here.child name = p
        · rw [hc, hp, find?_put, if_pos rfl]
          by_cases hr : rest.isEmpty
          · exact Or.inr ⟨rfl, by simp [hr]⟩
          · exact Or.inl (by simp [hr])
        · rw [find?_put, if_neg hc]
          cases t.find? (here.child name) with
          | none => exact Or.inl rfl
          | some entry =>
            cases entry with
            | directory => exact ih (here.child name)
            | file mode text => exact Or.inl rfl
            | link target => exact hfollow _ _

private theorem walk_put {t : Tree} {p : Place} (mode : Nat) (text : String)
    (hp : t.find? p = none) (links : Nat) (here : Place) (names : List String) :
    SameBut p (t.walk links here names)
      ((t.put p (.file mode text)).walk links here names) := by
  -- By the links left: a link that is followed starts a walk with one less.
  induction links generalizing here names with
  | zero => exact walkNames_put mode text hp (fun _ _ => Or.inl rfl) here names
  | succ links ih => exact walkNames_put mode text hp ih here names

private theorem walk_filter_put {t : Tree} {here : Place} {name : String} (mode : Nat)
    (text : String) (hp : t.find? (here.child name) = none) (start : Place) (names : List String) :
    ((t.put (here.child name) (.file mode text)).walk linkLimit start names).filter
        (t.put (here.child name) (.file mode text)).isDirectory =
      (t.walk linkLimit start names).filter t.isDirectory := by
  have hnames : (here.child name).names ≠ [] := by simp [Place.names_child]
  have hnot : (t.put (here.child name) (.file mode text)).isDirectory (here.child name) = false := by
    simp [isDirectory, hnames, find?_put]
  have hother : ∀ q ≠ here.child name,
      (t.put (here.child name) (.file mode text)).isDirectory q = t.isDirectory q := by
    intro q hq
    simp [isDirectory, find?_put, hq]
  have hfree : t.isDirectory (here.child name) = false := by
    simp [isDirectory, hnames, hp]
  rcases walk_put mode text hp linkLimit start names with heq | ⟨hbefore, hafter⟩
  · rw [heq]
    cases t.walk linkLimit start names with
    | none => rfl
    | some q =>
      by_cases hq : q = here.child name
      · subst hq
        simp [Option.filter, hnot, hfree]
      · simp [Option.filter, hother q hq]
  · rw [hbefore, hafter]
    simp [Option.filter, hnot]

/-- A new file changes no directory that a path leads to. -/
theorem directory?_put_file {t : Tree} {here : Place} {name : String} (mode : Nat) (text : String)
    (hp : t.find? (here.child name) = none) (path : String) :
    (t.put (here.child name) (.file mode text)).directory? path = t.directory? path := by
  unfold directory? resolve?
  split
  · rfl
  · exact walk_filter_put mode text hp _ _

theorem spelledDirectory?_put_file {t : Tree} {here : Place} {name : String} (mode : Nat)
    (text : String) (hp : t.find? (here.child name) = none) (path : String) :
    (t.put (here.child name) (.file mode text)).spelledDirectory? path =
      t.spelledDirectory? path :=
  walk_filter_put mode text hp _ _

end ContainerBundle.Tree
