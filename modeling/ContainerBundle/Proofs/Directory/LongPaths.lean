import ContainerBundle.Proofs.Directory.Atomicity
import ContainerBundle.Proofs.AbsolutePath
/-!
# Paths at the limit of their length

Slashes behind a path lead nowhere else, so a directory has paths of every length. The name of the
second document is one byte longer than that of the first: there is one length at which the file
system takes the first document and refuses the second.
-/
namespace ContainerBundle

namespace Path

private theorem size_join (directory a b : String) :
    (join directory a).utf8ByteSize + b.utf8ByteSize =
      (join directory b).utf8ByteSize + a.utf8ByteSize := by
  unfold join
  split <;> simp only [String.utf8ByteSize_append] <;> omega

/-- The path of the working directory with slashes behind it. -/
def padded : Nat → String
  | 0 => "."
  | n + 1 => padded n ++ "/"

theorem toList_padded (n : Nat) : (padded n).toList = '.' :: List.replicate n '/' := by
  induction n with
  | zero => rfl
  | succ n ih =>
    rw [padded, String.toList_append, ih, List.replicate_succ']
    rfl

theorem size_padded (n : Nat) : (padded n).utf8ByteSize = n + 1 := by
  induction n with
  | zero => rfl
  | succ n ih =>
    rw [padded, String.utf8ByteSize_append, ih]
    rfl

private theorem components_padded (n : Nat) :
    components (padded n) = "." :: List.replicate n "" := by
  induction n with
  | zero => decide
  | succ n ih =>
    have hback : padded (n + 1) = padded n ++ "/" ++ "" := by rw [padded, String.append_empty]
    rw [hback, components_append, ih, List.replicate_succ']
    rfl

theorem join_padded (n : Nat) (name : String) :
    join (padded (n + 1)) name = padded n ++ "/" ++ name := by
  have hlast : (padded (n + 1)).toList.getLast? = some '/' := by
    rw [padded, String.toList_append, List.getLast?_append]
    rfl
  rw [join, hlast]
  simp [padded]

private theorem isAbsolute_padded (n : Nat) : isAbsolute (padded n) = false := by
  rw [isAbsolute, toList_padded]
  rfl

private theorem resolve_append_of_still {back : List String}
    (h : ∀ name ∈ back, name = "" ∨ name = ".")
    (front : List String) : resolve (front ++ back) = resolve front := by
  have hstill (seen : List String) : back.foldl step seen = seen := by
    induction back with
    | nil => rfl
    | cons name back ih =>
      obtain ⟨hname, hback⟩ := List.forall_mem_cons.mp h
      rw [List.foldl_cons, step, if_pos (by simpa using hname), ih hback]
  rw [resolve, resolve, List.foldl_append, hstill]

theorem still_components_padded (n : Nat) :
    ∀ name ∈ components (padded n), name = "" ∨ name = "." := by
  rw [components_padded]
  intro name hname
  rcases List.mem_cons.mp hname with rfl | hname
  · exact Or.inr rfl
  · exact Or.inl (List.eq_of_mem_replicate hname)

private theorem absolute_padded (n : Nat) :
    absolute WriteSchedule.faultless.top (padded n) = WriteSchedule.faultless.top := by
  have hwhole : join WriteSchedule.faultless.top (padded n) =
      WriteSchedule.faultless.top ++ "/" ++ padded n := if_neg (by decide)
  have hslashes : leadingSlashes (WriteSchedule.faultless.top ++ "/" ++ padded n).toList = "/" := by
    rw [String.toList_append, String.toList_append]
    rfl
  rw [absolute, isAbsolute_padded]
  simp only [Bool.false_eq_true, if_false, hwhole]
  rw [hslashes, components_append, resolve_append_of_still (still_components_padded n)]
  decide

end Path

private theorem Tree.refusal?_eq_none_iff {path : String} :
    Tree.refusal? path = none ↔ path.utf8ByteSize < 4096 := by
  have hfollowable : Tree.followable path = true ↔ path.utf8ByteSize < 4096 := decide_eq_true_iff
  rw [← hfollowable]
  cases h : Tree.followable path <;> simp [Tree.refusal?, h]

/-- The file system fails no call of its own accord. -/
structure WriteSchedule.Unfailing (schedule : WriteSchedule) : Prop where
  stage : ∀ call, schedule.stage call = none
  permit : ∀ call, schedule.permit call = none
  replace : ∀ call, schedule.replace call = none

theorem WriteSchedule.Unfailing.faultless : WriteSchedule.faultless.Unfailing :=
  ⟨fun _ => rfl, fun _ => rfl, fun _ => rfl⟩

private theorem WriteSchedule.Unfailing.moveFault?_eq_none_iff {schedule : WriteSchedule}
    (h : schedule.Unfailing) {directory name : String} {call : Nat} :
    schedule.moveFault? directory call name = none ↔
      (Path.join directory name).utf8ByteSize < 4096 := by
  simp only [WriteSchedule.moveFault?, h.replace call, Option.none_or, Option.map_eq_none_iff,
    Tree.refusal?_eq_none_iff]

/-- The one length at which the first document is moved and the second is not. -/
theorem WriteSchedule.Unfailing.moves_split_iff {schedule : WriteSchedule} (h : schedule.Unfailing)
    (directory : String) :
    schedule.moveFault? directory 1 Bundle.configName = none ∧
      schedule.moveFault? directory 2 Bundle.runtimeName ≠ none ↔
    (Path.join directory Bundle.configName).utf8ByteSize = 4095 := by
  have hsizes := Path.size_join directory Bundle.configName Bundle.runtimeName
  have hconfig : Bundle.configName.utf8ByteSize = 11 := by decide
  have hruntime : Bundle.runtimeName.utf8ByteSize = 12 := by decide
  -- The second path is one byte longer, so a single length lies between the two bounds.
  rw [Ne, h.moveFault?_eq_none_iff, h.moveFault?_eq_none_iff]
  omega

namespace Tree

private theorem walk_append_of_still {t : Tree} {front : List String}
    (h : ∀ name ∈ front, name = "" ∨ name = ".") (links : Nat) (here : Place)
    (rest : List String) : t.walk links here (front ++ rest) = t.walk links here rest := by
  have hnames (follow : Place → List String → Option Place) :
      t.walkNames follow here (front ++ rest) = t.walkNames follow here rest := by
    induction front with
    | nil => rfl
    | cons name front ih =>
      obtain ⟨hname, hfront⟩ := List.forall_mem_cons.mp h
      rw [List.cons_append, walkNames, if_pos (by simpa using hname), ih hfront]
  cases links with
  | zero => exact hnames _
  | succ links => exact hnames _

private theorem resolve?_of_followable {t : Tree} {path : String} (hne : path ≠ "")
    (h : followable path = true) :
    t.resolve? path = t.walk linkLimit (Place.top.start path) (Path.components path) := by
  rw [resolve?, if_neg]
  simp [h, hne]

theorem directory?_padded (t : Tree) {n : Nat} (h : n + 1 < pathLimit) :
    t.directory? (Path.padded n) = some Place.top := by
  have hne : Path.padded n ≠ "" := by
    intro hempty
    have hsize := Path.size_padded n
    rw [hempty] at hsize
    cases hsize
  have hfollowable : followable (Path.padded n) = true := by
    rw [followable, Path.size_padded]
    exact decide_eq_true h
  have hwalk := t.walk_append_of_still (Path.still_components_padded n) linkLimit Place.top []
  rw [List.append_nil] at hwalk
  rw [directory?, resolve?_of_followable hne hfollowable, Place.start, Path.isAbsolute_padded]
  simp only [Bool.false_eq_true, if_false, hwalk]
  rfl

theorem directory?_join_padded {t : Tree} (n : Nat) {name : String} (hname : name ∈ Bundle.names)
    (hfree : t.find? (Place.top.child name) = none) :
    t.directory? (Path.join (Path.padded (n + 1)) name) = none := by
  have hsingle : ∀ name ∈ Bundle.names, Path.components name = [name] ∧ name ≠ "" ∧ name ≠ "." ∧
      name ≠ ".." := by decide
  obtain ⟨hcomponents, hempty, hdot, hdots⟩ := hsingle name hname
  have habsolute : Path.isAbsolute (Path.padded n ++ "/" ++ name) = false := by
    rw [Path.isAbsolute, String.toList_append, String.toList_append, Path.toList_padded]
    rfl
  have hwalk : t.walk linkLimit Place.top (Path.components (Path.padded n) ++ [name]) = none := by
    rw [t.walk_append_of_still (Path.still_components_padded n), linkLimit, walk, walkNames,
      if_neg (by simp [hempty, hdot]), if_neg hdots, hfree]
  rw [directory?, resolve?, Path.join_padded, Place.start, habsolute, Path.components_append,
    hcomponents]
  simp only [Bool.false_eq_true, if_false, hwalk, ite_self]
  rfl

private theorem spelledDirectory?_padded (t : Tree) (n : Nat) :
    t.spelledDirectory? (Path.padded n) = some Place.top := by
  have hstill (names : List String) (h : ∀ name ∈ names, name = "" ∨ name = ".") (here : Place) :
      names.foldl Place.step here = here := by
    induction names with
    | nil => rfl
    | cons name names ih =>
      obtain ⟨hname, hnames⟩ := List.forall_mem_cons.mp h
      rw [List.foldl_cons, Place.step, if_pos (by simpa using hname), ih hnames]
  have hspelled : Place.top.spelled (Path.padded n) = Place.top := by
    rw [Place.spelled, hstill _ (Path.still_components_padded n), Place.start,
      Path.isAbsolute_padded]
    rfl
  rw [spelledDirectory?, hspelled]
  rfl

theorem stagingFault?_padded (t : Tree) (n call : Nat) {name : String}
    (hname : name ∈ Bundle.names) :
    t.stagingFault? .faultless (Path.padded n) call name = none := by
  have hpath : ∀ name ∈ Bundle.names,
      followable (stagingPath WriteSchedule.faultless.top (Path.padded n) name) = true := by
    simp only [stagingPath, Path.absolute_padded]
    decide
  have hplace : t.stagingPlace .faultless (Path.padded n) name = .ok Place.top := by
    have hrefusal : refusal? (stagingPath WriteSchedule.faultless.top (Path.padded n) name) = none :=
      if_pos (hpath name hname)
    unfold stagingPlace
    simp only [hrefusal, spelledDirectory?_padded]
  unfold stagingFault?
  simp only [hplace]
  rfl

end Tree

end ContainerBundle
