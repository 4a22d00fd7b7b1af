import ContainerBundle.Path
import ContainerBundle.Proofs.Text.Splitting
import Mathlib.Data.List.Induction
/-!
# Absolute paths

What it is to make a path absolute, told by the components between its slashes: they are followed
one by one from the root, behind those of the working directory unless the path starts with a
slash itself. The function gives the one path that is the path made absolute.
-/
namespace ContainerBundle.Path

/-- Where components lead from the root. -/
inductive Leads : List String → List String → Prop
  | root : Leads [] []
  | stay {names kept : List String} {name : String} (h : Leads names kept)
      (hname : name = "" ∨ name = ".") : Leads (names ++ [name]) kept
  | up {names kept : List String} (h : Leads names kept) : Leads (names ++ [".."]) kept.dropLast
  | down {names kept : List String} {name : String} (h : Leads names kept)
      (hname : name ≠ "" ∧ name ≠ "." ∧ name ≠ "..") : Leads (names ++ [name]) (kept ++ [name])

def StartsTwice (path : String) : Prop :=
  ∃ rest, path.toList = '/' :: '/' :: rest ∧ rest.head? ≠ some '/'

/-- The slashes that an absolute path keeps in front of it. -/
inductive KeepsSlashes (path : String) : String → Prop
  | two (h : StartsTwice path) : KeepsSlashes path "//"
  | one (h : ¬ StartsTwice path) : KeepsSlashes path "/"

def pieces (path : String) : List String := (path.toList.splitOn '/').map String.ofList

/-- A path made absolute, from a working directory when it does not start with a slash. -/
inductive MadeAbsolute (directory path : String) : String → Prop
  | whole {slashes : String} {kept : List String} (h : path.toList.head? = some '/')
      (hslashes : KeepsSlashes path slashes) (hkept : Leads (pieces path) kept) :
      MadeAbsolute directory path (slashes ++ "/".intercalate kept)
  | relative {slashes : String} {kept : List String} (h : path.toList.head? ≠ some '/')
      (hslashes : KeepsSlashes directory slashes)
      (hkept : Leads (pieces directory ++ pieces path) kept) :
      MadeAbsolute directory path (slashes ++ "/".intercalate kept)

variable {names kept : List String}

private theorem resolve_concat (names : List String) (name : String) :
    resolve (names ++ [name]) = if name = "" ∨ name = "." then resolve names
      else if name = ".." then (resolve names).dropLast else resolve names ++ [name] := by
  simp only [resolve, List.foldl_append, List.foldl_cons, List.foldl_nil, step, Bool.or_eq_true,
    decide_eq_true_eq]
  split
  · rfl
  · split
    · exact List.dropLast_reverse.symm
    · exact List.reverse_cons

private theorem leads_iff : Leads names kept ↔ kept = resolve names := by
  constructor
  · intro h
    induction h with
    | root => rfl
    | stay _ hname ih => rw [resolve_concat, if_pos hname, ih]
    | up _ ih => rw [resolve_concat, if_neg (by decide), if_pos rfl, ih]
    | down _ hname ih =>
      rw [resolve_concat, if_neg (by simp [hname]), if_neg hname.2.2, ih]
  · rintro rfl
    induction names using List.reverseRecOn with
    | nil => exact .root
    | append_singleton names name ih =>
      rw [resolve_concat]
      split
      · exact .stay ih ‹_›
      · rename_i hname
        rw [not_or] at hname
        split
        · rename_i hup
          rw [hup]
          exact .up ih
        · exact .down ih ⟨hname.1, hname.2, ‹_›⟩

private theorem leadingSlashes_of_two {path : String} (h : StartsTwice path) :
    leadingSlashes path.toList = "//" := by
  obtain ⟨rest, hpath, hrest⟩ := h
  simp [hpath, leadingSlashes, hrest]

private theorem leadingSlashes_of_one {path : String} (h : ¬ StartsTwice path) :
    leadingSlashes path.toList = "/" := by
  unfold leadingSlashes
  split
  · rename_i a b rest hpath
    rw [if_neg]
    simp only [Bool.and_eq_true, decide_eq_true_eq]
    rintro ⟨⟨rfl, rfl⟩, hrest⟩
    exact h ⟨rest, hpath, hrest⟩
  · rfl

private theorem keepsSlashes_iff {path slashes : String} :
    KeepsSlashes path slashes ↔ slashes = leadingSlashes path.toList := by
  constructor
  · intro h
    cases h with
    | two h => exact (leadingSlashes_of_two h).symm
    | one h => exact (leadingSlashes_of_one h).symm
  · rintro rfl
    by_cases h : StartsTwice path
    · rw [leadingSlashes_of_two h]
      exact .two h
    · rw [leadingSlashes_of_one h]
      exact .one h

private theorem leadingSlashes_congr {a b : String} (h : StartsTwice a ↔ StartsTwice b) :
    leadingSlashes a.toList = leadingSlashes b.toList := by
  by_cases hb : StartsTwice b
  · rw [leadingSlashes_of_two hb, leadingSlashes_of_two (h.mpr hb)]
  · rw [leadingSlashes_of_one hb, leadingSlashes_of_one (mt h.mp hb)]

theorem components_append (front back : String) :
    components (front ++ "/" ++ back) = components front ++ components back := by
  have hslash : "/".toList = ['/'] := rfl
  rw [components, String.toList_append, String.toList_append, hslash, List.append_assoc,
    List.singleton_append, Text.fields_append_cons rfl, List.map_append]
  rfl

private theorem pieces_eq_components (path : String) : pieces path = components path :=
  congrArg (List.map String.ofList) (Text.fields_eq_splitOn '/' path.toList).symm

private theorem resolve_skip (front back : List String) :
    resolve (front ++ "" :: back) = resolve (front ++ back) := by
  simp [resolve, step]

variable {directory path result : String}

private theorem join_cases (directory path : String) :
    directory = "" ∧ join directory path = path ∨
      (∃ front, directory = front ++ "/" ∧ join directory path = front ++ "/" ++ path) ∨
      directory ≠ "" ∧ directory.toList.getLast? ≠ some '/' ∧
        join directory path = directory ++ "/" ++ path := by
  by_cases hempty : directory = ""
  · refine .inl ⟨hempty, ?_⟩
    rw [hempty]
    simp [join]
  · by_cases hlast : directory.toList.getLast? = some '/'
    · obtain ⟨front, hfront⟩ := List.getLast?_eq_some_iff.mp hlast
      have hdirectory : directory = String.ofList front ++ "/" := by
        rw [← String.toList_inj, hfront, String.toList_append, String.toList_ofList]
        rfl
      refine .inr (.inl ⟨String.ofList front, hdirectory, ?_⟩)
      rw [join, if_pos (by simp [hlast]), hdirectory]
    · refine .inr (.inr ⟨hempty, hlast, ?_⟩)
      rw [join, if_neg (by simp [hempty, hlast])]

private theorem startsTwice_append (front : String) {back : String}
    (h : back.toList.head? ≠ some '/') :
    StartsTwice (front ++ "/" ++ back) ↔ StartsTwice (front ++ "/") := by
  have hslash : "/".toList = ['/'] := rfl
  simp only [StartsTwice, String.toList_append, hslash]
  match front.toList with
  | [] => cases hback : back.toList <;> simp_all
  | [a] => simp [h]
  | a :: b :: rest => cases rest <;> simp

private theorem startsTwice_join (h : path.toList.head? ≠ some '/') :
    StartsTwice (join directory path) ↔ StartsTwice directory := by
  rcases join_cases directory path with ⟨rfl, hjoin⟩ | ⟨front, rfl, hjoin⟩ | ⟨hne, hlast, hjoin⟩
  · rw [hjoin]
    refine iff_of_false ?_ ?_
    · rintro ⟨rest, hpath, -⟩
      exact h (by rw [hpath]; rfl)
    · rintro ⟨rest, hpath, -⟩
      cases hpath
  · rw [hjoin]
    exact startsTwice_append front h
  · rw [hjoin, startsTwice_append directory h]
    have hslash : "/".toList = ['/'] := rfl
    simp only [StartsTwice, String.toList_append, hslash]
    match hdirectory : directory.toList with
    | [] => exact absurd (String.toList_eq_nil_iff.mp hdirectory) hne
    | [a] => simp_all
    | [a, b] => simp_all
    | a :: b :: c :: rest => simp

private theorem resolve_join (directory path : String) :
    resolve (components (join directory path)) = resolve (pieces directory ++ pieces path) := by
  rw [pieces_eq_components, pieces_eq_components]
  rcases join_cases directory path with ⟨rfl, hjoin⟩ | ⟨front, rfl, hjoin⟩ | ⟨-, -, hjoin⟩
  · rw [hjoin]
    exact (resolve_skip [] (components path)).symm
  · have hfront : components (front ++ "/") = components front ++ [""] := by
      have happend := components_append front ""
      rwa [String.append_empty] at happend
    rw [hjoin, components_append, hfront, List.append_assoc, List.singleton_append, resolve_skip]
  · rw [hjoin, components_append]

theorem madeAbsolute_iff :
    MadeAbsolute directory path result ↔ result = absolute directory path := by
  have habsolute : isAbsolute path = true ↔ path.toList.head? = some '/' := decide_eq_true_iff
  constructor
  · intro h
    cases h with
    | whole h hslashes hkept =>
      rw [absolute, if_pos (habsolute.mpr h), keepsSlashes_iff.mp hslashes, leads_iff.mp hkept,
        pieces_eq_components]
    | relative h hslashes hkept =>
      -- The path behind the directory adds no slash in front and goes on where the directory leads.
      rw [absolute, if_neg (mt habsolute.mp h), keepsSlashes_iff.mp hslashes, leads_iff.mp hkept,
        resolve_join, leadingSlashes_congr (startsTwice_join h)]
  · rintro rfl
    rw [absolute]
    split
    · rename_i h
      rw [← pieces_eq_components]
      exact .whole (habsolute.mp h) (keepsSlashes_iff.mpr rfl) (leads_iff.mpr rfl)
    · rename_i h
      have hrelative : path.toList.head? ≠ some '/' := mt habsolute.mpr h
      rw [resolve_join, leadingSlashes_congr (startsTwice_join hrelative)]
      exact .relative hrelative (keepsSlashes_iff.mpr rfl) (leads_iff.mpr rfl)

end ContainerBundle.Path
