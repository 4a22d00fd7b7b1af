import ContainerBundle.Directory.Place
/-!
# Directory trees

A tree gives the entries below one directory, and those of the host around it, by their places.
Following a path resolves the links on it, and a path may leave the tree. What is listed is the
tree alone.
-/
namespace ContainerBundle

inductive Entry
  | directory
  | file (mode : Nat) (text : String)
  | link (target : String)
  deriving DecidableEq, Repr

structure Tree where
  entries : List (Place × Entry)
  deriving DecidableEq, Repr

namespace Tree

def empty : Tree := ⟨Place.hostDirectories.map (fun place => (place, .directory))⟩

def find? (t : Tree) (place : Place) : Option Entry :=
  (t.entries.find? (fun e => e.1 == place)).map (·.2)

def erase (t : Tree) (place : Place) : Tree :=
  ⟨t.entries.filter (fun e => e.1 != place)⟩

def put (t : Tree) (place : Place) (entry : Entry) : Tree :=
  ⟨(place, entry) :: (t.erase place).entries⟩

def move (t : Tree) (source target : Place) : Tree :=
  match t.find? source with
  | none => t
  | some entry => (t.erase source).put target entry

theorem find?_erase (t : Tree) (p q : Place) :
    (t.erase p).find? q = if q = p then none else t.find? q := by
  unfold find? erase
  induction t.entries with
  | nil => simp
  | cons e rest ih =>
    by_cases hp : e.1 = p
    · by_cases hq : q = p
      · subst hq
        simp_all
      · have : e.1 ≠ q := fun h => hq (h ▸ hp)
        simp_all
    · by_cases hq : e.1 = q
      · have : q ≠ p := fun h => hp (hq.trans h)
        simp_all
      · simp_all

theorem find?_put (t : Tree) (p q : Place) (e : Entry) :
    (t.put p e).find? q = if q = p then some e else t.find? q := by
  by_cases h : q = p
  · subst h
    simp [put, find?]
  · have hpq : ¬p = q := fun hp => h hp.symm
    have := find?_erase t p q
    simp only [h, if_false] at this ⊢
    simpa [put, find?, hpq] using this

theorem find?_move {t : Tree} {source target : Place} {entry : Entry}
    (h : t.find? source = some entry) (q : Place) :
    (t.move source target).find? q =
      if q = target then some entry else if q = source then none else t.find? q := by
  simp [move, h, find?_put, find?_erase]

/-- One walk along names from the directory `here`; `follow` goes on behind a link. -/
def walkNames (t : Tree) (follow : Place → List String → Option Place) :
    Place → List String → Option Place
  | here, [] => some here
  | here, name :: rest =>
    if name = "" || name = "." then walkNames t follow here rest
    else if name = ".." then walkNames t follow here.parent rest
    else
      match t.find? (here.child name) with
      | none => none
      | some .directory => walkNames t follow (here.child name) rest
      | some (.file _ _) => if rest.isEmpty then some (here.child name) else none
      | some (.link target) => follow (here.start target) (Path.components target ++ rest)

def walk (t : Tree) : (links : Nat) → Place → List String → Option Place
  | 0 => walkNames t (fun _ _ => none)
  | links + 1 => walkNames t (walk t links)

def linkLimit : Nat := 40

def pathLimit : Nat := 4096

def followable (path : String) : Bool := path.utf8ByteSize < pathLimit

/-- The place that a path leads to. The empty path and a path that is too long lead nowhere. -/
def resolve? (t : Tree) (path : String) : Option Place :=
  if path.isEmpty || !followable path then none
  else t.walk linkLimit (Place.top.start path) (Path.components path)

def isDirectory (t : Tree) (place : Place) : Bool :=
  place.names.isEmpty || t.find? place == some .directory

def directory? (t : Tree) (path : String) : Option Place := (t.resolve? path).filter t.isDirectory

/-- The directory that a path leads to once it is made absolute by its text. That drops a name in
front of `..`, also where the name is a link. -/
def spelledDirectory? (t : Tree) (path : String) : Option Place :=
  let place := Place.top.spelled path
  (t.walk linkLimit place.base place.names).filter t.isDirectory

private def enter (t : Tree) (here : Place) (name : String) : Tree × Place :=
  match t.walk linkLimit here [name] with
  | some place => (t, place)
  | none => (t.put (here.child name) .directory, here.child name)

private def steps (path : String) : List String :=
  (Path.components path).filter (fun name => name != "" && name != ".")

/-- A file is written through a link, also when nothing bears the name of the link's target yet. -/
private def destination (t : Tree) : (links : Nat) → Place → String → Place
  | 0, here, name => here.child name
  | links + 1, here, name =>
    match t.find? (here.child name) with
    | some (.link target) =>
      match (steps target).getLast?,
          t.walk linkLimit (here.start target) (steps target).dropLast with
      | some last, some above => destination t links above last
      | _, _ => here.child name
    | _ => here.child name

/-- A file that is written through a link reaches its target, and a directory that is there stays.
-/
private def plantIn (t : Tree) (here : Place) (name : String) (entry : Entry) : Tree :=
  match entry with
  | .file _ _ => t.put (t.destination linkLimit here name) entry
  | .link _ => t.put (here.child name) entry
  | .directory =>
    match t.walk linkLimit here [name] with
    | some _ => t
    | none => t.put (here.child name) entry

def plant (t : Tree) (path : String) (entry : Entry) : Tree :=
  let names := steps path
  match names.getLast? with
  | none => t
  | some name =>
    let (t, here) := names.dropLast.foldl (fun (t, here) n => t.enter here n) (t, Place.top)
    t.plantIn here name entry

def listing (t : Tree) : List (String × Entry) :=
  let below := t.entries.filterMap fun e => e.1.path?.map fun path => ("/".intercalate path, e.2)
  below.mergeSort (fun a b => !(b.1 < a.1))

end Tree

end ContainerBundle
