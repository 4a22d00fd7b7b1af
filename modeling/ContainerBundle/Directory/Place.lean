import ContainerBundle.Path
/-!
# Places

An entry of the file system lies below the top of a directory tree or elsewhere on the host. The
top lies in the host's directory for temporary files, and of the host only its usual directories
are known.
-/
namespace ContainerBundle

/-- A place by its names from the top of the tree, or from the root of the host. -/
inductive Place
  | within (path : List String)
  | outside (path : List String)
  deriving DecidableEq, Repr

namespace Place

def top : Place := within []

def root : Place := outside []

def surroundings : Place := outside ["tmp"]

def hostDirectories : List Place :=
  [["bin"], ["boot"], ["dev"], ["etc"], ["home"], ["lib"], ["lib64"], ["media"], ["mnt"], ["opt"],
   ["proc"], ["root"], ["run"], ["sbin"], ["srv"], ["sys"], ["tmp"], ["usr"], ["var"],
   ["dev", "fd"], ["dev", "pts"], ["dev", "shm"], ["proc", "self"], ["proc", "sys"],
   ["sys", "class"], ["sys", "devices"], ["sys", "fs"], ["sys", "kernel"], ["usr", "bin"],
   ["usr", "include"], ["usr", "lib"], ["usr", "local"], ["usr", "local", "bin"],
   ["usr", "local", "lib"], ["usr", "sbin"], ["usr", "share"], ["usr", "src"], ["var", "cache"],
   ["var", "lib"], ["var", "log"], ["var", "run"], ["var", "spool"], ["var", "tmp"]].map outside

def start (here : Place) (path : String) : Place := if Path.isAbsolute path then root else here

def names : Place → List String
  | within path => path
  | outside path => path

def child : Place → String → Place
  | within path, name => within (path ++ [name])
  | outside path, name => outside (path ++ [name])

/-- The place one level up; the host's root has none above it. -/
def parent : Place → Place
  | within [] => surroundings
  | within (name :: rest) => within (name :: rest).dropLast
  | outside path => outside path.dropLast

def base : Place → Place
  | within _ => top
  | outside _ => root

/-- Applies one component of a path to the place before it, whatever stands there. -/
def step (here : Place) (name : String) : Place :=
  if name = "" || name = "." then here
  else if name = ".." then here.parent
  else here.child name

/-- The place that a path spells when no link on it is followed. -/
def spelled (here : Place) (path : String) : Place :=
  (Path.components path).foldl step (here.start path)

def path? : Place → Option (List String)
  | within path => some path
  | outside _ => none

theorem child_eq_child_iff {p q : Place} {a b : String} :
    p.child a = q.child b ↔ p = q ∧ a = b := by
  cases p <;> cases q <;> simp [child]

theorem child_inj {here : Place} {a b : String} : here.child a = here.child b ↔ a = b := by
  rw [child_eq_child_iff, and_iff_right rfl]

theorem names_child (here : Place) (name : String) :
    (here.child name).names = here.names ++ [name] := by
  cases here <;> rfl

end Place

end ContainerBundle
