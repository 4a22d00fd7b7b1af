import ContainerBundle.Text.Fields
/-!
# Paths

Joining a name to a directory, and the absolute form of a path: no empty component, no `.`,
every `..` applied, and one leading slash, or two when the path starts with exactly two.
-/
namespace ContainerBundle.Path

/-- Adds a name to a directory, with one slash between them unless the directory brings it. -/
def join (directory name : String) : String :=
  if directory.isEmpty || directory.toList.getLast? = some '/' then directory ++ name
  else directory ++ "/" ++ name

def components (path : String) : List String :=
  (Text.fields (· == '/') path.toList).map String.ofList

def isAbsolute (path : String) : Bool := path.toList.head? = some '/'

/-- Applies one component to the components before it, the last one first. -/
def step (seen : List String) (name : String) : List String :=
  if name = "" || name = "." then seen
  else if name = ".." then seen.tail
  else name :: seen

def resolve (names : List String) : List String := (names.foldl step []).reverse

def leadingSlashes (path : List Char) : String :=
  match path with
  | a :: b :: rest => if a = '/' && b = '/' && rest.head? ≠ some '/' then "//" else "/"
  | _ => "/"

/-- The absolute form of a path, read from `directory` when it is relative. -/
def absolute (directory path : String) : String :=
  let whole := if isAbsolute path then path else join directory path
  leadingSlashes whole.toList ++ "/".intercalate (resolve (components whole))

theorem isAbsolute_absolute (directory path : String) : isAbsolute (absolute directory path) := by
  have hslashes (whole : List Char) : (leadingSlashes whole).toList.head? = some '/' := by
    fun_cases leadingSlashes whole <;> rfl
  rw [absolute, isAbsolute, String.toList_append, List.head?_append, hslashes]
  rfl

end ContainerBundle.Path
