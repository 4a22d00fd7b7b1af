import ContainerBundle.Json.Field
/-!
# Environment

An entry's key is the text before its first equals sign. Of the entries with one key the last
stands, in the place of the first.
-/
namespace ContainerBundle.Conversion

def envKey (entry : String) : String := String.ofList (Text.before '=' entry.toList)

def putEntry (key entry : String) : List (String × String) → List (String × String)
  | [] => [(key, entry)]
  | e :: rest => if e.1 == key then (key, entry) :: rest else e :: putEntry key entry rest

/-- The last entry of every key, in the order in which the keys first occur. -/
def mergeEnv (entries : List String) : List String :=
  (entries.foldl (fun merged entry => putEntry (envKey entry) entry merged) []).map (·.2)

def environment (entries : List Json) : Except Fault (List String) :=
  (entries.mapM (Json.text .splitting)).map mergeEnv

end ContainerBundle.Conversion
