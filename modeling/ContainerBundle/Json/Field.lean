import ContainerBundle.Fault
import ContainerBundle.Text.Fields
/-!
# Fields of the daemon's documents

The ways in which a conversion uses a value: by a named member, as a list, as a text, by its
first characters, by searching in it. Each is a fault on a shape that does not admit it. A
member that is absent reads as null.
-/
namespace ContainerBundle.Json

/-- The value of a key, null when an object does not have it. -/
def member (v : Json) (key : String) : Except Fault Json :=
  match v with
  | obj members => .ok ((find? key members).getD null)
  | v => .error (.shape (.lacks v.shape .member))

def memberOr (v : Json) (key : String) (default : Json) : Except Fault Json :=
  match v with
  | obj members => .ok ((find? key members).getD default)
  | v => .error (.shape (.lacks v.shape .member))

/-- The value of a key, `default` when it is absent or void. -/
def given (v : Json) (key : String) (default : Json) : Except Fault Json :=
  (v.member key).map (·.orElse default)

/-- The items that a value lists: a text lists its characters and an object its keys. -/
def elements : Json → Except Fault (List Json)
  | arr items => .ok items
  | str s => .ok (s.toList.map (fun c => str (String.singleton c)))
  | obj members => .ok (members.map (fun m => str m.1))
  | v => .error (.shape (.notIterable v.shape))

/-- A list of entries: null lists none and a text is one entry. -/
def entries : Json → Except Fault (List Json)
  | null => .ok []
  | str s => .ok [str s]
  | v => v.elements

def pairs : Json → Except Fault (List (String × Json))
  | obj members => .ok members
  | v => .error (.shape (.lacks v.shape .members))

def text (use : Use) : Json → Except Fault String
  | str s => .ok s
  | v => .error (.shape (.lacks v.shape use))

def leading (n : Nat) : Json → Except Fault Json
  | str s => .ok (str (String.ofList (s.toList.take n)))
  | arr items => .ok (arr (items.take n))
  | v => .error (.shape (.notSliceable v.shape))

def mentions (needle : String) : Json → Except Fault Bool
  | str s => .ok (Text.occursIn needle.toList s.toList)
  | arr items => .ok (items.any (·.isText needle))
  | obj members => .ok (members.any (·.1 == needle))
  | v => .error (.shape (.notSearchable v.shape))

/-- Only a text can be a word, and the first value that is none is named by its place. -/
def words (values : List Json) : Except Fault (List String) :=
  values.zipIdx.mapM fun
    | (str word, _) => .ok word
    | (v, place) => .error (.shape (.notWord place v.shape))

/-- A value that may name a place in a table: anything but a list or an object. -/
def hashable : Json → Except Fault Json
  | arr _ => .error (.shape (.notHashable .list))
  | obj _ => .error (.shape (.notHashable .object))
  | v => .ok v

end ContainerBundle.Json
