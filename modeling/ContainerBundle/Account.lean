import ContainerBundle.Json.Field
import ContainerBundle.Path
/-!
# Accounts of the container

User and group names are looked up in the files below the container's root. A file is a row of
lines; a line that is blank or a comment is skipped, any other is a record of fields between
colons. The first record that bears the name and has enough fields decides.
-/
namespace ContainerBundle

/-- The bytes of the files that can be opened, by their paths. No path holds U+0000: a host refuses
such a path as a value, not as a file. -/
abbrev Files := String → Option (List UInt8)

namespace Account

def readText (files : Files) (path : String) : Except Fault (Option String) :=
  match files path with
  | none => .ok none
  | some bytes =>
    match Text.decodeUtf8 bytes with
    | .error fault => .error (.undecodable fault)
    | .ok text => .ok (some (String.ofList (Text.unifyLineEnds text.toList)))

/-- The fields of one line, none when it holds no record. -/
def record? (line : List Char) : Option (List String) :=
  let body := Text.trim line
  if body.isEmpty || body.head? = some '#' then none
  else some ((Text.fields (· == ':') body).map String.ofList)

def records (text : String) : List (List String) :=
  (Text.fields Text.isLineBreak text.toList).filterMap record?

def find? (size : Nat) (name : String) (table : List (List String)) : Option (List String) :=
  table.find? (fun fields => size ≤ fields.length && fields.head? == some name)

def number? (fields : List String) (place : Nat) : Option Int :=
  match fields[place]? with
  | none => none
  | some field => (Text.readInteger field.toList).toOption

/-- The path of a table below the root directory, none when there is no root directory. -/
def tablePath (rootfs : Json) (table : String) : Except Fault (Option String) :=
  if rootfs.isVoid then .ok none
  else match rootfs with
    | .str root => .ok (some (Path.join (Path.join root "etc") table))
    | v => .error (.shape (.notPath v.shape))

def readTable (files : Files) (rootfs : Json) (table : String) :
    Except Fault (List (List String)) := do
  match ← tablePath rootfs table with
  | none => pure []
  | some path =>
    match ← readText files path with
    | none => pure []
    | some text => pure (records text)

def userIds? (fields : List String) : Option (Int × Int) :=
  match number? fields 2, number? fields 3 with
  | some uid, some gid => some (uid, gid)
  | _, _ => none

def lookupUser (files : Files) (rootfs : Json) (name : String) :
    Except Fault (Option (Int × Int)) := do
  let table ← readTable files rootfs "passwd"
  pure ((find? 4 name table).bind userIds?)

def lookupGroup (files : Files) (rootfs : Json) (name : String) : Except Fault (Option Int) := do
  let table ← readTable files rootfs "group"
  pure ((find? 3 name table).bind (number? · 2))

end Account

end ContainerBundle
