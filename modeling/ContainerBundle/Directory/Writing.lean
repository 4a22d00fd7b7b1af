import ContainerBundle.Bundle
import ContainerBundle.Directory.Tree
/-!
# Writing a bundle

Both documents are staged beside their targets and then moved into place one after the other.
Whatever happens, no staging file is left. A schedule says which calls the file system fails; a
path that is too long fails without it. The directory of a call is looked up once, also where a
document takes the place of a link on the way to it, and all places lie on one file system.
-/
namespace ContainerBundle

/-- The failures of the file system by the number of the call, from one, the path of the top of the
tree, and the levels of a value that the runtime has room for. -/
structure WriteSchedule where
  stage : Nat → Option OsError
  permit : Nat → Option OsError
  replace : Nat → Option OsError
  top : String := "/tmp/tmp00000000"
  levels : Nat := Json.levelLimit

namespace WriteSchedule

def faultless : WriteSchedule :=
  { stage := fun _ => none, permit := fun _ => none, replace := fun _ => none }

end WriteSchedule

structure Staged where
  name : String
  source : Place

namespace Tree

def freshName (t : Tree) (name : String) : String :=
  let longest := t.entries.foldl (fun n e => e.1.names.foldl (fun n part => max n part.length) n) 0
  "." ++ name ++ "." ++ String.ofList (List.replicate (longest + 1) 'x') ++ ".tmp"

def stagingMode : Nat := 0o600

def descriptorMode : Nat := 0o644

/-- Why the file system takes no entry under a path, whatever the schedule says. -/
def refusal? (path : String) : Option OsError :=
  if followable path then none else some .nameTooLong

/-- The path of a staging file, with eight letters in place of those that are drawn at random. -/
def stagingPath (top directory name : String) : String :=
  Path.join (Path.absolute top directory) ("." ++ name ++ ".xxxxxxxx.tmp")

/-- The path is made absolute by its text first, and whatever stands in its way is told as missing.
-/
def stagingPlace (t : Tree) (schedule : WriteSchedule) (directory name : String) :
    Except OsError Place :=
  let path := stagingPath schedule.top directory name
  match refusal? path, t.spelledDirectory? directory with
  | some cause, _ => .error (cause.about path)
  | none, none => .error (OsError.missing.about path)
  | none, some above => .ok above

def stageOne (t : Tree) (schedule : WriteSchedule) (directory : String) (call : Nat)
    (name text : String) : Tree × Except OsError Staged :=
  match schedule.stage call with
  | some cause => (t, .error cause)
  | none =>
    match t.stagingPlace schedule directory name with
    | .error cause => (t, .error cause)
    | .ok above =>
      let source := above.child (t.freshName name)
      let staged := t.put source (.file stagingMode text)
      match schedule.permit call with
      | some cause => (staged.erase source, .error cause)
      | none => (staged.put source (.file descriptorMode text), .ok ⟨name, source⟩)

def discard (t : Tree) (staged : List Staged) : Tree := staged.foldl (fun t s => t.erase s.source) t

/-- Stages documents from the `call`-th on; a failure removes those staged before it. -/
def stageAll (t : Tree) (schedule : WriteSchedule) (directory : String) (call : Nat)
    (staged : List Staged) : List (String × String) → Tree × Except (String × OsError) (List Staged)
  | [] => (t, .ok staged)
  | (name, text) :: rest =>
    match t.stageOne schedule directory call name text with
    | (t, .error cause) => (t.discard staged, .error (name, cause))
    | (t, .ok s) => t.stageAll schedule directory (call + 1) (staged ++ [s]) rest

def placeAll (t : Tree) (schedule : WriteSchedule) (directory : String) (here : Place)
    (call : Nat) : List Staged → Tree × Traced Unit
  | [] => (t, pure ())
  | s :: rest =>
    let path := Path.join directory s.name
    let source := stagingPath schedule.top directory s.name
    match (schedule.replace call).or ((refusal? path).map (·.between source path)) with
    | some cause =>
      (t.discard (s :: rest), Traced.fail (.bundle (.writeFailed path (.system cause))))
    | none =>
      let (after, others) :=
        (t.move s.source (here.child s.name)).placeAll schedule directory here (call + 1) rest
      (after, do Traced.emit (.documentWritten path); others)

def writeDocuments (t : Tree) (schedule : WriteSchedule) (directory : String) (here : Place)
    (documents : List (String × String)) : Tree × Traced (List String) :=
  match t.stageAll schedule directory 1 [] documents with
  | (after, .error (name, cause)) =>
    (after, Traced.fail (.bundle (.writeFailed (Path.join directory name) (.system cause))))
  | (staging, .ok staged) =>
    match documents.find? (fun d => (staging.directory? (Path.join directory d.1)).isSome) with
    | some d =>
      (staging.discard staged,
        Traced.fail (.bundle (.writeFailed (Path.join directory d.1) .targetIsDirectory)))
    | none =>
      let (after, placed) := staging.placeAll schedule directory here 1 staged
      (after, do placed; pure (documents.map (fun d => Path.join directory d.1)))

/-- An entry is seen under a name when it is there and the path to it is short enough. -/
def bears (t : Tree) (directory : String) (here : Place) (name : String) : Bool :=
  followable (Path.join directory name) && (t.find? (here.child name)).isSome

def writeBundle (t : Tree) (schedule : WriteSchedule) (b : Bundle) (directory : String)
    (force : Bool) : Tree × Traced (List String) :=
  match t.directory? directory with
  | none => (t, Traced.fail (.bundle (.directoryMissing directory)))
  | some here =>
    match b.render schedule.levels with
    | .error fault => (t, Traced.fail fault)
    | .ok documents =>
      match documents.find? (fun d => !force && t.bears directory here d.1) with
      | some d => (t, Traced.fail (.bundle (.fileExists (Path.join directory d.1))))
      | none => t.writeDocuments schedule directory here documents

/-- The text of a value that names a directory. A number stands for an open file, and none of
these is a directory; any other value cannot be a name at all. -/
def directoryName : Json → Except Fault String
  | .str name => .ok name
  | v =>
    match v.integer? with
    | none => .error (.shape (.notFileName v.shape))
    | some n =>
      if n < -0x80000000 then .error (.bounds .openFileBelow)
      else if 0x7FFFFFFF < n then .error (.bounds .openFileAbove)
      else .error (.bundle (.directoryMissing v.mention))

def writeBundleAt (t : Tree) (schedule : WriteSchedule) (b : Bundle) (directory : Json)
    (force : Bool) : Tree × Traced (List String) :=
  match directoryName directory with
  | .error fault => (t, Traced.fail fault)
  | .ok name => t.writeBundle schedule b name force

end Tree

end ContainerBundle
