import ContainerBundle.Hook.Phase
import ContainerBundle.Json.Field
import ContainerBundle.Path
import ContainerBundle.Traced
/-!
# Lifecycle hooks

A hook is declared as `phase:executable argument …`. The phase is spelled exactly, the command
is split at blanks, and the executable is looked up on the search path and made absolute.
Compiling a list of declarations stops at the first that fails and groups the others by phase.
-/
namespace ContainerBundle

structure HookDeclaration where
  raw : String
  phase : Phase
  executable : String
  args : List String
  deriving DecidableEq, Repr

structure HookEntry where
  phase : Phase
  path : String
  args : List Json

namespace HookDeclaration

def parse (raw : String) : Except HookFault HookDeclaration :=
  match Text.cut? ':' raw.toList with
  | none => .error (.noSeparator raw)
  | some (label, command) =>
    match Phase.ofLabel? (String.ofList label) with
    | none => .error (.unknownPhase (String.ofList label) raw)
    | some phase =>
      match Text.words command with
      | [] => .error (.noExecutable raw)
      | executable :: args =>
        .ok ⟨raw, phase, String.ofList executable, args.map String.ofList⟩

end HookDeclaration

/-- The answer of the search path is void for an executable that it does not have. -/
structure SearchPath where
  find : String → Json
  workingDirectory : String

namespace SearchPath

def lookUp (search : SearchPath) : Json → Except Fault Json
  | .str name => .ok (search.find name)
  | v => v.hashable.map (fun _ => .null)

def locate (search : SearchPath) (executable raw : Json) : Traced String := do
  Traced.emit (.lookedUp executable)
  let found ← search.lookUp executable
  if found.isVoid then Traced.fail (.hook (.notFound executable raw))
  else
    match found with
    | .str path => pure (Path.absolute search.workingDirectory path)
    | v => Traced.fail (.shape (.notPath v.shape))

end SearchPath

namespace HookEntry

def ofDeclaration (search : SearchPath) (d : HookDeclaration) : Traced HookEntry := do
  let path ← search.locate (.str d.executable) (.str d.raw)
  Traced.emit (.hookResolved d.phase d.executable path)
  pure ⟨d.phase, path, d.args.map Json.str⟩

/-- The hook of one item of a list; only a text can be a declaration. -/
def ofRaw (search : SearchPath) (raw : Json) : Traced HookEntry := do
  let raw ← raw.text .cutting
  let d ← Traced.ofExcept ((HookDeclaration.parse raw).mapError .hook)
  ofDeclaration search d

end HookEntry

end ContainerBundle
