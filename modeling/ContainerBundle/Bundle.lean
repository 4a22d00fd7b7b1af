import ContainerBundle.Hook.Compile
import ContainerBundle.Conversion.Config
import ContainerBundle.Conversion.Runtime
/-!
# Bundles

A bundle is the two descriptors of one container. Making one compiles the hooks, grants the
capabilities, converts process and runtime, and merges the hooks in, in that order.
-/
namespace ContainerBundle

structure Bundle where
  config : Descriptor.Config
  runtime : Descriptor.Runtime

namespace Bundle

def configName : String := "config.json"

def runtimeName : String := "runtime.json"

def render (b : Bundle) (limit : Nat := Json.levelLimit) :
    Except Fault (List (String × String)) := do
  let config ← b.config.render limit
  let runtime ← b.runtime.render limit
  pure [(configName, config), (runtimeName, runtime)]

end Bundle

namespace Capability

/-- Whether a drop list clears the template; entries are read only up to the keyword. -/
def clears : List Json → Except Fault Bool
  | [] => pure false
  | entry :: rest => do
    let name ← entry.text .trimming
    if isAll name then pure true else clears rest

def templateNames (template : Json) : Except Fault (List String) := do
  let entries ← (template.orElse (.arr [])).elements
  entries.mapM (Json.text .trimming)

/-- The template is read only when the container starts from it. -/
def grantFrom (template : Json) (add drop : List Json) (privileged : Bool) :
    Except Fault (List String) := do
  let cleared ← if privileged then pure false else clears drop
  let template ← if privileged || cleared then pure [] else templateNames template
  let add ← add.mapM (Json.text .trimming)
  let drop ← drop.mapM (Json.text .trimming)
  pure (grant template add drop privileged)

end Capability

inductive HookSource
  | declared (search : SearchPath) (raws : Json)
  | compiled (hooks : Descriptor.Hooks)

def HookSource.hooks : HookSource → Traced Descriptor.Hooks
  | .declared search raws => do
    let raws ← raws.elements
    compileHooks search raws
  | .compiled hooks => pure hooks

/-- What a conversion sees of the host and of the container's files. -/
structure HostView where
  stat : Examiner
  files : Files

def generate (view : HostView) (s : Snapshot) (info : DaemonInfo) (hooks : HookSource)
    (rootfs peers : Json) : Traced Bundle := do
  let hooks ← hooks.hooks
  let template := Json.arr info.defaultCapabilities
  let granted ← Capability.grantFrom template s.capAdd s.capDrop s.privileged
  let config ← Conversion.config view.files s info rootfs
  let runtime ← Conversion.runtime view.stat s info (.arr (granted.map Json.str)) peers
  pure ⟨config, mergeHooks runtime hooks⟩

end ContainerBundle
