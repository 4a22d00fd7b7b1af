import ContainerBundle.Descriptor.Runtime
import ContainerBundle.Hook
/-!
# Compiled hooks

A list of declarations becomes the hook lists of the runtime descriptor, each in declaration
order. The first declaration that fails stops the compilation.
-/
namespace ContainerBundle

def HookEntry.toHook (e : HookEntry) : Descriptor.Hook :=
  { path := e.path, args := if e.args.isEmpty then none else some e.args }

def hooksOf (phase : Phase) (entries : List HookEntry) : List Descriptor.Hook :=
  (entries.filter (fun e => e.phase = phase)).map HookEntry.toHook

def groupHooks (entries : List HookEntry) : Descriptor.Hooks :=
  { prestart := hooksOf .prestart entries
    poststart := hooksOf .poststart entries
    poststop := hooksOf .poststop entries }

def compileHooks (search : SearchPath) (raws : List Json) : Traced Descriptor.Hooks := do
  let entries ← Traced.forEach (HookEntry.ofRaw search) raws
  pure (groupHooks entries)

def mergeHooks (runtime : Descriptor.Runtime) (hooks : Descriptor.Hooks) : Descriptor.Runtime :=
  { runtime with hooks := hooks }

end ContainerBundle
