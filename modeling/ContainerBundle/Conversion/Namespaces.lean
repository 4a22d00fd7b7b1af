import ContainerBundle.Descriptor.Runtime
import ContainerBundle.Snapshot
import ContainerBundle.Traced
/-!
# Namespaces

A kind without an entry is shared with the host. A mode that names another container joins the
namespace file of that container's process; when its process is not known the container gets a
namespace of its own, and a warning says so.
-/
namespace ContainerBundle

open Descriptor

abbrev Peers := List (String × Json)

inductive NamespaceKind
  | pid
  | network
  | ipc
  | uts
  | mount
  | user
  | cgroup
  deriving DecidableEq, Repr

namespace NamespaceKind

def label : NamespaceKind → String
  | pid => "pid"
  | network => "network"
  | ipc => "ipc"
  | uts => "uts"
  | mount => "mount"
  | user => "user"
  | cgroup => "cgroup"

def name (kind : NamespaceKind) : Json := .str kind.label

def all : List NamespaceKind := [pid, network, ipc, uts, mount, user, cgroup]

def ofLabel? (label : String) : Option NamespaceKind := all.find? (fun kind => kind.label == label)

theorem ofLabel?_label (kind : NamespaceKind) : ofLabel? kind.label = some kind := by
  cases kind <;> decide

def file : NamespaceKind → String
  | pid => "ns/pid"
  | network => "ns/net"
  | ipc => "ns/ipc"
  | uts => "ns/uts"
  | mount => "ns/mnt"
  | user => "ns/user"
  | cgroup => "ns/cgroup"

end NamespaceKind

namespace Conversion

def peerMark : String := "container:"

def peerOf? (mode : String) : Option String :=
  (Text.after? peerMark.toList mode.toList).map String.ofList

/-- The kind of namespace that a value names; only the label of a kind names one. -/
def namedKind (name : Json) : Except Fault NamespaceKind := do
  match ← name.hashable with
  | .str label => ((NamespaceKind.ofLabel? label).map pure).getD (.error (.unknownNamespace name))
  | _ => .error (.unknownNamespace name)

def namespacePath (pid name : Json) : Except Fault String := do
  let kind ← namedKind name
  pure ("/proc/" ++ pid.mention ++ "/" ++ kind.file)

/-- The process of a container among the known ones; a void value knows none. -/
def peerProcess (peers : Json) (ref : String) : Except Fault Json :=
  (peers.orElse (.obj [])).member ref

/-- The entry for the kind that a value names, none when the host's namespace is shared. -/
def planNamespace (name mode peers : Json) : Traced (Option Namespace) := do
  if mode.isText "host" then pure none
  else
    let mode ← mode.text .prefixTest
    match peerOf? mode with
    | none => pure (some { kind := name })
    | some ref =>
      let pid ← peerProcess peers ref
      if pid.isVoid then
        Traced.emit (.peerUnknown name ref)
        pure (some { kind := name })
      else
        let path ← namespacePath pid name
        pure (some { kind := name, path := some path })

abbrev NamespacePlan := NamespaceKind → Option Namespace

def planNamespaces (s : Snapshot) (info : DaemonInfo) (peers : Json) : Traced NamespacePlan := do
  let pid ← planNamespace NamespaceKind.pid.name s.namespaces.pid peers
  let network ← planNamespace NamespaceKind.network.name s.namespaces.network peers
  let ipc ← planNamespace NamespaceKind.ipc.name s.namespaces.ipc peers
  let uts ← planNamespace NamespaceKind.uts.name s.namespaces.uts peers
  let remaps ← info.usernsRemap
  pure fun
    | .pid => pid
    | .network => network
    | .ipc => ipc
    | .uts => uts
    | .mount => some { kind := NamespaceKind.mount.name }
    | .user =>
      if remaps && !s.namespaces.userns.isText "host" then
        some { kind := NamespaceKind.user.name }
      else none
    | .cgroup =>
      if s.namespaces.cgroupns.isText "private" then some { kind := NamespaceKind.cgroup.name }
      else none

def listed (plan : NamespaceKind → Option α) : List α := NamespaceKind.all.filterMap plan

end Conversion

end ContainerBundle
