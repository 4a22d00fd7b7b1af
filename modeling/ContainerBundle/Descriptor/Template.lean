import ContainerBundle.Descriptor.Runtime
import ContainerBundle.Fault
/-!
# Records from raw fields

A record of any kind built from its default by replacing some of its fields with given values.
-/
namespace ContainerBundle.Descriptor

inductive RecordKind
  | platform
  | user
  | process
  | root
  | mount
  | config
  | hook
  | hooks
  | namespaceEntry
  | deviceRule
  | memory
  | cpu
  | blockIo
  | pids
  | resources
  | device
  | rlimit
  | linux
  | runtime
  deriving DecidableEq, Repr

namespace RecordKind

def template : RecordKind → List (String × Json)
  | platform => ({} : Platform).members
  | user => ({} : User).members
  | process => ({} : Process).members
  | root => ({} : Root).members
  | mount => ({} : Mount).members
  | config => ({} : Config).members
  | hook => ({} : Hook).members
  | hooks => ({} : Hooks).members
  | namespaceEntry => ({} : Namespace).members
  | deviceRule => ({} : DeviceRule).members
  | memory => ({} : Memory).members
  | cpu => ({} : Cpu).members
  | blockIo => ({} : BlockIo).members
  | pids => ({} : Pids).members
  | resources => ({} : Resources).members
  | device => ({} : Device).members
  | rlimit => ({} : Rlimit).members
  | linux => ({} : Linux).members
  | runtime => ({} : Runtime).members

def fill (kind : RecordKind) (given : List (String × Json)) : Except Fault Json :=
  match given.find? (fun field => (Json.find? field.1 kind.template).isNone) with
  | some field => .error (.shape (.unknownField field.1))
  | none =>
    .ok (record (kind.template.map (fun m => (m.1, (Json.find? m.1 given).getD m.2))))

def build (kind : RecordKind) : Json → Except Fault Json
  | .obj given => kind.fill given
  | v => .error (.shape (.notFields v.shape))

end RecordKind

end ContainerBundle.Descriptor
