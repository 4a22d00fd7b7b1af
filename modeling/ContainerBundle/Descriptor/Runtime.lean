import ContainerBundle.Descriptor.Config
/-!
# The runtime descriptor

The records of `runtime.json`: hooks, namespaces, capabilities, resources and device nodes.
-/
namespace ContainerBundle.Descriptor

structure Hook where
  path : String := ""
  args : Option (List Json) := none

structure Hooks where
  prestart : List Hook := []
  poststart : List Hook := []
  poststop : List Hook := []

structure Namespace where
  kind : Json := .str ""
  path : Option String := none

/-- An entry of the device cgroup list; a missing number stands for every number. -/
structure DeviceRule where
  allow : Bool := false
  kind : Option String := none
  major : Option Int := none
  minor : Option Int := none
  access : Json := .null

structure Memory where
  limit : Json := .null
  reservation : Json := .null
  swap : Json := .null
  kernel : Json := .null
  swappiness : Json := .null

structure Cpu where
  shares : Json := .null
  quota : Json := .null
  period : Json := .null
  cpus : Json := .null
  mems : Json := .null

structure BlockIo where
  weight : Json := .null

structure Pids where
  limit : Json := .null

structure Resources where
  devices : List DeviceRule := []
  disableOomKiller : Option Bool := none
  memory : Option Memory := none
  cpu : Option Cpu := none
  blockIo : Option BlockIo := none
  pids : Option Pids := none

structure Device where
  path : Json := .str ""
  kind : String := "c"
  major : Int := 0
  minor : Int := 0
  fileMode : Option Int := none
  uid : Json := .null
  gid : Json := .null

structure Rlimit where
  kind : String := ""
  hard : Json := .int 0
  soft : Json := .int 0

structure Linux where
  capabilities : List Json := []
  namespaces : List Namespace := []
  resources : Resources := {}
  devices : List Device := []
  rlimits : List Rlimit := []
  sysctl : Option (List (String × Json)) := none
  oomScoreAdj : Json := .null
  maskedPaths : List Json := []
  readonlyPaths : List Json := []

structure Runtime where
  hostname : Json := .str ""
  hooks : Hooks := {}
  linux : Linux := {}

namespace Hook

def members (h : Hook) : List (String × Json) :=
  [("path", .str h.path), ("args", .ofOption (h.args.map Json.arr))]

def toJson (h : Hook) : Json := record h.members

end Hook

namespace Hooks

def members (h : Hooks) : List (String × Json) :=
  [("prestart", .arr (h.prestart.map Hook.toJson)),
   ("poststart", .arr (h.poststart.map Hook.toJson)),
   ("poststop", .arr (h.poststop.map Hook.toJson))]

def toJson (h : Hooks) : Json := record h.members

end Hooks

namespace Namespace

def members (n : Namespace) : List (String × Json) :=
  [("type", n.kind), ("path", .ofText? n.path)]

def toJson (n : Namespace) : Json := record n.members

end Namespace

def number? (n : Option Int) : Json := .ofOption (n.map Json.int)

namespace DeviceRule

def members (r : DeviceRule) : List (String × Json) :=
  [("allow", .bool r.allow), ("type", .ofText? r.kind),
   ("major", number? r.major), ("minor", number? r.minor), ("access", r.access)]

def toJson (r : DeviceRule) : Json := record r.members

end DeviceRule

namespace Memory

def members (m : Memory) : List (String × Json) :=
  [("limit", m.limit), ("reservation", m.reservation), ("swap", m.swap), ("kernel", m.kernel),
   ("swappiness", m.swappiness)]

def toJson (m : Memory) : Json := record m.members

end Memory

namespace Cpu

def members (c : Cpu) : List (String × Json) :=
  [("shares", c.shares), ("quota", c.quota), ("period", c.period), ("cpus", c.cpus),
   ("mems", c.mems)]

def toJson (c : Cpu) : Json := record c.members

end Cpu

namespace BlockIo

def members (b : BlockIo) : List (String × Json) := [("blkioWeight", b.weight)]

def toJson (b : BlockIo) : Json := record b.members

end BlockIo

namespace Pids

def members (p : Pids) : List (String × Json) := [("limit", p.limit)]

def toJson (p : Pids) : Json := record p.members

end Pids

namespace Resources

def members (r : Resources) : List (String × Json) :=
  [("devices", .arr (r.devices.map DeviceRule.toJson)),
   ("disableOOMKiller", .ofOption (r.disableOomKiller.map Json.bool)),
   ("memory", .ofOption (r.memory.map Memory.toJson)),
   ("cpu", .ofOption (r.cpu.map Cpu.toJson)),
   ("blockIO", .ofOption (r.blockIo.map BlockIo.toJson)),
   ("pids", .ofOption (r.pids.map Pids.toJson))]

def toJson (r : Resources) : Json := record r.members

end Resources

namespace Device

def members (d : Device) : List (String × Json) :=
  [("path", d.path), ("type", .str d.kind), ("major", .int d.major), ("minor", .int d.minor),
   ("fileMode", number? d.fileMode), ("uid", d.uid), ("gid", d.gid)]

def toJson (d : Device) : Json := record d.members

end Device

namespace Rlimit

def members (r : Rlimit) : List (String × Json) :=
  [("type", .str r.kind), ("hard", r.hard), ("soft", r.soft)]

def toJson (r : Rlimit) : Json := record r.members

end Rlimit

namespace Linux

def members (l : Linux) : List (String × Json) :=
  [("capabilities", .arr l.capabilities), ("namespaces", .arr (l.namespaces.map Namespace.toJson)),
   ("resources", l.resources.toJson), ("devices", .arr (l.devices.map Device.toJson)),
   ("rlimits", .arr (l.rlimits.map Rlimit.toJson)), ("sysctl", .ofOption (l.sysctl.map Json.obj)),
   ("oomScoreAdj", l.oomScoreAdj), ("maskedPaths", .arr l.maskedPaths),
   ("readonlyPaths", .arr l.readonlyPaths)]

def toJson (l : Linux) : Json := record l.members

end Linux

namespace Runtime

def members (r : Runtime) : List (String × Json) :=
  [("hostname", r.hostname), ("hooks", r.hooks.toJson), ("linux", r.linux.toJson)]

def toJson (r : Runtime) : Json := record r.members

def render (r : Runtime) (limit : Nat := Json.levelLimit) : Except Fault String :=
  r.toJson.document limit

end Runtime

end ContainerBundle.Descriptor
