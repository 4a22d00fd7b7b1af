import ContainerBundle.Json.Nesting
/-!
# The process and filesystem descriptor

The records of `config.json`, each with its members in writing order. A member that is null is
unset, and an unset member of a record is not written. Fields that the daemon's data reaches
unchecked hold the daemon's values.
-/
namespace ContainerBundle.Descriptor

/-- The object that a record's members write: the ones that are set. -/
def record (members : List (String × Json)) : Json :=
  .obj (members.filter (fun m => !m.2.isNull))

def texts (items : List String) : Json := .arr (items.map Json.str)

structure Platform where
  os : Json := .str "linux"
  arch : Json := .str "amd64"

structure User where
  uid : Int := 0
  gid : Int := 0
  additionalGids : Option (List Int) := none

structure Process where
  terminal : Bool := false
  user : User := {}
  args : List Json := []
  env : List String := []
  cwd : Json := .str "/"
  noNewPrivileges : Option Bool := none

structure Root where
  path : Json := .str "rootfs"
  readonly : Bool := false

structure Mount where
  destination : Json := .str ""
  kind : Json := .str ""
  source : Json := .str ""
  options : List Json := []

structure Config where
  version : Json := .str "0.3.0"
  platform : Platform := {}
  process : Process := {}
  root : Root := {}
  mounts : List Mount := []

namespace Platform

def members (p : Platform) : List (String × Json) := [("os", p.os), ("arch", p.arch)]

def toJson (p : Platform) : Json := record p.members

end Platform

namespace User

def members (u : User) : List (String × Json) :=
  [("uid", .int u.uid), ("gid", .int u.gid),
   ("additionalGids", .ofOption (u.additionalGids.map (fun gids => .arr (gids.map Json.int))))]

def toJson (u : User) : Json := record u.members

end User

namespace Process

def members (p : Process) : List (String × Json) :=
  [("terminal", .bool p.terminal), ("user", p.user.toJson), ("args", .arr p.args),
   ("env", texts p.env), ("cwd", p.cwd),
   ("noNewPrivileges", .ofOption (p.noNewPrivileges.map Json.bool))]

def toJson (p : Process) : Json := record p.members

end Process

namespace Root

def members (r : Root) : List (String × Json) :=
  [("path", r.path), ("readonly", .bool r.readonly)]

def toJson (r : Root) : Json := record r.members

end Root

namespace Mount

def members (m : Mount) : List (String × Json) :=
  [("destination", m.destination), ("type", m.kind), ("source", m.source),
   ("options", .arr m.options)]

def toJson (m : Mount) : Json := record m.members

end Mount

namespace Config

def members (c : Config) : List (String × Json) :=
  [("version", c.version), ("platform", c.platform.toJson), ("process", c.process.toJson),
   ("root", c.root.toJson), ("mounts", .arr (c.mounts.map Mount.toJson))]

def toJson (c : Config) : Json := record c.members

def render (c : Config) (limit : Nat := Json.levelLimit) : Except Fault String :=
  c.toJson.document limit

end Config

end ContainerBundle.Descriptor
