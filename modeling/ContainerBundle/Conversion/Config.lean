import ContainerBundle.Conversion.Environment
import ContainerBundle.Conversion.Identity
import ContainerBundle.Conversion.Mounts
/-!
# The process and filesystem of a container

Only a root filesystem is indispensable. Everything else falls back to a default when the
daemon did not report it.
-/
namespace ContainerBundle.Conversion

def architectures : List (String × String) :=
  [("x86_64", "amd64"), ("amd64", "amd64"), ("i386", "386"), ("i686", "386"),
   ("aarch64", "arm64"), ("arm64", "arm64"), ("armv7l", "arm"), ("armhf", "arm"),
   ("ppc64le", "ppc64le"), ("s390x", "s390x")]

/-- Entrypoint and command, or else the path that the daemon resolved with its arguments. -/
def arguments (s : Snapshot) : List Json :=
  if (s.entrypoint ++ s.cmd).isEmpty then
    if s.path.isVoid then [] else s.path :: s.args
  else s.entrypoint ++ s.cmd

def noNewPrivileges (options : List Json) : Option Bool :=
  if options.any (fun o => o.isText "no-new-privileges" || o.isText "no-new-privileges:true" ||
      o.isText "no-new-privileges=true") then some true
  else none

def platform (info : DaemonInfo) : Except Fault Descriptor.Platform := do
  let arch ← info.architecture.hashable
  let known := architectures.find? (fun a => arch.isText a.1)
  pure
    { os := info.osType.orElse (.str "linux")
      arch := match known with
        | some a => .str a.2
        | none => arch.orElse (.str "amd64") }

/-- Names are looked up in the container's own root directory, also when `rootfs` overrides it. -/
def config (files : Files) (s : Snapshot) (info : DaemonInfo) (rootfs : Json) :
    Traced Descriptor.Config := do
  let root := rootfs.orElse s.rootfs
  if root.isVoid then
    let shortId ← s.shortId
    Traced.fail (.conversion (.noRootfs shortId))
  else
    let user ← identity files (s.rootfs.orElse rootfs) s
    let env ← environment s.env
    let platform ← platform info
    let mounts ← mounts s
    let shortId ← s.shortId
    Traced.emit (.processConverted shortId (arguments s).length mounts.length)
    pure
      { platform
        process :=
          { terminal := s.tty, user, args := arguments s, env
            cwd := s.workingDir.orElse (.str "/")
            noNewPrivileges := noNewPrivileges s.securityOpt }
        root := { path := root, readonly := s.readonlyRootfs }
        mounts }

end ContainerBundle.Conversion
