import ContainerBundle.Descriptor.Config
import ContainerBundle.Snapshot
import ContainerBundle.Traced
/-!
# Mounts

The list starts with the mounts that every container gets and the network files that the daemon
manages, without those whose destination the container mounts itself. The container's own
mounts follow, one for each record.
-/
namespace ContainerBundle.Conversion

private def builtIn (destination kind source : String) (options : List String) :
    Descriptor.Mount :=
  { destination := .str destination, kind := .str kind, source := .str source,
    options := options.map Json.str }

structure BuiltInMount where
  destination : String
  mount : Descriptor.Mount

private def entry (destination kind source : String) (options : List String) : BuiltInMount :=
  ⟨destination, builtIn destination kind source options⟩

def defaultMounts : List BuiltInMount :=
  [entry "/proc" "proc" "proc" [],
   entry "/dev" "tmpfs" "tmpfs" ["nosuid", "strictatime", "mode=755", "size=65536k"],
   entry "/dev/pts" "devpts" "devpts"
     ["nosuid", "noexec", "newinstance", "ptmxmode=0666", "mode=0620", "gid=5"],
   entry "/dev/shm" "tmpfs" "shm" ["nosuid", "noexec", "nodev", "mode=1777", "size=65536k"],
   entry "/dev/mqueue" "mqueue" "mqueue" ["nosuid", "noexec", "nodev"],
   entry "/sys" "sysfs" "sysfs" ["nosuid", "noexec", "nodev", "ro"],
   entry "/sys/fs/cgroup" "cgroup" "cgroup" ["nosuid", "noexec", "nodev", "relatime", "ro"]]

/-- The kind of a mount; before the daemon told it, a named mount was a volume. -/
def mountKind (r : MountRecord) : Json :=
  if !r.kind.isVoid then r.kind
  else if r.name.isVoid then .str "bind" else .str "volume"

/-- The tokens of a mode text that are neither blank nor an access flag. -/
def modeTokens (mode : String) : List String :=
  ((Text.fields (· == ',') mode.toList).map (fun token => String.ofList (Text.trim token))).filter
    (fun token => !token.isEmpty && token != "ro" && token != "rw")

def addOption (options : List String) (option : String) : List String :=
  if options.contains option then options else options ++ [option]

def bindsHost (kind : Json) : Bool := kind.isText "bind" || kind.isText "volume"

def accessOptions (kind : Json) (mode : String) (writable : Bool) : List String :=
  (modeTokens mode).foldl addOption (if bindsHost kind then ["rbind"] else []) ++
    [if writable then "rw" else "ro"]

def mountOf (r : MountRecord) : Except Fault Descriptor.Mount := do
  let kind := mountKind r
  let mode ← r.mode.text .splitting
  let options := (accessOptions kind mode !r.writable.isVoid).map Json.str
  let present := options.any (fun o => match r.propagation with
    | .str p => o.isText p
    | _ => false)
  pure
    { destination := r.destination
      kind := if bindsHost kind then .str "bind" else kind
      source := if bindsHost kind then r.source else r.source.orElse kind
      options := if r.propagation.isVoid || present then options else options ++ [r.propagation] }

/-- The files that the daemon manages for a container with a network of its own. -/
def networkFiles (s : Snapshot) : List BuiltInMount :=
  if s.namespaces.network.isText "host" || s.namespaces.network.isText "none" then []
  else
    [("/etc/resolv.conf", s.resolvConfPath), ("/etc/hostname", s.hostnamePath),
      ("/etc/hosts", s.hostsPath)].filterMap fun (destination, source) =>
        if source.isVoid then none
        else some
          ⟨destination, { destination := .str destination, kind := .str "bind", source := source
                          options := ["rbind", "rprivate", "rw"].map Json.str }⟩

def keepFree (taken : List Json) : List BuiltInMount → Traced (List Descriptor.Mount)
  | [] => pure []
  | b :: rest => do
    if taken.any (·.isText b.destination) then
      Traced.emit (.mountOverridden b.destination)
      keepFree taken rest
    else
      let kept ← keepFree taken rest
      pure (b.mount :: kept)

def mounts (s : Snapshot) : Traced (List Descriptor.Mount) := do
  let own ← Traced.ofExcept (s.mounts.mapM mountOf)
  let taken ← Traced.ofExcept (own.mapM (fun m => m.destination.hashable))
  let kept ← keepFree taken (defaultMounts ++ networkFiles s)
  pure (kept ++ own)

theorem mapM_hashable_destinations (own : List Descriptor.Mount) :
    own.mapM (fun m => m.destination.hashable) =
      (own.map (·.destination)).mapM Json.hashable := by
  rw [List.mapM_map]
  rfl

end ContainerBundle.Conversion
