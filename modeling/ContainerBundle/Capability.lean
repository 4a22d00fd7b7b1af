import ContainerBundle.Text.Fields
import ContainerBundle.Text.Upper
/-!
# Capabilities

Names are compared by their keys: trimmed, in upper case and with the kernel's prefix. A
capability set lists names in the order in which they were added, one for each key, those the
kernel knows in its spelling. The capabilities of a container are a template or every
capability, with the added names behind it and without the dropped ones.
-/
namespace ContainerBundle

namespace Capability

def known : List String :=
  ["CAP_CHOWN", "CAP_DAC_OVERRIDE", "CAP_DAC_READ_SEARCH", "CAP_FOWNER", "CAP_FSETID",
   "CAP_KILL", "CAP_SETGID", "CAP_SETUID", "CAP_SETPCAP", "CAP_LINUX_IMMUTABLE",
   "CAP_NET_BIND_SERVICE", "CAP_NET_BROADCAST", "CAP_NET_ADMIN", "CAP_NET_RAW",
   "CAP_IPC_LOCK", "CAP_IPC_OWNER", "CAP_SYS_MODULE", "CAP_SYS_RAWIO", "CAP_SYS_CHROOT",
   "CAP_SYS_PTRACE", "CAP_SYS_PACCT", "CAP_SYS_ADMIN", "CAP_SYS_BOOT", "CAP_SYS_NICE",
   "CAP_SYS_RESOURCE", "CAP_SYS_TIME", "CAP_SYS_TTY_CONFIG", "CAP_MKNOD", "CAP_LEASE",
   "CAP_AUDIT_WRITE", "CAP_AUDIT_CONTROL", "CAP_SETFCAP", "CAP_MAC_OVERRIDE",
   "CAP_MAC_ADMIN", "CAP_SYSLOG", "CAP_WAKE_ALARM", "CAP_BLOCK_SUSPEND", "CAP_AUDIT_READ",
   "CAP_PERFMON", "CAP_BPF", "CAP_CHECKPOINT_RESTORE"]

def defaultTemplate : List String :=
  ["CAP_CHOWN", "CAP_DAC_OVERRIDE", "CAP_FSETID", "CAP_FOWNER", "CAP_MKNOD", "CAP_NET_RAW",
   "CAP_SETGID", "CAP_SETUID", "CAP_SETFCAP", "CAP_SETPCAP", "CAP_NET_BIND_SERVICE",
   "CAP_SYS_CHROOT", "CAP_KILL", "CAP_AUDIT_WRITE"]

def folded (name : String) : String :=
  String.ofList (Text.upper (Text.trim name.toList))

/-- What two spellings of one capability have in common. -/
def key (name : String) : String :=
  if Text.startsWith "CAP_" (folded name) then folded name else "CAP_" ++ folded name

/-- The kernel's spelling of a name that it knows, any other name as it stands. -/
def normalize (name : String) : String :=
  if known.contains (key name) then key name else name

def isBlank (name : String) : Bool := Text.isBlankText name.toList

def isAll (name : String) : Bool := folded name == "ALL"

end Capability

structure CapabilitySet where
  names : List String
  deriving DecidableEq, Repr

namespace CapabilitySet

def empty : CapabilitySet := ⟨[]⟩

def keys (s : CapabilitySet) : List String := s.names.map Capability.key

def contains (s : CapabilitySet) (name : String) : Bool :=
  !Capability.isBlank name && s.keys.contains (Capability.key name)

/-- Puts a name at the end unless its key is there; a blank name is no capability. -/
def add (s : CapabilitySet) (name : String) : CapabilitySet :=
  if Capability.isBlank name || s.keys.contains (Capability.key name) then s
  else ⟨s.names ++ [Capability.normalize name]⟩

def remove (s : CapabilitySet) (name : String) : CapabilitySet :=
  if Capability.isBlank name then s
  else ⟨s.names.filter (fun n => Capability.key n != Capability.key name)⟩

def size (s : CapabilitySet) : Nat := s.names.length

def addAll (s : CapabilitySet) (names : List String) : CapabilitySet := names.foldl add s

def removeAll (s : CapabilitySet) (names : List String) : CapabilitySet := names.foldl remove s

def ofList (names : List String) : CapabilitySet := empty.addAll names

/-- Visits the names present at the start, `step` changing the set at the turn of each. -/
def visit (step : String → CapabilitySet → CapabilitySet) (s : CapabilitySet) :
    List String × CapabilitySet :=
  s.names.foldl (fun state name => (state.1 ++ [name], step name state.2)) ([], s)

def iterate (step : CapabilitySet → CapabilitySet) (s : CapabilitySet) :
    List String × CapabilitySet :=
  s.visit (fun _ => step)

end CapabilitySet

namespace Capability

def expand (name : String) : List String := if isAll name then known else [name]

def baseline (template drop : List String) (privileged : Bool) : List String :=
  if privileged then known
  else if drop.any isAll then []
  else template

/-- Drops come last; the keyword on a drop list only clears the template. -/
def grant (template add drop : List String) (privileged : Bool) : List String :=
  let start := CapabilitySet.ofList (baseline template drop privileged)
  let dropped := drop.filter (fun name => !isAll name)
  ((start.addAll (add.flatMap expand)).removeAll dropped).names

end Capability

end ContainerBundle
