import ContainerBundle.Descriptor.Runtime
import ContainerBundle.Snapshot
import ContainerBundle.Traced
/-!
# Devices

The cgroup list of a container denies everything, then allows the usual devices, each device
given to the container and each well-formed rule. A privileged container gets one rule that
allows everything, and no device nodes.
-/
namespace ContainerBundle

open Descriptor

inductive DeviceKind
  | all
  | character
  | block
  deriving DecidableEq, Repr

namespace DeviceKind

def letter : DeviceKind → Char
  | all => 'a'
  | character => 'c'
  | block => 'b'

def label (kind : DeviceKind) : String := String.singleton kind.letter

def ofLetter? (c : Char) : Option DeviceKind :=
  [all, character, block].find? (fun kind => kind.letter == c)

end DeviceKind

/-- The mode and the device number are checked where they are used. -/
structure FileStatus where
  mode : Json
  device : Json
  uid : Json
  gid : Json

structure FileMode where
  bits : Nat
  deriving DecidableEq, Repr

namespace FileMode

/-- The kind of device node, none for any other file. -/
def deviceKind? (mode : FileMode) : Option DeviceKind :=
  let kind := mode.bits / 0x1000 % 0x10
  if kind = 2 then some .character
  else if kind = 6 then some .block
  else none

def permissions (mode : FileMode) : Nat := mode.bits % 0x1000

/-- An integer of 32 bits. One that does not even fit a word of 64 bits is a fault of its own. -/
def ofJson (v : Json) : Except Fault FileMode :=
  match v.integer? with
  | none => .error (.shape .notInteger)
  | some n =>
    if n < 0 then .error (.bounds .modeNegative)
    else if 0xFFFFFFFFFFFFFFFF < n then .error (.bounds .modeAboveWord)
    else if 0xFFFFFFFF < n then .error (.bounds .modeAbove)
    else .ok ⟨n.toNat⟩

end FileMode

structure DeviceNumber where
  bits : Nat
  deriving DecidableEq, Repr

namespace DeviceNumber

/-- The major number: twelve bits of the low half, the others from the high half. -/
def major (number : DeviceNumber) : Nat :=
  (number.bits >>> 8 &&& 0xFFF) ||| (number.bits >>> 32 &&& 0xFFFFF000)

/-- The minor number: eight low bits, the others above the major number's twelve. -/
def minor (number : DeviceNumber) : Nat :=
  (number.bits &&& 0xFF) ||| (number.bits >>> 12 &&& 0xFFFFFF00)

def ofJson (v : Json) : Except Fault DeviceNumber :=
  match v.integer? with
  | none => .error (.shape .notInteger)
  | some n =>
    if n < 0 then .error (.bounds .deviceNegative)
    else if 0xFFFFFFFFFFFFFFFF < n then .error (.bounds .deviceAbove)
    else .ok ⟨n.toNat⟩

end DeviceNumber

abbrev Examiner := Json → Except Fault FileStatus

namespace Conversion

private def usual (kind : DeviceKind) (major minor : Option Nat) (access : String) : DeviceRule :=
  { allow := true, kind := some kind.label, major := major.map Int.ofNat
    minor := minor.map Int.ofNat, access := .str access }

def defaultDevices : List DeviceRule :=
  [usual .character none none "m", usual .block none none "m",
   usual .character (some 1) (some 3) "rwm", usual .character (some 1) (some 8) "rwm",
   usual .character (some 1) (some 7) "rwm", usual .character (some 5) (some 0) "rwm",
   usual .character (some 1) (some 5) "rwm", usual .character (some 1) (some 9) "rwm",
   usual .character (some 136) none "rwm", usual .character (some 5) (some 2) "rwm",
   usual .character (some 10) (some 200) "rwm"]

def denyAll : DeviceRule := { allow := false, access := .str "rwm" }

def allowAll : DeviceRule := { allow := true, access := .str "rwm" }

def deviceKindOf? : List Char → Option DeviceKind
  | [c] => DeviceKind.ofLetter? c
  | _ => none

/-- A device number of a rule as it is written: every number, or a row of digits. -/
def ruleNumber? (s : List Char) : Option (Option (List Char)) :=
  if s = ['*'] then some none
  else if !s.isEmpty && s.all Text.isAsciiDigit then some (some s)
  else none

def isAccess (s : List Char) : Bool :=
  !s.isEmpty && s.length ≤ 3 && s.all (fun c => c == 'r' || c == 'w' || c == 'm')

def ruleValue : Option (List Char) → Except Fault (Option Int)
  | none => .ok none
  | some digits =>
    if Text.digitLimit < digits.length then
      .error (.integer (String.ofList digits) (.tooLong digits.length))
    else .ok (some (Text.asciiValue digits))

/-- The rule that a text of the form `kind major:minor access` writes, none for other texts. -/
def deviceRule (raw : String) : Except Fault (Option DeviceRule) :=
  match Text.fields (· == ' ') (Text.trim raw.toList) with
  | [kind, numbers, access] =>
    match Text.fields (· == ':') numbers with
    | [major, minor] =>
      match deviceKindOf? kind, ruleNumber? major, ruleNumber? minor with
      | some kind, some major, some minor =>
        if isAccess access then do
          let major ← ruleValue major
          let minor ← ruleValue minor
          pure (some { allow := true, kind := some kind.label, major, minor
                       access := .str (String.ofList access) })
        else .ok none
      | _, _, _ => .ok none
    | _ => .ok none
  | _ => .ok none

def examine (stat : Examiner) (path : Json) : Traced FileStatus := do
  Traced.emit (.examined path)
  match stat path with
  | .error (.system cause) => Traced.fail (.conversion (.deviceUnreachable path cause))
  | answer => answer

def deviceNode (stat : Examiner) (m : DeviceMapping) : Traced Device := do
  let status ← examine stat m.pathOnHost
  let mode ← FileMode.ofJson status.mode
  match mode.deviceKind? with
  | none => Traced.fail (.conversion (.notDevice m.pathOnHost))
  | some kind =>
    let number ← DeviceNumber.ofJson status.device
    pure
      { path := m.pathInContainer, kind := kind.label, major := number.major, minor := number.minor
        fileMode := some mode.permissions, uid := status.uid, gid := status.gid }

def mappingRule (node : Device) (m : DeviceMapping) : DeviceRule :=
  { allow := true, kind := some node.kind, major := some node.major, minor := some node.minor
    access := m.permissions }

def declaredRule (entry : Json) : Traced (Option DeviceRule) := do
  let raw ← entry.text .trimming
  match ← deviceRule raw with
  | some rule => pure (some rule)
  | none =>
    Traced.emit (.ruleMalformed raw)
    pure none

def devices (stat : Examiner) (s : Snapshot) : Traced (List Device × List DeviceRule) := do
  if s.privileged then pure ([], [allowAll])
  else
    let nodes ← Traced.forEach (deviceNode stat) s.devices
    let declared ← Traced.forEach declaredRule s.deviceCgroupRules
    pure (nodes, denyAll :: (defaultDevices ++ List.zipWith mappingRule nodes s.devices ++
      declared.filterMap id))

end Conversion

end ContainerBundle
