import ContainerBundle.Json.Display
import ContainerBundle.Json.Reader
import ContainerBundle.Text.Integer
import ContainerBundle.Text.Utf8
/-!
# Faults

Everything that can stop a conversion, as causes. The wording of each cause stands in one
function. Four families are the converter's own: hook declarations, data that cannot be
converted, the daemon and the bundle directory. The others arise when a value has a shape that
its use does not admit.
-/
namespace ContainerBundle

inductive Shape
  | null
  | boolean
  | integer
  | real
  | text
  | list
  | object
  deriving DecidableEq, Repr

def Shape.label : Shape → String
  | .null => "NoneType"
  | .boolean => "bool"
  | .integer => "int"
  | .real => "float"
  | .text => "str"
  | .list => "list"
  | .object => "dict"

def Json.shape : Json → Shape
  | .null => .null
  | .bool _ => .boolean
  | .int _ => .integer
  | .real _ => .real
  | .str _ => .text
  | .arr _ => .list
  | .obj _ => .object

inductive Use
  | member
  | members
  | trimming
  | leadingTrim
  | splitting
  | cutting
  | prefixTest
  | digitTest
  | upperCasing
  deriving DecidableEq, Repr

def Use.label : Use → String
  | .member => "get"
  | .members => "items"
  | .trimming => "strip"
  | .leadingTrim => "lstrip"
  | .splitting => "split"
  | .cutting => "partition"
  | .prefixTest => "startswith"
  | .digitTest => "isdigit"
  | .upperCasing => "upper"

inductive ShapeFault
  | lacks (shape : Shape) (use : Use)
  | notIterable (shape : Shape)
  | notSearchable (shape : Shape)
  | notSliceable (shape : Shape)
  | notOrdered (left right : Shape)
  | notHashable (shape : Shape)
  | notPath (shape : Shape)
  | notFileName (shape : Shape)
  | notWord (place : Nat) (shape : Shape)
  | notFields (shape : Shape)
  | notInteger
  | notDocument (shape : Shape)
  | notCharacter (shape : Shape)
  | unknownField (name : String)
  deriving DecidableEq, Repr

def ShapeFault.message : ShapeFault → String
  | .lacks shape use =>
    "'" ++ shape.label ++ "' object has no attribute '" ++ use.label ++ "'"
  | .notIterable shape => "'" ++ shape.label ++ "' object is not iterable"
  | .notSearchable shape => "argument of type '" ++ shape.label ++ "' is not iterable"
  | .notSliceable .object => "unhashable type: 'slice'"
  | .notSliceable shape => "'" ++ shape.label ++ "' object is not subscriptable"
  | .notOrdered left right =>
    "'<=' not supported between instances of '" ++ left.label ++ "' and '" ++ right.label ++ "'"
  | .notHashable shape => "unhashable type: '" ++ shape.label ++ "'"
  | .notPath shape => "expected str, bytes or os.PathLike object, not " ++ shape.label
  | .notFileName shape =>
    "stat: path should be string, bytes, os.PathLike or integer, not " ++ shape.label
  | .notWord place shape =>
    "sequence item " ++ Text.numeral place ++ ": expected str instance, " ++ shape.label ++ " found"
  | .notFields shape => "argument after ** must be a mapping, not " ++ shape.label
  | .notInteger => "an integer is required"
  | .notDocument shape =>
    "the JSON object must be str, bytes or bytearray, not " ++ shape.label
  | .notCharacter shape => "'in <string>' requires string as left operand, not " ++ shape.label
  | .unknownField name => "unexpected field " ++ Text.quoted name

/-- An integer outside the bounds of an open file, of a mode or of the number of a device. -/
inductive BoundsFault
  | openFileBelow
  | openFileAbove
  | modeNegative
  | modeAbove
  | modeAboveWord
  | deviceNegative
  | deviceAbove
  deriving DecidableEq, Repr

def BoundsFault.message : BoundsFault → String
  | .openFileBelow => "fd is less than minimum"
  | .openFileAbove => "fd is greater than maximum"
  | .modeNegative => "can't convert negative value to unsigned int"
  | .modeAbove => "mode out of range"
  | .modeAboveWord => "Python int too large to convert to C unsigned long"
  | .deviceNegative => "can't convert negative int to unsigned"
  | .deviceAbove => "int too big to convert"

structure OsError where
  number : Int
  reason : String
  deriving DecidableEq, Repr

def OsError.message (e : OsError) : String :=
  "[Errno " ++ Text.numeral e.number ++ "] " ++ e.reason

namespace OsError

def missing : OsError := ⟨2, "No such file or directory"⟩

def nameTooLong : OsError := ⟨36, "File name too long"⟩

def about (e : OsError) (path : String) : OsError :=
  ⟨e.number, e.reason ++ ": " ++ Text.quoted path⟩

def between (e : OsError) (source target : String) : OsError :=
  ⟨e.number, e.reason ++ ": " ++ Text.quoted source ++ " -> " ++ Text.quoted target⟩

end OsError

inductive HookFault
  | noSeparator (raw : String)
  | unknownPhase (phase raw : String)
  | noExecutable (raw : String)
  | notFound (executable raw : Json)

def HookFault.message : HookFault → String
  | .noSeparator raw => "parsing " ++ Text.quoted raw ++ " as phase:exec failed"
  | .unknownPhase phase raw =>
    "unrecognized hook phase " ++ Text.quoted phase ++ " in " ++ Text.quoted raw ++
      ", try 'prestart', 'poststart', or 'poststop'"
  | .noExecutable raw => "no executable given in hook " ++ Text.quoted raw
  | .notFound executable raw =>
    "looking up exec path for " ++ executable.display ++ " (hook " ++ raw.display ++
      ") failed: executable not found"

inductive Section
  | config
  | hostConfig
  deriving DecidableEq, Repr

def Section.key : Section → String
  | .config => "Config"
  | .hostConfig => "HostConfig"

inductive ConversionFault
  | inspectNotObject
  | infoNotObject
  | missingSection (shortId : Json) (missing : Section)
  | noRootfs (shortId : Json)
  | deviceUnreachable (path : Json) (cause : OsError)
  | notDevice (path : Json)

def ConversionFault.message : ConversionFault → String
  | .inspectNotObject => "container inspect result is not an object"
  | .infoNotObject => "daemon info result is not an object"
  | .missingSection shortId missing =>
    "container " ++ (shortId.orElse (.str "?")).mention ++ " has no " ++ missing.key ++ " section"
  | .noRootfs shortId =>
    "container " ++ shortId.mention ++ " has no resolvable root filesystem path " ++
      "(GraphDriver.Data.MergedDir); pass one explicitly"
  | .deviceUnreachable path cause =>
    "stat of device " ++ path.mention ++ " failed: " ++ cause.message ++ ": " ++ path.display
  | .notDevice path => path.mention ++ " is not a device node"

inductive Query
  | container (ref : Json)
  | info

def Query.label : Query → String
  | .container ref => "inspecting container (" ++ ref.mention ++ ")"
  | .info => "getting daemon info"

inductive DaemonFault
  | binaryMissing (binary : String)
  | failed (status stderr : String)
  | malformed (complaint : Json.Complaint) (offset line column : Nat)
  | noSuchContainer
  | unexpectedResponse
  deriving DecidableEq, Repr

def DaemonFault.message : DaemonFault → String
  | .binaryMissing binary => binary ++ " not found"
  | .failed status stderr =>
    let said := String.ofList (Text.trim stderr.toList)
    if said.isEmpty then "exit status " ++ status else said
  | .malformed complaint offset line column =>
    "invalid JSON from daemon: " ++ complaint.message ++ ": line " ++ Text.numeral line ++
      " column " ++ Text.numeral column ++ " (char " ++ Text.numeral offset ++ ")"
  | .noSuchContainer => "no such container"
  | .unexpectedResponse => "unexpected response"

inductive WriteFault
  | system (cause : OsError)
  | targetIsDirectory
  deriving DecidableEq, Repr

def WriteFault.message : WriteFault → String
  | .system cause => cause.message
  | .targetIsDirectory => "target is a directory"

inductive BundleFault
  | directoryMissing (directory : String)
  | fileExists (path : String)
  | writeFailed (path : String) (cause : WriteFault)
  deriving DecidableEq, Repr

def BundleFault.message : BundleFault → String
  | .directoryMissing directory => "Bundle directory not found: " ++ directory
  | .fileExists path => "File " ++ path ++ " exists. Remove it first"
  | .writeFailed path cause => "Writing " ++ path ++ " failed: " ++ cause.message

inductive Fault
  | hook (cause : HookFault)
  | conversion (cause : ConversionFault)
  | daemon (query : Query) (cause : DaemonFault)
  | bundle (cause : BundleFault)
  | shape (cause : ShapeFault)
  | bounds (cause : BoundsFault)
  | integer (text : String) (cause : Text.IntegerFault)
  | nesting (bracket : Json.Bracket)
  | overNested
  | undecodable (cause : Text.Utf8Fault)
  | unknownNamespace (kind : Json)
  | lacking (member : Json)
  | system (cause : OsError)
  | interrupted

def Json.Bracket.label : Json.Bracket → String
  | .list => "array"
  | .object => "object"

private def integerMessage (text : String) : Text.IntegerFault → String
  | .malformed =>
    "invalid literal for int() with base 10: " ++
      String.ofList ((Text.quote text.toList).take 200)
  | .tooLong digits =>
    "Exceeds the limit (" ++ Text.numeral Text.digitLimit ++
      " digits) for integer string conversion: value has " ++ Text.numeral digits ++
      " digits; use sys.set_int_max_str_digits() to increase the limit"

def Fault.message : Fault → String
  | .hook cause => cause.message
  | .conversion cause => cause.message
  | .daemon query cause => query.label ++ " failed: " ++ cause.message
  | .bundle cause => cause.message
  | .shape cause => cause.message
  | .bounds cause => cause.message
  | .integer text cause => integerMessage text cause
  | .nesting bracket =>
    "maximum recursion depth exceeded while decoding a JSON " ++ bracket.label ++
      " from a unicode string"
  | .overNested => "maximum recursion depth exceeded"
  | .undecodable cause => cause.message
  | .unknownNamespace kind => kind.display
  | .lacking member => member.display
  | .system cause => cause.message
  | .interrupted => ""

@[simp] theorem ok_bind (a : α) (f : α → Except Fault β) : (Except.ok a >>= f) = f a := rfl

@[simp] theorem error_bind (fault : Fault) (f : α → Except Fault β) :
    (Except.error fault >>= f) = .error fault := rfl

theorem bind_eq_ok {x : Except ε α} {f : α → Except ε β} {b : β} :
    x >>= f = .ok b ↔ ∃ a, x = .ok a ∧ f a = .ok b := by
  cases x <;> simp [bind, Except.bind]

theorem exists_mapM {f : α → Except Fault β} {P : β → Prop} {items : List α}
    (h : ∀ a ∈ items, ∃ b, f a = .ok b ∧ P b) : ∃ bs, items.mapM f = .ok bs ∧ ∀ b ∈ bs, P b := by
  induction items with
  | nil => exact ⟨[], rfl, by simp⟩
  | cons a rest ih =>
    obtain ⟨⟨b, hb, hP⟩, hrest⟩ := List.forall_mem_cons.mp h
    obtain ⟨bs, hbs, hPs⟩ := ih hrest
    refine ⟨b :: bs, ?_, List.forall_mem_cons.mpr ⟨hP, hPs⟩⟩
    rw [List.mapM_cons, hb, ok_bind, hbs]
    rfl

theorem mapM_cons_eq_ok_iff {f : α → Except Fault β} {a : α} {rest : List α} {bs : List β} :
    (a :: rest).mapM f = .ok bs ↔
      ∃ b others, f a = .ok b ∧ rest.mapM f = .ok others ∧ bs = b :: others := by
  rw [List.mapM_cons]
  cases f a with
  | error fault => simp
  | ok b =>
    rw [ok_bind]
    cases rest.mapM f with
    | error fault => simp [Functor.map, Except.map]
    | ok others => simp [pure, Except.pure, eq_comm]

end ContainerBundle
