import ContainerBundle.Json.Field
import ContainerBundle.Text.Digit
import ContainerBundle.Text.Fields
/-!
# Options

An argument list is read in two steps. Each argument is first classed: an option, written out,
shortened to a unique beginning, or as a bundle of letters; or a plain argument. Then options
take effect from left to right, the first plain argument is the container, and whatever is left
over is refused. Behind `--` every argument is plain. An argument that is no text is plain as well,
where it can be an argument at all.
-/
namespace ContainerBundle.CommandLine

inductive Opt
  | help
  | version
  | debug
  | host
  | bundle
  | rootfs
  | hook
  | force
  deriving DecidableEq, Repr

namespace Opt

def spellings : Opt → List String
  | help => ["-h", "--help"]
  | version => ["--version", "-v"]
  | debug => ["--debug", "-d"]
  | host => ["--host"]
  | bundle => ["--bundle", "-b"]
  | rootfs => ["--rootfs"]
  | hook => ["--hook"]
  | force => ["--force", "-f"]

def takesValue : Opt → Bool
  | host | bundle | rootfs | hook => true
  | help | version | debug | force => false

def all : List Opt := [help, version, debug, host, bundle, rootfs, hook, force]

def table : List (String × Opt) := all.flatMap (fun o => o.spellings.map (·, o))

def ofSpelling? (s : String) : Option Opt := (table.find? (fun e => e.1 == s)).map (·.2)

def label (o : Opt) : String := "/".intercalate o.spellings

end Opt

inductive UsageFault
  | ambiguous (given : String) (candidates : List String)
  | expectedValue (option : Opt)
  | unexpectedValue (option : Opt) (value : String)
  | unrecognized (arguments : List String)
  deriving DecidableEq, Repr

def UsageFault.message : UsageFault → String
  | .ambiguous given candidates =>
    "ambiguous option: " ++ given ++ " could match " ++ ", ".intercalate candidates
  | .expectedValue option => "argument " ++ option.label ++ ": expected one argument"
  | .unexpectedValue option value =>
    "argument " ++ option.label ++ ": ignored explicit argument " ++ Text.quoted value
  | .unrecognized arguments => "unrecognized arguments: " ++ " ".intercalate arguments

inductive Departure
  | help
  | version
  | refused (cause : UsageFault)
  | failed (fault : Fault)

/-- A value attached to its option; two minus signs alone are dropped and leave an empty list. -/
def attachedValue (s : List Char) : Json :=
  if s = ['-', '-'] then .arr [] else .str (String.ofList s)

/-- An option in letters or written out, with the characters that are attached to it. -/
structure OptionUse where
  option : Opt
  inLetters : Bool
  attached : Option (List Char) := none
  deriving DecidableEq, Repr

inductive Token
  | plain (argument : Json)
  | separator
  | option (use : OptionUse)
  | unknown (argument : String)

private def isInLetters (spelling : String) : Bool := !Text.startsWith "--" spelling

private def isDecimalRow (s : List Char) : Bool := s.all (fun c => (Text.decimalValue? c).isSome)

/-- Whether what follows a minus sign writes a number, a final line feed allowed. -/
private def isNumber (s : List Char) : Bool :=
  let body := if s.getLast? = some '\n' then s.dropLast else s
  match Text.cut? '.' body with
  | none => !body.isEmpty && isDecimalRow body
  | some (whole, places) => isDecimalRow whole && !places.isEmpty && isDecimalRow places

private def candidates (argument : String) : List (String × OptionUse) :=
  let chars := argument.toList
  if Text.startsWith "--" argument then
    let (front, attached) := match Text.cut? '=' chars with
      | some (front, value) => (front, some value)
      | none => (chars, none)
    (Opt.table.filter (fun e => front.isPrefixOf e.1.toList)).map fun e =>
      (e.1, { option := e.2, inLetters := isInLetters e.1, attached })
  else
    (Opt.table.filter (fun e => e.1.toList == chars.take 2)).map fun e =>
      (e.1, { option := e.2, inLetters := true, attached := some (chars.drop 2) })

private def classifyOther (argument : String) : Except UsageFault Token :=
  match candidates argument with
  | [(_, use)] => .ok (.option use)
  | [] =>
    if isNumber (argument.toList.drop 1) || argument.toList.contains ' ' then
      .ok (.plain (.str argument))
    else .ok (.unknown argument)
  | several => .error (.ambiguous argument (several.map (·.1)))

def classify (argument : String) : Except UsageFault Token :=
  if !Text.startsWith "-" argument || argument = "-" then .ok (.plain (.str argument))
  else
    match Opt.ofSpelling? argument with
    | some o => .ok (.option { option := o, inLetters := isInLetters argument })
    | none =>
      match Text.cut? '=' argument.toList with
      | none => classifyOther argument
      | some (front, value) =>
        match Opt.ofSpelling? (String.ofList front) with
        | some o =>
          .ok (.option { option := o, inLetters := isInLetters (String.ofList front)
                         attached := some value })
        | none => classifyOther argument

private theorem classifyOther_plain {argument : String} {a : Json}
    (h : classifyOther argument = .ok (.plain a)) : a = .str argument := by
  unfold classifyOther at h
  split at h
  · cases h
  · split at h <;> cases h
    rfl
  · cases h

theorem classify_plain {argument : String} {a : Json}
    (h : classify argument = .ok (.plain a)) : a = .str argument := by
  unfold classify at h
  split at h
  · cases h
    rfl
  · split at h
    · cases h
    · split at h
      · exact classifyOther_plain h
      · split at h
        · cases h
        · exact classifyOther_plain h

/-- The class of an argument that is no text; its first part has to tell that it is no option. -/
def classifyValue (argument : Json) : Except Fault Token :=
  if argument.isVoid then .ok (.plain argument)
  else
    match argument with
    | .arr (.str s :: _) =>
      if s = "" || s = "-" then .error (.shape (.notHashable .list)) else .ok (.plain argument)
    | .arr (first :: _) => .error (.shape (.notCharacter first.shape))
    | .obj _ => .error (.lacking (.int 0))
    | v => .error (.shape (.notSliceable v.shape))

def tokens : List Json → Except Departure (List Token)
  | [] => .ok []
  | a :: rest =>
    if a.isText "--" then .ok (.separator :: rest.map Token.plain)
    else do
      let token ← match a with
        | .str text => (classify text).mapError .refused
        | v => (classifyValue v).mapError .failed
      let others ← tokens rest
      pure (token :: others)

/-- Options with their values, and perhaps one that needs its value from the next argument. -/
structure Effects where
  uses : List (Opt × Option Json) := []
  pending : Option Opt := none

/-- Letters behind an option that takes no value are options themselves, every one of them. -/
def unbundle (option : Opt) (inLetters : Bool) (done : List (Opt × Option Json)) :
    List Char → Except UsageFault Effects
  | [] =>
    if option.takesValue then .ok { uses := done ++ [(option, some (attachedValue []))] }
    else .error (.unexpectedValue option "")
  | c :: rest =>
    if option.takesValue then .ok { uses := done ++ [(option, some (attachedValue (c :: rest)))] }
    else if !inLetters then .error (.unexpectedValue option (String.ofList (c :: rest)))
    else
      match Opt.ofSpelling? (String.ofList ['-', c]) with
      | none => .error (.unexpectedValue option (String.ofList (c :: rest)))
      | some next =>
        if !rest.isEmpty then unbundle next true (done ++ [(option, none)]) rest
        else if next.takesValue then .ok { uses := done ++ [(option, none)], pending := some next }
        else .ok { uses := done ++ [(option, none), (next, none)] }

def OptionUse.effects (use : OptionUse) : Except UsageFault Effects :=
  match use.attached with
  | some chars => unbundle use.option use.inLetters [] chars
  | none =>
    if use.option.takesValue then .ok { pending := some use.option }
    else .ok { uses := [(use.option, none)] }

structure Options where
  debug : Bool := false
  host : Json
  bundle : Json := .str "."
  rootfs : Json := .null
  hooks : List Json := []
  force : Bool := false
  container : Json := .null

def Options.apply (o : Options) : Opt × Option Json → Except Departure Options
  | (.help, _) => .error .help
  | (.version, _) => .error .version
  | (.debug, _) => .ok { o with debug := true }
  | (.force, _) => .ok { o with force := true }
  | (.host, value) => .ok { o with host := value.getD o.host }
  | (.bundle, value) => .ok { o with bundle := value.getD o.bundle }
  | (.rootfs, value) => .ok { o with rootfs := value.getD o.rootfs }
  | (.hook, value) => .ok { o with hooks := o.hooks ++ value.toList }

structure Reading where
  options : Options
  hasContainer : Bool := false
  leftOver : List Json := []

namespace Reading

def applyAll (r : Reading) (uses : List (Opt × Option Json)) : Except Departure Reading := do
  let options ← uses.foldlM Options.apply r.options
  pure { r with options }

def leave (r : Reading) (argument : Json) : Reading :=
  { r with leftOver := r.leftOver ++ [argument] }

def takePlain (r : Reading) (argument : Json) : Reading :=
  if r.hasContainer then r.leave argument
  else { r with options := { r.options with container := argument }, hasContainer := true }

def takeRest (r : Reading) (taken : Bool) (arguments : List Token) : Reading :=
  let values := arguments.map fun
    | .plain a => a
    | .unknown a => .str a
    | _ => .str "--"
  if taken then { r with leftOver := r.leftOver ++ values }
  else
    match values with
    | [] => r
    | a :: rest => { r.takePlain a with leftOver := r.leftOver ++ rest }

end Reading

/-- Reads arguments; `atContainer` tells whether the container was the one just before. -/
def readTokens (r : Reading) (atContainer : Bool) : List Token → Except Departure Reading
  | [] => .ok r
  | .plain a :: rest => readTokens (r.takePlain a) (!r.hasContainer) rest
  | .unknown a :: rest => readTokens (r.leave (.str a)) false rest
  | .separator :: rest =>
    if r.hasContainer && !atContainer then .ok (r.takeRest true (.separator :: rest))
    else .ok (r.takeRest r.hasContainer rest)
  | .option use :: rest =>
    match use.effects with
    | .error cause => .error (.refused cause)
    | .ok effects =>
      match effects.pending with
      | none => do
        let r ← r.applyAll effects.uses
        readTokens r false rest
      | some option =>
        match rest with
        | .plain a :: rest => do
          let r ← r.applyAll (effects.uses ++ [(option, some a)])
          readTokens r false rest
        | _ => .error (.refused (.expectedValue option))

def refusalOf (leftOver : List Json) : Departure :=
  match Json.words leftOver with
  | .ok arguments => .refused (.unrecognized arguments)
  | .error fault => .failed fault

def Options.read (defaultHost : String) (arguments : List Json) : Except Departure Options := do
  let tokens ← tokens arguments
  let r ← readTokens { options := { host := .str defaultHost } } false tokens
  if r.leftOver.isEmpty then pure r.options else throw (refusalOf r.leftOver)

end ContainerBundle.CommandLine
