import ContainerBundle.Account
import ContainerBundle.Descriptor.Config
import ContainerBundle.Snapshot
import ContainerBundle.Traced
/-!
# The identity of the process

The configured user is `user` or `user:group`, each a number or a name of the container. A name
that is not found leaves number zero, or no extra group, and a warning.
-/
namespace ContainerBundle.Conversion

def number (token : String) : Except Fault Int :=
  (Text.readInteger token.toList).mapError (.integer token)

def userIds (files : Files) (rootfs : Json) (token : String) : Traced (Int × Int) := do
  if token.isEmpty then pure (0, 0)
  else if Text.isDigits token.toList then
    let uid ← number token
    pure (uid, 0)
  else
    match ← Account.lookupUser files rootfs token with
    | some ids => pure ids
    | none =>
      Traced.emit (.userUnknown token)
      pure (0, 0)

def groupId (files : Files) (rootfs : Json) (token : String) (fallback : Int) : Traced Int := do
  if token.isEmpty then pure fallback
  else if Text.isDigits token.toList then number token
  else
    match ← Account.lookupGroup files rootfs token with
    | some gid => pure gid
    | none =>
      Traced.emit (.groupUnknown token)
      pure fallback

def extraGroup (files : Files) (rootfs entry : Json) : Traced (Option Int) := do
  let token ← entry.text .digitTest
  if Text.isDigits token.toList then
    let gid ← number token
    pure (some gid)
  else
    match ← Account.lookupGroup files rootfs token with
    | some gid => pure (some gid)
    | none =>
      Traced.emit (.extraGroupUnknown token)
      pure none

/-- The sides of the first colon, the second empty when there is none. -/
def splitUser (configured : String) : String × String :=
  match Text.cut? ':' configured.toList with
  | some (user, group) => (String.ofList user, String.ofList group)
  | none => (configured, "")

def identity (files : Files) (rootfs : Json) (s : Snapshot) : Traced Descriptor.User := do
  let configured ← s.user.text .cutting
  let (user, group) := splitUser configured
  let ids ← userIds files rootfs user
  let gid ← groupId files rootfs group ids.2
  let extra ← Traced.forEach (extraGroup files rootfs) s.groupAdd
  let gids := extra.filterMap id
  pure { uid := ids.1, gid, additionalGids := if gids.isEmpty then none else some gids }

end ContainerBundle.Conversion
