import ContainerBundle.Conversion.Identity
import ContainerBundle.Proofs.Daemon.Declared
import ContainerBundle.Proofs.Text.DigitTokens
/-!
# The identity of a process

Each token of an identity that is no number is looked up in a table of the container. When every
token is legible the identity is found, whatever the tables hold: a token that is found nowhere is
passed over, and a remark names it. An illegible token is the fault of the identity.
-/
namespace ContainerBundle

open Json

namespace Account

/-- The tables below a root directory are valid text where they can be opened. -/
def Readable (files : Files) (root : Json) : Prop :=
  ∀ name ∈ ["passwd", "group"], ∀ path, tablePath root name = .ok (some path) →
    ∀ bytes, files path = some bytes → ∃ text, Text.decodeUtf8 bytes = .ok text

def table (files : Files) (root : Json) (name : String) : List (List String) :=
  (readTable files root name).toOption.getD []

theorem readTable_of_readable {files : Files} {root : Json} {name : String}
    (h : Readable files root) (hroot : root.isVoid ∨ root.IsText)
    (hname : name ∈ ["passwd", "group"]) :
    readTable files root name = .ok (table files root name) := by
  have hread : ∃ records, readTable files root name = .ok records := by
    by_cases hvoid : root.isVoid
    · exact ⟨[], by simp [readTable, tablePath, hvoid]; rfl⟩
    · obtain ⟨directory, rfl⟩ := hroot.resolve_left hvoid
      have hpath : tablePath (.str directory) name =
          .ok (some (Path.join (Path.join directory "etc") name)) := by simp [tablePath, hvoid]
      rw [readTable, hpath, ok_bind]
      cases hbytes : files (Path.join (Path.join directory "etc") name) with
      | none => exact ⟨[], by simp [readText, hbytes]; rfl⟩
      | some bytes =>
        obtain ⟨text, htext⟩ := h name hname _ hpath bytes hbytes
        exact ⟨_, by simp [readText, hbytes, htext]; rfl⟩
  obtain ⟨records, hrecords⟩ := hread
  rw [table, hrecords]
  rfl

theorem lookupUser_of_read {files : Files} {root : Json} {passwd : List (List String)}
    (h : readTable files root "passwd" = .ok passwd) (name : String) :
    lookupUser files root name = .ok ((find? 4 name passwd).bind userIds?) := by
  rw [lookupUser, h]
  rfl

theorem lookupGroup_of_read {files : Files} {root : Json} {group : List (List String)}
    (h : readTable files root "group" = .ok group) (name : String) :
    lookupGroup files root name = .ok ((find? 3 name group).bind (number? · 2)) := by
  rw [lookupGroup, h]
  rfl

end Account

namespace Snapshot

def userTokens (s : Snapshot) : String × String :=
  match s.user with
  | .str configured => Conversion.splitUser configured
  | _ => ("", "")

def extraTokens (s : Snapshot) : List String :=
  s.groupAdd.filterMap fun
    | .str token => some token
    | _ => none

def identityTokens (s : Snapshot) : List String :=
  s.userTokens.1 :: s.userTokens.2 :: s.extraTokens

theorem Declared.groupAdd_eq {s : Snapshot} (h : s.Declared) :
    s.groupAdd = s.extraTokens.map .str := by
  obtain ⟨tokens, htokens⟩ := exists_texts h.groupAdd
  rw [extraTokens, htokens, List.filterMap_map]
  exact congrArg (List.map str) List.filterMap_some.symm

end Snapshot

namespace Conversion

variable {files : Files} {root : Json} {passwd group : List (List String)} {token : String}

/-- The numbers of a user that is a number or is found in the table of users; zero without one. -/
def userOf? (passwd : List (List String)) (token : String) : Option (Int × Int) :=
  if token.isEmpty then some (0, 0)
  else if Text.isDigits token.toList then some (Text.digitsValue token.toList, 0)
  else (Account.find? 4 token passwd).bind Account.userIds?

def groupOf? (group : List (List String)) (token : String) : Option Int :=
  if Text.isDigits token.toList then some (Text.digitsValue token.toList : Int)
  else (Account.find? 3 token group).bind (Account.number? · 2)

private theorem number_of_legible (h : Text.isDigits token.toList)
    (hlegible : ¬ Text.Illegible token.toList) :
    number token = .ok (Text.digitsValue token.toList) := by
  rw [number, Text.readInteger_of_legible h hlegible]
  rfl

private theorem number_of_illegible (h : Text.Illegible token.toList) :
    ∃ cause, number token = .error (.integer token cause) := by
  obtain ⟨cause, hcause⟩ := Text.readInteger_of_illegible h
  exact ⟨cause, by rw [number, hcause]; rfl⟩

def orRemark (event : Event) (fallback : α) (found : Option α) : Traced α :=
  ⟨if found.isSome then [] else [event], .ok (found.getD fallback)⟩

private theorem isEmpty_of_illegible (h : Text.Illegible token.toList) : token.isEmpty = false := by
  rw [Bool.eq_false_iff]
  intro hempty
  have htoken : token = "" := by simpa using hempty
  subst htoken
  simp [Text.Illegible, Text.isDigits] at h

private theorem userIds_of_legible (hread : Account.readTable files root "passwd" = .ok passwd)
    (hlegible : ¬ Text.Illegible token.toList) :
    userIds files root token = orRemark (.userUnknown token) (0, 0) (userOf? passwd token) := by
  rw [userIds, userOf?]
  by_cases hempty : token.isEmpty
  · rw [if_pos hempty, if_pos hempty]
    rfl
  · rw [if_neg hempty, if_neg hempty]
    by_cases hdigits : Text.isDigits token.toList
    · rw [if_pos hdigits, if_pos hdigits, number_of_legible hdigits hlegible]
      rfl
    · rw [if_neg hdigits, if_neg hdigits, Account.lookupUser_of_read hread]
      cases (Account.find? 4 token passwd).bind Account.userIds? <;> rfl

private theorem groupId_of_legible {fallback : Int}
    (hread : Account.readTable files root "group" = .ok group)
    (hlegible : ¬ Text.Illegible token.toList) :
    groupId files root token fallback = orRemark (.groupUnknown token) fallback
      (if token.isEmpty then some fallback else groupOf? group token) := by
  rw [groupId, groupOf?]
  by_cases hempty : token.isEmpty
  · rw [if_pos hempty, if_pos hempty]
    rfl
  · rw [if_neg hempty, if_neg hempty]
    by_cases hdigits : Text.isDigits token.toList
    · rw [if_pos hdigits, if_pos hdigits, number_of_legible hdigits hlegible]
      rfl
    · rw [if_neg hdigits, if_neg hdigits, Account.lookupGroup_of_read hread]
      cases (Account.find? 3 token group).bind (Account.number? · 2) <;> rfl

private theorem extraGroup_of_legible (hread : Account.readTable files root "group" = .ok group)
    (hlegible : ¬ Text.Illegible token.toList) :
    extraGroup files root (.str token) =
      orRemark (.extraGroupUnknown token) none ((groupOf? group token).map some) := by
  have htext : (Json.str token).text .digitTest = .ok token := rfl
  rw [extraGroup, htext, Traced.liftM_eq_ofExcept, Traced.ofExcept_ok, pure_bind, groupOf?]
  by_cases hdigits : Text.isDigits token.toList
  · rw [if_pos hdigits, if_pos hdigits, number_of_legible hdigits hlegible]
    rfl
  · rw [if_neg hdigits, if_neg hdigits, Account.lookupGroup_of_read hread]
    cases (Account.find? 3 token group).bind (Account.number? · 2) <;> rfl

private theorem userIds_of_illegible (h : Text.Illegible token.toList) :
    ∃ cause, (userIds files root token).outcome = .error (.integer token cause) := by
  obtain ⟨cause, hcause⟩ := number_of_illegible h
  refine ⟨cause, ?_⟩
  rw [userIds, isEmpty_of_illegible h, if_neg Bool.false_ne_true, if_pos h.1, hcause]
  rfl

private theorem groupId_of_illegible {fallback : Int} (h : Text.Illegible token.toList) :
    ∃ cause, (groupId files root token fallback).outcome = .error (.integer token cause) := by
  obtain ⟨cause, hcause⟩ := number_of_illegible h
  refine ⟨cause, ?_⟩
  rw [groupId, isEmpty_of_illegible h, if_neg Bool.false_ne_true, if_pos h.1, hcause]
  rfl

private theorem extraGroup_of_illegible (h : Text.Illegible token.toList) :
    ∃ cause, (extraGroup files root (.str token)).outcome = .error (.integer token cause) := by
  obtain ⟨cause, hcause⟩ := number_of_illegible h
  have htext : (Json.str token).text .digitTest = .ok token := rfl
  refine ⟨cause, ?_⟩
  rw [extraGroup, htext, Traced.liftM_eq_ofExcept, Traced.ofExcept_ok, pure_bind, if_pos h.1,
    hcause]
  rfl

def unknownTokens (passwd group : List (List String)) (s : Snapshot) : List Event :=
  let (user, primary) := s.userTokens
  (if (userOf? passwd user).isSome then [] else [.userUnknown user]) ++
    (if primary.isEmpty || (groupOf? group primary).isSome then [] else [.groupUnknown primary]) ++
    (s.extraTokens.filter fun token => (groupOf? group token).isNone).map .extraGroupUnknown

/-- The identity that the tokens leave when those that are found nowhere are passed over. -/
def knownIdentity (passwd group : List (List String)) (s : Snapshot) : Descriptor.User :=
  let (user, primary) := s.userTokens
  let ids := (userOf? passwd user).getD (0, 0)
  let extra := s.extraTokens.filterMap (groupOf? group)
  { uid := ids.1
    gid := if primary.isEmpty then ids.2 else (groupOf? group primary).getD ids.2
    additionalGids := if extra.isEmpty then none else some extra }

variable {s : Snapshot}

/-- The identity as a row of steps over the tokens. -/
theorem identity_eq (hs : s.Declared) : identity files root s = (do
    let ids ← userIds files root s.userTokens.1
    let gid ← groupId files root s.userTokens.2 ids.2
    let extra ← Traced.forEach (fun token => extraGroup files root (.str token)) s.extraTokens
    let gids := extra.filterMap id
    pure { uid := ids.1, gid, additionalGids := if gids.isEmpty then none else some gids }) := by
  obtain ⟨configured, hconfigured⟩ := hs.user
  have htokens : s.userTokens = splitUser configured := by rw [Snapshot.userTokens, hconfigured]
  rw [identity, hs.groupAdd_eq, Traced.forEach_map, hconfigured, htokens]
  rfl

private theorem extraGroups_of_legible (hread : Account.readTable files root "group" = .ok group)
    (hlegible : ∀ token ∈ s.extraTokens, ¬ Text.Illegible token.toList) :
    Traced.forEach (fun token => extraGroup files root (.str token)) s.extraTokens =
      ⟨(s.extraTokens.filter fun token => (groupOf? group token).isNone).map .extraGroupUnknown,
        .ok (s.extraTokens.map (groupOf? group))⟩ := by
  have hvalue : ∀ o : Option Int, (o.map some).getD none = o := fun o => by cases o <;> rfl
  have hevents : s.extraTokens.flatMap (fun token =>
      if ((groupOf? group token).map some).isSome then [] else [Event.extraGroupUnknown token]) =
        (s.extraTokens.filter fun token => (groupOf? group token).isNone).map
          .extraGroupUnknown := by
    induction s.extraTokens with
    | nil => rfl
    | cons token rest ih =>
      rw [List.flatMap_cons, ih, List.filter_cons]
      cases groupOf? group token <;> rfl
  rw [Traced.forEach_of_each (fun token htoken =>
    extraGroup_of_legible hread (hlegible token htoken)), hevents]
  simp only [hvalue]

theorem identity_of_legible (hs : s.Declared)
    (hpasswd : Account.readTable files root "passwd" = .ok passwd)
    (hgroup : Account.readTable files root "group" = .ok group)
    (hlegible : ∀ token ∈ s.identityTokens, ¬ Text.Illegible token.toList) :
    identity files root s =
      ⟨unknownTokens passwd group s, .ok (knownIdentity passwd group s)⟩ := by
  simp only [Snapshot.identityTokens, List.forall_mem_cons] at hlegible
  obtain ⟨huser, hprimary, hextra⟩ := hlegible
  have hids : (s.extraTokens.map (groupOf? group)).filterMap id =
      s.extraTokens.filterMap (groupOf? group) := by rw [List.filterMap_map]; rfl
  rw [identity_eq hs, userIds_of_legible hpasswd huser, extraGroups_of_legible hgroup hextra]
  simp only [groupId_of_legible hgroup hprimary, orRemark, Traced.mk_ok_bind, hids,
    Traced.pure_events, Traced.pure_outcome, List.append_nil]
  by_cases hempty : s.userTokens.2.isEmpty <;> simp [unknownTokens, knownIdentity, hempty]

theorem identity_of_illegible (hs : s.Declared)
    (hpasswd : Account.readTable files root "passwd" = .ok passwd)
    (hgroup : Account.readTable files root "group" = .ok group)
    (hillegible : ∃ token ∈ s.identityTokens, Text.Illegible token.toList) :
    ∃ token ∈ s.identityTokens, Text.Illegible token.toList ∧
      ∃ cause, (identity files root s).outcome = .error (.integer token cause) := by
  rw [identity_eq hs, Traced.outcome_bind]
  by_cases huser : Text.Illegible s.userTokens.1.toList
  · obtain ⟨cause, hcause⟩ := userIds_of_illegible huser
    exact ⟨_, by simp [Snapshot.identityTokens], huser, cause, by rw [hcause, error_bind]⟩
  rw [userIds_of_legible hpasswd huser, orRemark, ok_bind, Traced.outcome_bind]
  by_cases hprimary : Text.Illegible s.userTokens.2.toList
  · obtain ⟨cause, hcause⟩ := groupId_of_illegible hprimary
    exact ⟨_, by simp [Snapshot.identityTokens], hprimary, cause, by rw [hcause, error_bind]⟩
  rw [groupId_of_legible hgroup hprimary, orRemark, ok_bind, Traced.outcome_bind]
  have hextra : ∃ token ∈ s.extraTokens, Text.Illegible token.toList := by
    simpa [Snapshot.identityTokens, huser, hprimary] using hillegible
  have hfails : ∃ token ∈ s.extraTokens, ∃ fault,
      (extraGroup files root (.str token)).outcome = .error fault := by
    obtain ⟨token, htoken, hbad⟩ := hextra
    obtain ⟨cause, hcause⟩ := extraGroup_of_illegible hbad
    exact ⟨token, htoken, _, hcause⟩
  obtain ⟨token, htoken, fault, hfault, hrow⟩ := Traced.forEach_error hfails
  have hbad : Text.Illegible token.toList := by
    by_contra hlegible
    rw [extraGroup_of_legible hgroup hlegible] at hfault
    cases hfault
  obtain ⟨cause, hcause⟩ := @extraGroup_of_illegible files root token hbad
  rw [hcause, Except.error.injEq] at hfault
  exact ⟨token, by simp [Snapshot.identityTokens, htoken], hbad, cause,
    by rw [hrow, error_bind, hfault]⟩

end Conversion

end ContainerBundle
