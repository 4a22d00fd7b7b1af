import Mathlib
import ContainerBundle.Proofs.Conversion.Config
import ContainerBundle.Proofs.Text.Utf8
/-!
# How an identity is resolved

The user, the group and the extra groups of a container are numbers or names. Every name is either
found in the container's tables, and its number is part of the identity, or found nowhere, and a
warning tells so.
-/
namespace ContainerBundle.Conversion

open Json

/-- The number that the digits write, or what a look-up finds under the name. -/
inductive StandsFor (lookUp : String → Except Fault (Option α)) (ofNumber : Int → α)
    (token : String) : Option α → Prop
  | number {n : Int} (hdigits : Text.isDigits token.toList)
      (hread : Text.readInteger token.toList = .ok n) :
      StandsFor lookUp ofNumber token (some (ofNumber n))
  | found {a : α} (hname : ¬ Text.isDigits token.toList) (h : lookUp token = .ok (some a)) :
      StandsFor lookUp ofNumber token (some a)
  | unknown (hname : ¬ Text.isDigits token.toList) (h : lookUp token = .ok none) :
      StandsFor lookUp ofNumber token none

def SplitAtColon (configured name primary : String) : Prop :=
  ':' ∉ name.toList ∧
    (configured = name ++ ":" ++ primary ∨ configured = name ∧ primary = "")

private theorem splitUser_splits (configured : String) :
    SplitAtColon configured (splitUser configured).1 (splitUser configured).2 := by
  rw [splitUser]
  cases hcut : Text.cut? ':' configured.toList with
  | none =>
    exact ⟨Text.cut?_eq_none_iff.mp hcut, .inr ⟨rfl, rfl⟩⟩
  | some sides =>
    obtain ⟨hwhole, hfree⟩ := Text.cut?_eq_some_iff.mp hcut
    refine ⟨by simpa using hfree, .inl ?_⟩
    rw [← String.toList_inj, hwhole]
    simp

/-- What each token of the configured user and of the extra groups stands for. -/
structure Resolution (files : Files) (root : Json) (s : Snapshot) where
  name : String
  primary : String
  splits : ∃ configured, s.user = .str configured ∧ SplitAtColon configured name primary
  ids : Option (Int × Int)
  user : name = "" ∧ ids = none ∨
    name ≠ "" ∧ StandsFor (Account.lookupUser files root) (fun uid => (uid, 0)) name ids
  gid : Option Int
  group : primary = "" ∧ gid = none ∨
    primary ≠ "" ∧ StandsFor (Account.lookupGroup files root) id primary gid
  tokens : List String
  listed : s.groupAdd = tokens.map .str
  extra : List (Option Int)
  groups : List.Forall₂ (StandsFor (Account.lookupGroup files root) id) tokens extra

def unknownUser (name : String) : Remark :=
  ⟨.warning, "ocigen.process",
    "Looking up user " ++ Text.quoted name ++ " failed, running as uid 0"⟩

def unknownGroup (name : String) : Remark :=
  ⟨.warning, "ocigen.process", "Looking up group " ++ Text.quoted name ++ " failed"⟩

def unknownExtraGroup (name : String) : Remark :=
  ⟨.warning, "ocigen.process",
    "Looking up additional group " ++ Text.quoted name ++ " failed, skipping"⟩

namespace Resolution

variable {files : Files} {root : Json} {s : Snapshot}

/-- A group that is empty or unknown is the one of a user that was found by name, and zero without.
-/
def identity (r : Resolution files root s) : Descriptor.User :=
  let own := r.ids.getD (0, 0)
  let found := r.extra.filterMap id
  { uid := own.1
    gid := r.gid.getD own.2
    additionalGids := if found.isEmpty then none else some found }

def unresolved (r : Resolution files root s) : List Remark :=
  (if r.name ≠ "" ∧ r.ids.isNone then [unknownUser r.name] else []) ++
    (if r.primary ≠ "" ∧ r.gid.isNone then [unknownGroup r.primary] else []) ++
    ((r.tokens.zip r.extra).filter (·.2.isNone)).map fun token => unknownExtraGroup token.1

/-- Every configured token shows up in an identity or in a warning. -/
structure Accounts (r : Resolution files root s) : Prop where
  name : r.name ≠ "" → unknownUser r.name ∈ r.unresolved ∨
    ∃ ids, StandsFor (Account.lookupUser files root) (fun uid => (uid, 0)) r.name (some ids) ∧
      r.identity.uid = ids.1
  primary : r.primary ≠ "" → unknownGroup r.primary ∈ r.unresolved ∨
    ∃ gid, StandsFor (Account.lookupGroup files root) id r.primary (some gid) ∧
      r.identity.gid = gid
  extra : ∀ token ∈ r.tokens, unknownExtraGroup token ∈ r.unresolved ∨
    ∃ gid gids, StandsFor (Account.lookupGroup files root) id token (some gid) ∧
      r.identity.additionalGids = some gids ∧ gid ∈ gids

private theorem accounts (r : Resolution files root s) : r.Accounts := by
  constructor
  case name =>
    intro hname
    obtain ⟨-, hstands⟩ := r.user.resolve_left fun hempty => hname hempty.1
    cases hids : r.ids with
    | none => exact .inl (by simp [unresolved, hname, hids])
    | some ids => exact .inr ⟨ids, hids ▸ hstands, by simp [identity, hids]⟩
  case primary =>
    intro hprimary
    obtain ⟨-, hstands⟩ := r.group.resolve_left fun hempty => hprimary hempty.1
    cases hgid : r.gid with
    | none => exact .inl (by simp [unresolved, hprimary, hgid])
    | some gid => exact .inr ⟨gid, hgid ▸ hstands, by simp [identity, hgid]⟩
  case extra =>
    intro token htoken
    have hfirst : (r.tokens.zip r.extra).map Prod.fst = r.tokens :=
      List.map_fst_zip r.groups.length_eq.le
    obtain ⟨⟨_, gid⟩, hpair, rfl⟩ := List.mem_map.mp (hfirst.symm ▸ htoken)
    have hstands := (List.forall₂_iff_zip.mp r.groups).2 hpair
    cases gid with
    | none =>
      left
      apply List.mem_append_right
      exact List.mem_map.mpr ⟨_, List.mem_filter.mpr ⟨hpair, rfl⟩, rfl⟩
    | some gid =>
      have hgid : gid ∈ r.extra.filterMap id :=
        List.mem_filterMap.mpr ⟨some gid, (List.of_mem_zip hpair).2, rfl⟩
      exact .inr ⟨gid, _, hstands, if_neg (by simpa using List.ne_nil_of_mem hgid), hgid⟩

end Resolution

section Tokens

variable {files : Files} {root : Json} {token : String} {passwd group : List (List String)}

private theorem groupOf?_stands (hread : Account.readTable files root "group" = .ok group)
    (hlegible : ¬ Text.Illegible token.toList) :
    StandsFor (Account.lookupGroup files root) id token (groupOf? group token) := by
  rw [groupOf?]
  by_cases hdigits : Text.isDigits token.toList
  · rw [if_pos hdigits]
    exact .number hdigits (Text.readInteger_of_legible hdigits hlegible)
  · rw [if_neg hdigits]
    have hlookup := Account.lookupGroup_of_read hread token
    cases hfound : (Account.find? 3 token group).bind (Account.number? · 2) with
    | none => exact .unknown hdigits (by rw [hlookup, hfound])
    | some gid => exact .found hdigits (by rw [hlookup, hfound])

private theorem userOf?_stands (hread : Account.readTable files root "passwd" = .ok passwd)
    (hlegible : ¬ Text.Illegible token.toList) (hname : token ≠ "") :
    StandsFor (Account.lookupUser files root) (fun uid => (uid, 0)) token
      (userOf? passwd token) := by
  have hset : ¬ token.isEmpty := by simpa using hname
  rw [userOf?, if_neg hset]
  by_cases hdigits : Text.isDigits token.toList
  · rw [if_pos hdigits]
    exact .number hdigits (Text.readInteger_of_legible hdigits hlegible)
  · rw [if_neg hdigits]
    have hlookup := Account.lookupUser_of_read hread token
    cases hfound : (Account.find? 4 token passwd).bind Account.userIds? with
    | none => exact .unknown hdigits (by rw [hlookup, hfound])
    | some ids => exact .found hdigits (by rw [hlookup, hfound])

end Tokens

section Container

variable {files : Files} {root : Json} {passwd group : List (List String)} {s : Snapshot}

def resolutionOf (hs : s.Declared)
    (hpasswd : Account.readTable files root "passwd" = .ok passwd)
    (hgroup : Account.readTable files root "group" = .ok group)
    (hlegible : ∀ token ∈ s.identityTokens, ¬ Text.Illegible token.toList) :
    Resolution files root s where
  name := s.userTokens.1
  primary := s.userTokens.2
  splits := by
    obtain ⟨configured, hconfigured⟩ := hs.user
    refine ⟨configured, hconfigured, ?_⟩
    rw [Snapshot.userTokens, hconfigured]
    exact splitUser_splits configured
  ids := if s.userTokens.1 = "" then none else userOf? passwd s.userTokens.1
  user := by
    by_cases hname : s.userTokens.1 = ""
    · exact .inl ⟨hname, if_pos hname⟩
    · rw [if_neg hname]
      have huser := hlegible s.userTokens.1 (by simp [Snapshot.identityTokens])
      exact .inr ⟨hname, userOf?_stands hpasswd huser hname⟩
  gid := if s.userTokens.2 = "" then none else groupOf? group s.userTokens.2
  group := by
    by_cases hprimary : s.userTokens.2 = ""
    · exact .inl ⟨hprimary, if_pos hprimary⟩
    · rw [if_neg hprimary]
      exact .inr ⟨hprimary, groupOf?_stands hgroup (hlegible _ (by simp [Snapshot.identityTokens]))⟩
  tokens := s.extraTokens
  listed := hs.groupAdd_eq
  extra := s.extraTokens.map (groupOf? group)
  groups := by
    rw [List.forall₂_map_right_iff, List.forall₂_same]
    exact fun token htoken => groupOf?_stands hgroup
      (hlegible token (by simp [Snapshot.identityTokens, htoken]))

variable {hs : s.Declared} {hpasswd : Account.readTable files root "passwd" = .ok passwd}
  {hgroup : Account.readTable files root "group" = .ok group}
  {hlegible : ∀ token ∈ s.identityTokens, ¬ Text.Illegible token.toList}

private theorem identity_resolutionOf :
    (resolutionOf hs hpasswd hgroup hlegible).identity = knownIdentity passwd group s := by
  have hids : (if s.userTokens.1 = "" then none else userOf? passwd s.userTokens.1).getD (0, 0) =
      (userOf? passwd s.userTokens.1).getD (0, 0) := by
    by_cases hname : s.userTokens.1 = "" <;> simp [hname, userOf?]
  have hextra : (s.extraTokens.map (groupOf? group)).filterMap id =
      s.extraTokens.filterMap (groupOf? group) := by
    rw [List.filterMap_map]
    rfl
  have hgid (own : Int) :
      (if s.userTokens.2 = "" then none else groupOf? group s.userTokens.2).getD own =
        if s.userTokens.2.isEmpty then own else (groupOf? group s.userTokens.2).getD own := by
    by_cases hprimary : s.userTokens.2 = "" <;> simp [hprimary]
  simp only [Resolution.identity, resolutionOf, knownIdentity, hids, hgid, hextra]

private theorem warnings_extraTokens (tokens : List String) :
    warnings ((tokens.filter fun token => (groupOf? group token).isNone).map .extraGroupUnknown) =
      ((tokens.zip (tokens.map (groupOf? group))).filter (·.2.isNone)).map
        fun token => unknownExtraGroup token.1 := by
  induction tokens with
  | nil => rfl
  | cons token rest ih =>
    cases hfound : groupOf? group token with
    | some gid => simpa [hfound] using ih
    | none =>
      rw [List.filter_cons_of_pos (by simp [hfound]), List.map_cons, List.map_cons, hfound,
        List.zip_cons_cons, List.filter_cons_of_pos rfl, List.map_cons, ← ih]
      rfl

private theorem unresolved_resolutionOf :
    (resolutionOf hs hpasswd hgroup hlegible).unresolved =
      warnings (unknownTokens passwd group s) := by
  have huser (token : String) : warnings (if (userOf? passwd token).isSome then []
      else [.userUnknown token]) = if token ≠ "" ∧ (if token = "" then none
        else userOf? passwd token).isNone then [unknownUser token] else [] := by
    by_cases hempty : token = ""
    · simp [hempty, userOf?, warnings, remarks]
    · cases hfound : userOf? passwd token <;> simp [hempty] <;> rfl
  have hprimary (token : String) : warnings (if token.isEmpty || (groupOf? group token).isSome
      then [] else [.groupUnknown token]) = if token ≠ "" ∧ (if token = "" then none
        else groupOf? group token).isNone then [unknownGroup token] else [] := by
    by_cases hempty : token = ""
    · simp [hempty, warnings, remarks]
    · cases hfound : groupOf? group token <;> simp [hempty] <;> rfl
  rw [unknownTokens, warnings_append, warnings_append, huser, hprimary, warnings_extraTokens]
  rfl

end Container

/-- The identity is resolved token by token, with one warning for each name that is found nowhere.
-/
theorem identity_resolved {files : Files} {root : Json} {s : Snapshot} (hs : s.Declared)
    (hroot : root.isVoid ∨ root.IsText) (hfiles : Account.Readable files root)
    (hread : ∀ token ∈ s.identityTokens, Text.isDigits token.toList →
      ∃ n, Text.readInteger token.toList = .ok n) :
    ∃ r : Resolution files root s, (identity files root s).outcome = .ok r.identity ∧
      warnings (identity files root s).events = r.unresolved ∧ r.Accounts := by
  have hlegible : ∀ token ∈ s.identityTokens, ¬ Text.Illegible token.toList := by
    intro token htoken hillegible
    obtain ⟨cause, hcause⟩ := Text.readInteger_of_illegible hillegible
    obtain ⟨n, hn⟩ := hread token htoken hillegible.1
    rw [hcause] at hn
    cases hn
  have hpasswd := Account.readTable_of_readable hfiles hroot (List.mem_cons_self)
  have hgroup := Account.readTable_of_readable hfiles hroot
    (List.mem_cons_of_mem "passwd" List.mem_cons_self)
  rw [identity_of_legible hs hpasswd hgroup hlegible]
  refine ⟨resolutionOf hs hpasswd hgroup hlegible, ?_, ?_, Resolution.accounts _⟩
  · rw [identity_resolutionOf]
  · rw [unresolved_resolutionOf]

theorem identity_resolved_with_unknown_groups :
    let files : Files := fun path =>
      if path = "/r/etc/passwd" then some (Text.utf8 "app:x:501:502::/:/bin/sh\n".toList)
      else if path = "/r/etc/group" then some (Text.utf8 "video:x:44:app\n".toList)
      else none
    let s : Snapshot :=
      { id := .str "web", user := .str "app:ghosts", rootfs := .str "/r"
        groupAdd := [.str "video", .str "27", .str "missing"] }
    ∃ r : Resolution files (.str "/r") s,
      r.identity = { uid := 501, gid := 502, additionalGids := some [44, 27] } ∧
      r.unresolved = [unknownGroup "ghosts", unknownExtraGroup "missing"] ∧
      (identity files (.str "/r") s).outcome = .ok r.identity ∧
      warnings (identity files (.str "/r") s).events = r.unresolved := by
  intro files s
  have hs : s.Declared :=
    { Snapshot.declared_bare "web" with
      user := isText_str _
      rootfs := isText_str _
      groupAdd := by simp [s, isText_str] }
  have hfiles : Account.Readable files (.str "/r") := by
    intro name _ path _ bytes hbytes
    by_cases hpasswd : path = "/r/etc/passwd"
    · rw [show files path = _ from if_pos hpasswd, Option.some.injEq] at hbytes
      exact ⟨_, Text.decodeUtf8_eq_ok_iff.mpr hbytes.symm⟩
    by_cases hgroup : path = "/r/etc/group"
    · rw [show files path = _ from (if_neg hpasswd).trans (if_pos hgroup),
        Option.some.injEq] at hbytes
      exact ⟨_, Text.decodeUtf8_eq_ok_iff.mpr hbytes.symm⟩
    · rw [show files path = _ from (if_neg hpasswd).trans (if_neg hgroup)] at hbytes
      cases hbytes
  have hlegible : ∀ token ∈ s.identityTokens, ¬ Text.Illegible token.toList := by decide +kernel
  have hread : ∀ token ∈ s.identityTokens, Text.isDigits token.toList →
      ∃ n, Text.readInteger token.toList = .ok n := fun token htoken hdigits =>
    ⟨_, Text.readInteger_of_legible hdigits (hlegible token htoken)⟩
  have hroot : (str "/r").isVoid ∨ (str "/r").IsText := .inr (isText_str _)
  obtain ⟨r, hidentity, hwarnings, -⟩ := identity_resolved hs hroot hfiles hread
  have hpasswd : Account.table files (.str "/r") "passwd" =
      [["app", "x", "501", "502", "", "/", "/bin/sh"]] := by decide +kernel
  have hgroup : Account.table files (.str "/r") "group" = [["video", "x", "44", "app"]] := by
    decide +kernel
  have hrun := identity_of_legible hs
    (Account.readTable_of_readable hfiles hroot List.mem_cons_self)
    (Account.readTable_of_readable hfiles hroot (List.mem_cons_of_mem _ List.mem_cons_self))
    hlegible
  rw [hpasswd, hgroup] at hrun
  have hknown : (identity files (.str "/r") s).outcome =
      .ok { uid := 501, gid := 502, additionalGids := some [44, 27] } := by
    rw [hrun]
    rfl
  refine ⟨r, Except.ok.inj (hidentity.symm.trans hknown), ?_, hidentity, hwarnings⟩
  rw [← hwarnings, hrun]
  rfl

end ContainerBundle.Conversion
