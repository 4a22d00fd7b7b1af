import Mathlib
import ContainerBundle.Bundle
import ContainerBundle.Proofs.Agreement
import ContainerBundle.Proofs.Text.Utf8
/-!
# Lookups in the files of a container

A file that cannot be opened holds nothing, and one whose bytes are those of a text holds its
records, whatever they are: a name that no record bears, a record with too few fields and numbers
that cannot be read leave a lookup empty. A lookup is refused for a file whose bytes are those of
no text, and for nothing else.
-/
namespace ContainerBundle

namespace Account

/-- A file that can be opened and whose bytes are those of no text. -/
def Garbled (files : Files) (path : String) : Prop :=
  ∃ bytes, files path = some bytes ∧ ∀ text : String, bytes ≠ Text.utf8 text.toList

def unified (text : String) : String := String.ofList (Text.unifyLineEnds text.toList)

/-- How reading a file ends: in a fault about its bytes exactly when it is garbled. -/
structure Ends (files : Files) (path : String) (held : String → Option α)
    (reading : Except Fault (Option α)) : Prop where
  absent : files path = none → reading = .ok none
  text : ∀ text : String, files path = some (Text.utf8 text.toList) →
    reading = .ok (held (unified text))
  garbled : (∃ fault, reading = .error fault) ↔ Garbled files path
  fault : ∀ fault, reading = .error fault → ∃ cause, fault = .undecodable cause

variable {files : Files} {path : String}

private theorem readText_of_absent (h : files path = none) : readText files path = .ok none := by
  rw [readText, h]

theorem readText_of_text {text : String} (h : files path = some (Text.utf8 text.toList)) :
    readText files path = .ok (some (unified text)) := by
  have hread : Text.decodeUtf8 (Text.utf8 text.toList) = .ok text :=
    Text.decodeUtf8_eq_ok_iff.mpr rfl
  simp only [readText, h, hread]
  rfl

private theorem readText_cases (files : Files) (path : String) :
    (¬ Garbled files path ∧ ∃ found, readText files path = .ok found) ∨
    (Garbled files path ∧ ∃ cause, readText files path = .error (.undecodable cause)) := by
  cases hbytes : files path with
  | none =>
    refine Or.inl ⟨?_, none, readText_of_absent hbytes⟩
    rintro ⟨bytes, hopened, -⟩
    rw [hbytes] at hopened
    cases hopened
  | some bytes =>
    cases hread : Text.decodeUtf8 bytes with
    | ok text =>
      have htext := Text.decodeUtf8_eq_ok_iff.mp hread
      refine Or.inl ⟨?_, _, readText_of_text (htext ▸ hbytes)⟩
      rintro ⟨opened, hopened, hnone⟩
      rw [hbytes, Option.some.injEq] at hopened
      exact hnone text (hopened ▸ htext)
    | error cause =>
      refine Or.inr ⟨⟨bytes, hbytes, ?_⟩, cause, by simp only [readText, hbytes, hread]⟩
      intro text htext
      rw [Text.decodeUtf8_eq_ok_iff.mpr htext] at hread
      cases hread

private theorem ends_of_readText {held : String → Option α} {reading : Except Fault (Option α)}
    (h : reading = (readText files path).map (·.bind held)) : Ends files path held reading where
  absent habsent := by
    rw [h, readText_of_absent habsent]
    rfl
  text text htext := by
    rw [h, readText_of_text htext]
    rfl
  garbled := by
    rcases readText_cases files path with ⟨hwhole, found, hread⟩ | ⟨hgarbled, cause, hread⟩
    · simp [h, hread, hwhole, Except.map]
    · simp [h, hread, hgarbled, Except.map]
  fault fault hfault := by
    rcases readText_cases files path with ⟨-, found, hread⟩ | ⟨-, cause, hread⟩
    · rw [h, hread] at hfault
      cases hfault
    · rw [h, hread] at hfault
      exact ⟨cause, (Except.error.inj hfault).symm⟩

def tableFile (root table : String) : String := Path.join (Path.join root "etc") table

private theorem tablePath_of_text {root table : String} (h : root ≠ "") :
    tablePath (.str root) table = .ok (some (tableFile root table)) := by
  have hroot : (Json.str root).isVoid = false := by simpa [Json.isVoid] using h
  simp [tablePath, hroot, tableFile]

theorem readTable_bind {root table : String} (h : root ≠ "")
    {look : List (List String) → Option α} (hnone : look [] = none) :
    (do
      let records ← readTable files (.str root) table
      pure (look records)) =
    (readText files (tableFile root table)).map (·.bind fun text => look (records text)) := by
  rw [readTable, tablePath_of_text h, ok_bind]
  dsimp only
  cases readText files (tableFile root table) with
  | error fault => rfl
  | ok found =>
    cases found with
    | none => exact congrArg Except.ok hnone
    | some text => rfl

private theorem lookups_of_rootless {root : Json} (h : root.isVoid) (name : String) :
    lookupUser files root name = .ok none ∧ lookupGroup files root name = .ok none := by
  simp only [lookupUser, lookupGroup, readTable, tablePath, h, if_true]
  exact ⟨rfl, rfl⟩

/-- None of the tables below a root directory is garbled. -/
def Whole (files : Files) (root : Json) : Prop :=
  ∀ table ∈ ["passwd", "group"], ∀ path, tablePath root table = .ok (some path) →
    ¬ Garbled files path

def noFiles : Files := fun _ => none

variable {root : Json} {table : String}

private theorem readTable_endAlike (h : Whole files root) (htable : table ∈ ["passwd", "group"]) :
    EndAlike (readTable files root table) (readTable noFiles root table) := by
  cases hpath : tablePath root table with
  | error fault =>
    simp only [readTable, hpath]
    exact .refused fault
  | ok path =>
    cases path with
    | none =>
      simp only [readTable, hpath]
      exact .held trivial
    | some path =>
      rcases readText_cases files path with ⟨-, found, hread⟩ | ⟨hgarbled, -⟩
      · have hnothing : readText noFiles path = .ok none := readText_of_absent rfl
        simp only [readTable, hpath, ok_bind, hread, hnothing]
        cases found <;> exact .held trivial
      · exact absurd hgarbled (h table htable path hpath)

private theorem lookupUser_endAlike (h : Whole files root) (name : String) :
    EndAlike (lookupUser files root name) (lookupUser noFiles root name) :=
  (readTable_endAlike h (by simp)).bind fun _ _ _ => .held trivial

private theorem lookupGroup_endAlike (h : Whole files root) (name : String) :
    EndAlike (lookupGroup files root name) (lookupGroup noFiles root name) :=
  (readTable_endAlike h (by simp)).bind fun _ _ _ => .held trivial

end Account

namespace Conversion

open Account

variable {files : Files} {root : Json}

private theorem number_endAlike {token : String} {f : Int → Traced α} {x y : Traced α}
    (h : EndAlike x.outcome y.outcome) :
    EndAlike (if Text.isDigits token.toList then (do let n ← number token; f n) else x).outcome
      (if Text.isDigits token.toList then (do let n ← number token; f n) else y).outcome := by
  by_cases hdigits : Text.isDigits token.toList
  · rw [if_pos hdigits, if_pos hdigits]
    exact EndAlike.refl _
  · rw [if_neg hdigits, if_neg hdigits]
    exact h

private theorem userIds_endAlike (h : Whole files root) (token : String) :
    EndAlike (userIds files root token).outcome (userIds noFiles root token).outcome := by
  rw [userIds, userIds]
  by_cases hempty : token.isEmpty
  · rw [if_pos hempty, if_pos hempty]
    exact EndAlike.refl _
  · rw [if_neg hempty, if_neg hempty]
    apply number_endAlike
    rw [Traced.outcome_bind, Traced.outcome_bind]
    refine (lookupUser_endAlike h token).bind fun found other _ => ?_
    cases found <;> cases other <;> exact .held trivial

private theorem groupId_endAlike (h : Whole files root) (token : String) (fallback other : Int) :
    EndAlike (groupId files root token fallback).outcome
      (groupId noFiles root token other).outcome := by
  rw [groupId, groupId]
  by_cases hempty : token.isEmpty
  · rw [if_pos hempty, if_pos hempty]
    exact .held trivial
  · rw [if_neg hempty, if_neg hempty]
    by_cases hdigits : Text.isDigits token.toList
    · rw [if_pos hdigits, if_pos hdigits]
      exact EndAlike.refl _
    · rw [if_neg hdigits, if_neg hdigits, Traced.outcome_bind, Traced.outcome_bind]
      refine (lookupGroup_endAlike h token).bind fun found other _ => ?_
      cases found <;> cases other <;> exact .held trivial

private theorem extraGroup_endAlike (h : Whole files root) (entry : Json) :
    EndAlike (extraGroup files root entry).outcome (extraGroup noFiles root entry).outcome := by
  rw [extraGroup, extraGroup, Traced.outcome_bind, Traced.outcome_bind]
  refine Agree.bind_same _ fun token => ?_
  apply number_endAlike
  rw [Traced.outcome_bind, Traced.outcome_bind]
  refine (lookupGroup_endAlike h token).bind fun found other _ => ?_
  cases found <;> cases other <;> exact .held trivial

private theorem identity_endAlike (h : Whole files root) (s : Snapshot) :
    EndAlike (identity files root s).outcome (identity noFiles root s).outcome := by
  simp only [identity, Traced.outcome_bind]
  refine Agree.bind_same _ fun configured => ?_
  refine (userIds_endAlike h _).bind fun ids other _ => ?_
  refine (groupId_endAlike h _ _ _).bind fun gid another _ => ?_
  exact (Traced.forEach_agree fun entry _ => extraGroup_endAlike h entry).bind
    fun _ _ _ => .held trivial

private theorem config_endAlike {s : Snapshot} {info : DaemonInfo} {rootfs : Json}
    (h : Whole files (s.rootfs.orElse rootfs)) :
    EndAlike (config files s info rootfs).outcome (config noFiles s info rootfs).outcome := by
  rw [config, config]
  by_cases hroot : (rootfs.orElse s.rootfs).isVoid
  · rw [if_pos hroot, if_pos hroot]
    exact EndAlike.refl _
  · rw [if_neg hroot, if_neg hroot]
    simp only [Traced.outcome_bind]
    refine (identity_endAlike h s).bind fun user other _ => ?_
    refine Agree.bind_same _ fun env => ?_
    refine Agree.bind_same _ fun platform => ?_
    refine Agree.bind_same _ fun list => ?_
    refine Agree.bind_same _ fun shortId => ?_
    exact .held trivial

end Conversion

open Account

/-- Tables that are not garbled have no part in whether a container is converted. -/
private theorem generate_endAlike {view : HostView} {s : Snapshot} {rootfs : Json}
    (h : Whole view.files (s.rootfs.orElse rootfs)) (info : DaemonInfo) (hooks : HookSource)
    (peers : Json) : EndAlike (generate view s info hooks rootfs peers).outcome
      (generate { view with files := noFiles } s info hooks rootfs peers).outcome := by
  simp only [generate, Traced.outcome_bind]
  refine Agree.bind_same _ fun hooks => ?_
  refine Agree.bind_same _ fun granted => ?_
  refine (Conversion.config_endAlike h).bind fun config other _ => ?_
  exact Agree.bind_same _ fun runtime => .held trivial

namespace Account

/-- A file is read and a name is looked up as the bytes have it, and a lookup is refused for a
garbled file only; without one the files cannot stop a conversion. -/
theorem lookups_end (files : Files) (path name : String) :
    Ends files path some (readText files path) ∧
    (∀ root : String, root ≠ "" →
      Ends files (tableFile root "passwd")
        (fun text => (find? 4 name (records text)).bind userIds?)
        (lookupUser files (.str root) name) ∧
      Ends files (tableFile root "group")
        (fun text => (find? 3 name (records text)).bind (number? · 2))
        (lookupGroup files (.str root) name)) ∧
    (∀ root : Json, root.isVoid → lookupUser files root name = .ok none ∧
      lookupGroup files root name = .ok none) ∧
    ∀ stat s info hooks rootfs peers, Whole files (s.rootfs.orElse rootfs) →
      EndAlike (generate ⟨stat, files⟩ s info hooks rootfs peers).outcome
        (generate ⟨stat, noFiles⟩ s info hooks rootfs peers).outcome := by
  refine ⟨ends_of_readText ?_, fun root hroot => ⟨ends_of_readText ?_, ends_of_readText ?_⟩,
    fun root hroot => lookups_of_rootless hroot name, ?_⟩
  · cases readText files path with
    | error fault => rfl
    | ok found => cases found <;> rfl
  · exact readTable_bind hroot rfl
  · exact readTable_bind hroot rfl
  · intro stat s info hooks rootfs peers hwhole
    exact @generate_endAlike ⟨stat, files⟩ s rootfs hwhole info hooks peers

theorem lookups_end_in_both_ways :
    let files : Files := fun path =>
      if path = "/r/etc/passwd" then some (Text.utf8 "bob:x:many:100:\nann:x:7:8:\n".toList)
      else if path = "/r/etc/group" then some [0xFF] else none
    lookupUser files (.str "/r") "bob" = .ok none ∧
    lookupUser files (.str "/r") "ann" = .ok (some (7, 8)) ∧
    ∃ cause, lookupGroup files (.str "/r") "ann" = .error (.undecodable cause) := by
  intro files
  have hfile : tableFile "/r" "passwd" = "/r/etc/passwd" ∧
      tableFile "/r" "group" = "/r/etc/group" := by decide +kernel
  have hpasswd : files (tableFile "/r" "passwd") =
      some (Text.utf8 "bob:x:many:100:\nann:x:7:8:\n".toList) := by
    rw [hfile.1]
    exact if_pos rfl
  have hgroup : Garbled files (tableFile "/r" "group") := by
    rw [hfile.2]
    refine ⟨[0xFF], (if_neg (by decide)).trans (if_pos rfl), fun text htext => ?_⟩
    have hread := Text.decodeUtf8_eq_ok_iff.mpr htext
    cases hread
  have hbob : (find? 4 "bob" (records (unified "bob:x:many:100:\nann:x:7:8:\n"))).bind userIds? =
      none := by decide +kernel
  have hann : (find? 4 "ann" (records (unified "bob:x:many:100:\nann:x:7:8:\n"))).bind userIds? =
      some (7, 8) := by decide +kernel
  obtain ⟨-, hfirst, -, -⟩ := lookups_end files "" "bob"
  obtain ⟨-, hsecond, -, -⟩ := lookups_end files "" "ann"
  refine ⟨?_, ?_, ?_⟩
  · rw [(hfirst "/r" (by decide)).1.text _ hpasswd, hbob]
  · rw [(hsecond "/r" (by decide)).1.text _ hpasswd, hann]
  · obtain ⟨fault, hfault⟩ := (hsecond "/r" (by decide)).2.garbled.mpr hgroup
    obtain ⟨cause, rfl⟩ := (hsecond "/r" (by decide)).2.fault fault hfault
    exact ⟨cause, hfault⟩

/-- The table of users holds a byte of no text, so a container whose user is a name is refused. -/
theorem refused_for_garbled_users :
    let files : Files := fun path => if path = "/r/etc/passwd" then some [0xFF] else none
    let s : Snapshot := { id := .str "web", user := .str "bob", rootfs := .str "/r" }
    (∃ cause, readText files "/r/etc/passwd" = .error (.undecodable cause)) ∧
    (∃ cause, lookupUser files (.str "/r") "bob" = .error (.undecodable cause)) ∧
    ∃ cause, (Conversion.config files s {} .null).outcome = .error (.undecodable cause) := by
  refine ⟨⟨⟨0, [0xFF], .invalidStart⟩, by cbv⟩, ⟨⟨0, [0xFF], .invalidStart⟩, by cbv⟩,
    ⟨0, [0xFF], .invalidStart⟩, by cbv⟩

end Account

end ContainerBundle
