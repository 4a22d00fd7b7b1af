import Mathlib.Data.List.Basic
import ContainerBundle.Proofs.Conversion.Environment
/-!
# Bare entries of an environment

A bare entry names a variable and assigns nothing to it. It has the key of the assignments to its
variable, so that it takes the place of one that stands before it, and gives way to one that stands
behind it. An environment keeps its bare entries and its assignments exactly when it does not name
a variable in both ways.
-/
namespace ContainerBundle.Conversion

variable {entries : List String} {name value entry key : String}

def IsBare (entry : String) : Prop := '=' ∉ entry.toList

def assignment (name value : String) : String := name ++ "=" ++ value

def assignments (entries : List String) : List String :=
  entries.filter fun entry => entry.toList.contains '='

private theorem isBare_assignment : ¬ IsBare (assignment name value) := by
  simp [IsBare, assignment]

theorem mem_assignments_iff : entry ∈ assignments entries ↔ entry ∈ entries ∧ ¬ IsBare entry := by
  simp [assignments, IsBare]

theorem envKey_of_bare (h : IsBare name) : envKey name = name := envKey_eq_iff.mpr ⟨h, .inl rfl⟩

theorem envKey_assignment (h : IsBare name) : envKey (assignment name value) = name :=
  envKey_eq_iff.mpr ⟨h, .inr ⟨value, rfl⟩⟩

private theorem eq_or_assignment_of_envKey (h : envKey entry = name) :
    entry = name ∨ ∃ value, entry = assignment name value :=
  (envKey_eq_iff.mp h).2

private theorem exists_assignment (h : ¬ IsBare entry) :
    ∃ name value, IsBare name ∧ entry = assignment name value := by
  obtain ⟨hname, hentry | ⟨value, hentry⟩⟩ := envKey_eq_iff.mp (Eq.refl (envKey entry))
  · rw [← hentry] at hname
    exact absurd hname h
  · exact ⟨envKey entry, value, hname, hentry⟩

/-- An entry that no entry with its key follows. -/
def Last (entries : List String) (entry : String) : Prop :=
  ∃ front back, entries = front ++ entry :: back ∧ ∀ later ∈ back, envKey later ≠ envKey entry

private theorem Last.mem (h : Last entries entry) : entry ∈ entries := by
  obtain ⟨front, back, rfl, -⟩ := h
  simp

private theorem last_of_lastWith (h : lastWith entries key = some entry) :
    envKey entry = key ∧ Last entries entry := by
  induction entries using List.reverseRecOn with
  | nil => cases h
  | append_singleton entries later ih =>
    rw [lastWith_concat] at h
    by_cases hkey : envKey later = key
    · rw [if_pos hkey, Option.some.injEq] at h
      subst h
      exact ⟨hkey, entries, [], rfl, by simp⟩
    · rw [if_neg hkey] at h
      obtain ⟨rfl, front, back, rfl, hback⟩ := ih h
      refine ⟨rfl, front, back ++ [later], by simp, ?_⟩
      intro other hother
      rcases List.mem_append.mp hother with hother | hother
      · exact hback other hother
      · obtain rfl := List.mem_singleton.mp hother
        exact hkey

theorem Last.lastWith (h : Last entries entry) :
    lastWith entries (envKey entry) = some entry := by
  obtain ⟨front, back, rfl, hback⟩ := h
  have hnone : Conversion.lastWith back (envKey entry) = none := by
    rw [lastWith_eq_none_iff]
    simpa using hback
  rw [List.append_cons, lastWith_append, hnone, lastWith_concat, if_pos rfl]
  rfl

theorem mem_mergeEnv_iff : entry ∈ mergeEnv entries ↔ Last entries entry := by
  have hmerged : entry ∈ mergeEnv entries ↔
      ∃ key ∈ envKeys entries, lastWith entries key = some entry := by
    rw [← List.mem_map, ← mergeEnv_last, List.mem_map_of_injective fun _ _ => Option.some.inj]
  rw [hmerged]
  constructor
  · rintro ⟨key, -, hlast⟩
    exact (last_of_lastWith hlast).2
  · intro hlast
    refine ⟨envKey entry, List.mem_eraseDups.mpr ?_, hlast.lastWith⟩
    exact List.mem_map_of_mem (mem_of_lastWith hlast.lastWith).1

theorem Last.unique {other : String} (h : Last entries entry) (hother : Last entries other)
    (hkey : envKey other = envKey entry) : other = entry := by
  have hlast := hother.lastWith
  rw [hkey, h.lastWith] at hlast
  exact (Option.some.inj hlast).symm

private theorem exists_last_behind (front back : List String) (entry : String) :
    ∃ last ∈ entry :: back, Last (front ++ entry :: back) last ∧ envKey last = envKey entry := by
  cases hlast : lastWith (entry :: back) (envKey entry) with
  | none => simp [lastWith_eq_none_iff] at hlast
  | some last =>
    have hwhole : lastWith (front ++ entry :: back) (envKey entry) = some last := by
      rw [lastWith_append, hlast]
      rfl
    obtain ⟨hkey, hstands⟩ := last_of_lastWith hwhole
    exact ⟨last, (mem_of_lastWith hlast).1, hstands, hkey⟩

private theorem exists_last (h : entry ∈ entries) :
    ∃ last, Last entries last ∧ envKey last = envKey entry := by
  obtain ⟨front, back, rfl⟩ := List.append_of_mem h
  obtain ⟨last, -, hlast⟩ := exists_last_behind front back entry
  exact ⟨last, hlast⟩

/-- An assignment to a variable stands behind all bare entries of it. -/
def Reassigned (entries : List String) (name : String) : Prop :=
  ∃ front value back, entries = front ++ assignment name value :: back ∧ name ∉ back

/-- A bare entry of a variable stands behind all assignments to it. -/
def Unassigned (entries : List String) (name : String) : Prop :=
  ∃ front back, entries = front ++ name :: back ∧ ∀ value, assignment name value ∉ back

private theorem ne_assignment (hname : IsBare name) : name ≠ assignment name value := by
  intro h
  rw [h] at hname
  exact isBare_assignment hname

private theorem reassigned_iff (hname : IsBare name) :
    Reassigned entries name ↔ ∃ value, Last entries (assignment name value) := by
  constructor
  · rintro ⟨front, value, back, rfl, hback⟩
    -- The last entry with the key is not in front of the assignment, and nothing behind it is bare.
    obtain ⟨last, hmem, hlast, hkey⟩ := exists_last_behind front back (assignment name value)
    rw [envKey_assignment hname] at hkey
    rcases eq_or_assignment_of_envKey hkey with rfl | ⟨value, rfl⟩
    · rcases List.mem_cons.mp hmem with hsame | hlater
      · exact absurd hsame (ne_assignment hname)
      · exact absurd hlater hback
    · exact ⟨value, hlast⟩
  · rintro ⟨value, front, back, hentries, hback⟩
    refine ⟨front, value, back, hentries, fun hmem => hback name hmem ?_⟩
    rw [envKey_of_bare hname, envKey_assignment hname]

private theorem unassigned_iff (hname : IsBare name) :
    Unassigned entries name ↔ Last entries name := by
  constructor
  · rintro ⟨front, back, rfl, hback⟩
    obtain ⟨last, hmem, hlast, hkey⟩ := exists_last_behind front back name
    rw [envKey_of_bare hname] at hkey
    rcases eq_or_assignment_of_envKey hkey with rfl | ⟨value, rfl⟩
    · exact hlast
    · rcases List.mem_cons.mp hmem with hsame | hlater
      · exact absurd hsame.symm (ne_assignment hname)
      · exact absurd hlater (hback value)
  · rintro ⟨front, back, hentries, hback⟩
    refine ⟨front, back, hentries, fun value hmem => hback _ hmem ?_⟩
    rw [envKey_of_bare hname, envKey_assignment hname]

private theorem last_cases (h : entry ∈ entries) (hkey : envKey entry = name) :
    Last entries name ∨ ∃ value, Last entries (assignment name value) := by
  obtain ⟨last, hlast, hsame⟩ := exists_last h
  rcases eq_or_assignment_of_envKey (hsame.trans hkey) with rfl | ⟨value, rfl⟩
  · exact .inl hlast
  · exact .inr ⟨value, hlast⟩

private theorem not_last_both (hname : IsBare name) (hbare : Last entries name)
    (hassigned : Last entries (assignment name value)) : False := by
  have hkey : envKey name = envKey (assignment name value) := by
    rw [envKey_of_bare hname, envKey_assignment hname]
  exact ne_assignment hname (hassigned.unique hbare hkey)

theorem Last.assignments (h : Last entries (assignment name value)) :
    Last (assignments entries) (assignment name value) := by
  obtain ⟨front, back, rfl, hback⟩ := h
  refine ⟨Conversion.assignments front, Conversion.assignments back, ?_, ?_⟩
  · rw [Conversion.assignments, List.filter_append,
      List.filter_cons_of_pos (by simp [assignment])]
    rfl
  · exact fun later hlater => hback later (mem_assignments_iff.mp hlater).1

/-- A bare entry is lost exactly when its variable is assigned behind it. -/
theorem bare_kept_iff (hmem : name ∈ entries) (hname : IsBare name) :
    name ∈ mergeEnv entries ↔ ¬ Reassigned entries name := by
  rw [mem_mergeEnv_iff, reassigned_iff hname]
  constructor
  · rintro hbare ⟨value, hassigned⟩
    exact not_last_both hname hbare hassigned
  · intro hnone
    exact (last_cases hmem (envKey_of_bare hname)).resolve_right hnone

/-- An assignment that stands otherwise is lost exactly when its variable stands bare behind it. -/
theorem assignment_kept_iff (hname : IsBare name) : assignment name value ∈ mergeEnv entries ↔
    assignment name value ∈ mergeEnv (assignments entries) ∧ ¬ Unassigned entries name := by
  rw [mem_mergeEnv_iff, mem_mergeEnv_iff, unassigned_iff hname]
  constructor
  · intro hlast
    exact ⟨hlast.assignments, fun hbare => not_last_both hname hbare hlast⟩
  · rintro ⟨hlast, hbare⟩
    have hmem : assignment name value ∈ entries := (mem_assignments_iff.mp hlast.mem).1
    obtain ⟨other, hother⟩ := (last_cases hmem (envKey_assignment hname)).resolve_left hbare
    have hkey : envKey (assignment name other) = envKey (assignment name value) := by
      rw [envKey_assignment hname, envKey_assignment hname]
    rw [← hlast.unique hother.assignments hkey]
    exact hother

/-- A merged environment that has all bare entries, and the assignments that it has without them. -/
structure KeepsBare (entries merged : List String) : Prop where
  bare : ∀ entry ∈ entries, IsBare entry → entry ∈ merged
  assigned : ∀ entry, ¬ IsBare entry →
    (entry ∈ merged ↔ entry ∈ mergeEnv (assignments entries))

private theorem keepsBare_iff : KeepsBare entries (mergeEnv entries) ↔
    ∀ name ∈ entries, IsBare name → ∀ value, assignment name value ∉ entries := by
  constructor
  · intro hkeeps name hmem hname value hassigned
    have hbare : Last entries name := mem_mergeEnv_iff.mp (hkeeps.bare name hmem hname)
    have hstays : assignment name value ∈ assignments entries :=
      mem_assignments_iff.mpr ⟨hassigned, isBare_assignment⟩
    -- Some assignment to the variable stands last without the bare entries, and would stay beside
    -- the bare entry.
    rcases last_cases hstays (envKey_assignment hname) with hlast | ⟨other, hlast⟩
    · exact (mem_assignments_iff.mp hlast.mem).2 hname
    · have hmerged := (hkeeps.assigned _ isBare_assignment).mpr (mem_mergeEnv_iff.mpr hlast)
      exact not_last_both hname hbare (mem_mergeEnv_iff.mp hmerged)
  · intro hapart
    constructor
    case bare =>
      intro name hmem hname
      rw [bare_kept_iff hmem hname]
      rintro ⟨front, value, back, rfl, -⟩
      exact hapart name hmem hname value (by simp)
    case assigned =>
      intro entry hentry
      obtain ⟨name, value, hname, rfl⟩ := exists_assignment hentry
      rw [assignment_kept_iff hname, and_iff_left_iff_imp]
      rintro hmerged ⟨front, back, rfl, -⟩
      have hlast := (mem_mergeEnv_iff.mp hmerged).mem
      exact hapart name (by simp) hname value (mem_assignments_iff.mp hlast).1

/-- A bare entry is lost exactly when an assignment to its variable stands behind it, and the other
way round. All are kept exactly when no variable is named in both ways. -/
theorem environment_keeps_bare_iff (entries : List String) :
    environment (entries.map .str) = .ok (mergeEnv entries) ∧
    (∀ name ∈ entries, IsBare name →
      (name ∈ mergeEnv entries ↔ ¬ Reassigned entries name)) ∧
    (∀ name value, IsBare name → (assignment name value ∈ mergeEnv entries ↔
      assignment name value ∈ mergeEnv (assignments entries) ∧ ¬ Unassigned entries name)) ∧
    (KeepsBare entries (mergeEnv entries) ↔
      ∀ name ∈ entries, IsBare name → ∀ value, assignment name value ∉ entries) := by
  refine ⟨environment_texts entries, ?_, ?_, keepsBare_iff⟩
  · exact fun name hmem hname => bare_kept_iff hmem hname
  · exact fun name value hname => assignment_kept_iff hname

/-- A bare entry is lost to the assignment behind it, and the other way round. -/
theorem environment_of_name_in_both_ways :
    IsBare "A" ∧ environment (["A", "A=1"].map .str) = .ok ["A=1"] ∧
    environment (["A=1", "A"].map .str) = .ok ["A"] ∧
    environment ((assignments ["A=1", "A"]).map .str) = .ok ["A=1"] := by
  have hbare : mergeEnv ["A", "A=1"] = ["A=1"] := by decide
  have hassigned : mergeEnv ["A=1", "A"] = ["A"] := by decide
  have hstays : mergeEnv (assignments ["A=1", "A"]) = ["A=1"] := by decide
  rw [environment_texts, environment_texts, environment_texts, hbare, hassigned, hstays]
  exact ⟨by simp [IsBare], rfl, rfl, rfl⟩

end ContainerBundle.Conversion
