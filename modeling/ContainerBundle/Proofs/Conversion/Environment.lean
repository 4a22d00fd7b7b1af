import Mathlib.Data.List.Basic
import ContainerBundle.Conversion.Environment
import ContainerBundle.Proofs.FirstOccurrences
import ContainerBundle.Proofs.Json.Typed
import ContainerBundle.Proofs.Text.Splitting
/-!
# The merged environment

Of the entries with one key the last stands, in the place where the key first occurs. The keys in
their order and the last entry of each say all there is to say about a merged environment, so that
merging it again changes nothing, and an environment may be merged in pieces.
-/
namespace ContainerBundle.Conversion

variable {entries more : List String} {key entry : String} {table : List (String × String)}

/-- The text before the first equals sign of an entry, or all of an entry that has none. -/
def IsKey (entry key : String) : Prop :=
  '=' ∉ key.toList ∧ (entry = key ∨ ∃ value, entry = key ++ "=" ++ value)

theorem envKey_eq_iff : envKey entry = key ↔ IsKey entry key := by
  have hvalue : (∃ back, entry.toList = key.toList ++ '=' :: back) ↔
      ∃ value, entry = key ++ "=" ++ value := by
    constructor
    · rintro ⟨back, hback⟩
      refine ⟨String.ofList back, String.toList_injective ?_⟩
      simpa using hback
    · rintro ⟨value, rfl⟩
      exact ⟨value.toList, by simp⟩
  have hlist : envKey entry = key ↔ Text.before '=' entry.toList = key.toList := by
    rw [envKey, ← String.toList_inj, String.toList_ofList]
  rw [hlist, Text.before_eq_iff, hvalue, String.toList_inj, IsKey]

/-- The keys of the entries, each where it first occurs. -/
def envKeys (entries : List String) : List String := (entries.map envKey).eraseDups

def lastWith (entries : List String) (key : String) : Option String :=
  (entries.filter fun entry => envKey entry == key).getLast?

private theorem nodup_envKeys (entries : List String) : (envKeys entries).Nodup := nodup_eraseDups _

private theorem envKeys_concat (entries : List String) (entry : String) :
    envKeys (entries ++ [entry]) =
      if envKey entry ∈ envKeys entries then envKeys entries
      else envKeys entries ++ [envKey entry] := by
  simp only [envKeys, List.map_append, List.map_cons, List.map_nil, eraseDups_concat,
    List.mem_eraseDups]

theorem lastWith_append (entries more : List String) (key : String) :
    lastWith (entries ++ more) key = (lastWith more key).or (lastWith entries key) := by
  rw [lastWith, List.filter_append, List.getLast?_append]
  rfl

theorem lastWith_concat (entries : List String) (entry key : String) :
    lastWith (entries ++ [entry]) key =
      if envKey entry = key then some entry else lastWith entries key := by
  rw [lastWith_append]
  by_cases h : envKey entry = key <;> simp [lastWith, h]

theorem mem_of_lastWith (h : lastWith entries key = some entry) :
    entry ∈ entries ∧ envKey entry = key := by
  simpa using List.mem_of_getLast? h

theorem lastWith_eq_none_iff : lastWith entries key = none ↔ key ∉ entries.map envKey := by
  simp [lastWith]

private theorem lastWith_of_mem (hnodup : (entries.map envKey).Nodup) (h : entry ∈ entries) :
    lastWith entries (envKey entry) = some entry := by
  obtain ⟨front, back, rfl⟩ := List.append_of_mem h
  rw [List.map_append, List.map_cons] at hnodup
  have hback : envKey entry ∉ back.map envKey :=
    (List.nodup_cons.mp (List.nodup_append.mp hnodup).2.1).1
  rw [← List.singleton_append, ← List.append_assoc, lastWith_append,
    lastWith_eq_none_iff.mpr hback, lastWith_concat, if_pos rfl]
  rfl

/-- A table of the keys in their order, each with the last of its entries. -/
structure Tabulates (entries : List String) (table : List (String × String)) : Prop where
  keys : table.map (·.1) = envKeys entries
  last : ∀ row ∈ table, lastWith entries row.1 = some row.2

private theorem keys_putEntry (key entry : String) (table : List (String × String)) :
    (putEntry key entry table).map (·.1) =
      if key ∈ table.map (·.1) then table.map (·.1) else table.map (·.1) ++ [key] := by
  induction table with
  | nil => rfl
  | cons row rest ih =>
    by_cases hrow : row.1 = key
    · simp [putEntry, hrow]
    · have hne : key ≠ row.1 := fun h => hrow h.symm
      simp only [putEntry, beq_iff_eq, if_neg hrow, List.map_cons, ih, List.mem_cons, hne,
        false_or]
      split <;> rfl

private theorem mem_putEntry {row : String × String} (hnodup : (table.map (·.1)).Nodup)
    (h : row ∈ putEntry key entry table) : row = (key, entry) ∨ row ∈ table ∧ row.1 ≠ key := by
  induction table with
  | nil => exact .inl (List.mem_singleton.mp h)
  | cons first rest ih =>
    obtain ⟨hfirst, hrest⟩ := List.nodup_cons.mp hnodup
    rw [putEntry] at h
    by_cases hkey : first.1 = key
    · rw [if_pos (beq_iff_eq.mpr hkey)] at h
      rcases List.mem_cons.mp h with rfl | hmem
      · exact .inl rfl
      · have hne : row.1 ≠ key := by
          intro hrow
          have hrepeated : row.1 ∈ rest.map (·.1) := List.mem_map_of_mem hmem
          rw [hrow, ← hkey] at hrepeated
          exact hfirst hrepeated
        exact .inr ⟨List.mem_cons_of_mem first hmem, hne⟩
    · rw [if_neg (by simpa using hkey)] at h
      rcases List.mem_cons.mp h with rfl | hmem
      · exact .inr ⟨List.mem_cons_self, hkey⟩
      · rcases ih hrest hmem with hnew | ⟨hold, hne⟩
        · exact .inl hnew
        · exact .inr ⟨List.mem_cons_of_mem first hold, hne⟩

theorem Tabulates.put (h : Tabulates entries table) (entry : String) :
    Tabulates (entries ++ [entry]) (putEntry (envKey entry) entry table) := by
  constructor
  · rw [keys_putEntry, h.keys, envKeys_concat]
  · intro row hrow
    have hnodup : (table.map (·.1)).Nodup := by
      rw [h.keys]
      exact nodup_envKeys entries
    rw [lastWith_concat]
    rcases mem_putEntry hnodup hrow with rfl | ⟨hold, hne⟩
    · rw [if_pos rfl]
    · rw [if_neg hne.symm]
      exact h.last row hold

private theorem exists_table (entries : List String) :
    ∃ table, Tabulates entries table ∧ mergeEnv entries = table.map (·.2) := by
  refine ⟨_, ?_, rfl⟩
  -- From the end of the list, as the fold puts the entries into the table.
  induction entries using List.reverseRecOn with
  | nil => exact ⟨rfl, by simp⟩
  | append_singleton entries entry ih =>
    rw [List.foldl_append, List.foldl_cons, List.foldl_nil]
    exact ih.put entry

theorem mergeEnv_last (entries : List String) :
    (mergeEnv entries).map some = (envKeys entries).map (lastWith entries) := by
  obtain ⟨table, htable, hmerged⟩ := exists_table entries
  rw [hmerged, ← htable.keys, List.map_map, List.map_map]
  apply List.map_congr_left
  intro row hrow
  exact (htable.last row hrow).symm

/-- The keys and their last entries determine what is merged. -/
theorem mergeEnv_congr (hkeys : envKeys entries = envKeys more)
    (hlast : ∀ key, lastWith entries key = lastWith more key) :
    mergeEnv entries = mergeEnv more := by
  apply List.map_injective_iff.mpr fun _ _ => Option.some.inj
  rw [mergeEnv_last, mergeEnv_last, hkeys, funext hlast]

theorem map_envKey_mergeEnv (entries : List String) :
    (mergeEnv entries).map envKey = envKeys entries := by
  obtain ⟨table, htable, hmerged⟩ := exists_table entries
  rw [hmerged, ← htable.keys, List.map_map]
  apply List.map_congr_left
  intro row hrow
  exact (mem_of_lastWith (htable.last row hrow)).2

private theorem envKeys_mergeEnv (entries : List String) :
    envKeys (mergeEnv entries) = envKeys entries := by
  rw [envKeys, map_envKey_mergeEnv, eraseDups_of_nodup (nodup_envKeys entries)]

private theorem lastWith_mergeEnv (entries : List String) (key : String) :
    lastWith (mergeEnv entries) key = lastWith entries key := by
  cases hlast : lastWith entries key with
  | none =>
    rw [lastWith_eq_none_iff, map_envKey_mergeEnv, envKeys, List.mem_eraseDups]
    exact lastWith_eq_none_iff.mp hlast
  | some entry =>
    obtain ⟨hmem, rfl⟩ := mem_of_lastWith hlast
    have hkey : envKey entry ∈ envKeys entries :=
      List.mem_eraseDups.mpr (List.mem_map_of_mem hmem)
    have hmerged : some entry ∈ (mergeEnv entries).map some := by
      rw [mergeEnv_last, ← hlast]
      exact List.mem_map_of_mem hkey
    apply lastWith_of_mem
    · rw [map_envKey_mergeEnv]
      exact nodup_envKeys entries
    · simpa using hmerged

theorem environment_texts (entries : List String) :
    environment (entries.map .str) = .ok (mergeEnv entries) := by
  rw [environment, Json.mapM_text]
  rfl

/-- One entry for each key, where the key first occurs, and it is the last entry with that key as it
stands. Merging again changes nothing, and the entries may be merged in two pieces first. -/
theorem environment_by_keys (entries more : List String) :
    (∀ entry key, envKey entry = key ↔ IsKey entry key) ∧
    environment (entries.map .str) = .ok (mergeEnv entries) ∧
    (mergeEnv entries).map some = (entries.map envKey).eraseDups.map (lastWith entries) ∧
    mergeEnv (mergeEnv entries) = mergeEnv entries ∧
    mergeEnv (entries ++ more) = mergeEnv (mergeEnv entries ++ mergeEnv more) := by
  refine ⟨fun _ _ => envKey_eq_iff, environment_texts entries, mergeEnv_last entries, ?_, ?_⟩
  · apply mergeEnv_congr
    · exact envKeys_mergeEnv entries
    · exact lastWith_mergeEnv entries
  · apply mergeEnv_congr
    · rw [envKeys, envKeys, List.map_append, List.map_append, map_envKey_mergeEnv,
        map_envKey_mergeEnv, envKeys, envKeys, eraseDups_append_eraseDups]
    · intro key
      rw [lastWith_append, lastWith_append, lastWith_mergeEnv, lastWith_mergeEnv]

example : mergeEnv ["A=1", "B", "=x", "A=2=3", "B"] = ["A=2=3", "B", "=x"] := by decide

end ContainerBundle.Conversion
