import ContainerBundle.Capability
import Mathlib.Data.List.Nodup
import Mathlib.Data.List.TakeWhile
/-!
# Spellings of a capability

A name is stored as it stands or in the kernel's spelling, and the stored name has the key under
which it was added. So every operation of a set can be told by keys, and a set keeps one name for
each key, none of them blank and the known ones in the kernel's spelling.
-/
namespace ContainerBundle

namespace Capability

/-- The name spells the capability with this key; a blank name spells none. -/
def Spells (name k : String) : Prop := ¬ isBlank name ∧ key name = k

instance (name k : String) : Decidable (Spells name k) :=
  inferInstanceAs (Decidable (_ ∧ _))

theorem key_of_known {name : String} (h : name ∈ known) : key name = name := by
  have hknown : ∀ name ∈ known, key name = name := by decide +kernel
  exact hknown name h

theorem not_isBlank_of_known {name : String} (h : name ∈ known) : ¬ isBlank name := by
  have hknown : ∀ name ∈ known, ¬ isBlank name := by decide +kernel
  exact hknown name h

theorem normalize_of_known {name : String} (h : key name ∈ known) : normalize name = key name := by
  rw [normalize, if_pos (List.contains_iff_mem.mpr h)]

private theorem normalize_of_unknown {name : String} (h : key name ∉ known) :
    normalize name = name := by
  rw [normalize, if_neg (fun hin => h (List.contains_iff_mem.mp hin))]

theorem normalize_eq : normalize = fun name => if key name ∈ known then key name else name := by
  funext name
  split
  · exact normalize_of_known ‹_›
  · exact normalize_of_unknown ‹_›

@[simp] theorem key_normalize (name : String) : key (normalize name) = key name := by
  by_cases h : key name ∈ known
  · rw [normalize_of_known h, key_of_known h]
  · rw [normalize_of_unknown h]

private theorem not_isBlank_normalize {name : String} (h : ¬ isBlank name) :
    ¬ isBlank (normalize name) := by
  by_cases hknown : key name ∈ known
  · rw [normalize_of_known hknown]
    exact not_isBlank_of_known hknown
  · rw [normalize_of_unknown hknown]
    exact h

end Capability

namespace CapabilitySet

open Capability

variable {s : CapabilitySet} {name k : String}

theorem contains_iff : s.contains name ↔ ¬ isBlank name ∧ key name ∈ s.keys := by
  simp [contains]

theorem add_of_blank (h : isBlank name) : s.add name = s := by
  rw [add, if_pos (by simp [h])]

theorem add_of_present (h : key name ∈ s.keys) : s.add name = s := by
  rw [add, if_pos (by simp [h])]

theorem names_add (hblank : ¬ isBlank name) (habsent : key name ∉ s.keys) :
    (s.add name).names = s.names ++ [normalize name] := by
  rw [add, if_neg (by simp [hblank, habsent])]

theorem keys_add (hblank : ¬ isBlank name) (habsent : key name ∉ s.keys) :
    (s.add name).keys = s.keys ++ [key name] := by
  rw [keys, names_add hblank habsent, List.map_append, List.map_singleton, key_normalize]
  rfl

theorem mem_keys_add : k ∈ (s.add name).keys ↔ k ∈ s.keys ∨ Spells name k := by
  by_cases hblank : isBlank name
  · have hnone : ¬ Spells name k := fun h => h.1 hblank
    rw [add_of_blank hblank, or_iff_left hnone]
  · by_cases hpresent : key name ∈ s.keys
    · rw [add_of_present hpresent, or_iff_left_of_imp]
      intro hspells
      exact hspells.2 ▸ hpresent
    · rw [keys_add hblank hpresent, List.mem_append, List.mem_singleton, Spells, eq_comm]
      simp [hblank]

theorem names_remove : (s.remove name).names = s.names.filter (fun n => ¬ Spells name (key n)) := by
  by_cases hblank : isBlank name
  · rw [remove, if_pos hblank, eq_comm, List.filter_eq_self]
    intro n _
    exact decide_eq_true fun hspells => hspells.1 hblank
  · rw [remove, if_neg hblank]
    apply List.filter_congr
    intro n _
    have hspells : Spells name (key n) ↔ key n = key name := by simp [Spells, hblank, eq_comm]
    rw [Bool.eq_iff_iff]
    simp [hspells]

theorem keys_remove : (s.remove name).keys = s.keys.filter (fun k => ¬ Spells name k) := by
  rw [keys, names_remove, keys, List.filter_map]
  rfl

theorem mem_keys_remove : k ∈ (s.remove name).keys ↔ k ∈ s.keys ∧ ¬ Spells name k := by
  simp [keys_remove]

/-- One name for each key, no blank name, and the kernel's spelling wherever it has one. -/
structure Orderly (s : CapabilitySet) : Prop where
  distinct : s.keys.Nodup
  notBlank : ∀ name ∈ s.names, ¬ isBlank name
  spelled : ∀ name ∈ s.names, key name ∈ known → name = key name

namespace Orderly

theorem empty : Orderly .empty where
  distinct := List.nodup_nil
  notBlank := by simp [CapabilitySet.empty]
  spelled := by simp [CapabilitySet.empty]

theorem names_nodup (h : s.Orderly) : s.names.Nodup := h.distinct.of_map key

theorem add (h : s.Orderly) (name : String) : (s.add name).Orderly := by
  by_cases hblank : isBlank name
  · rw [add_of_blank hblank]
    exact h
  · by_cases hpresent : key name ∈ s.keys
    · rw [add_of_present hpresent]
      exact h
    · have hnames := names_add hblank hpresent
      constructor
      · rw [keys_add hblank hpresent]
        exact h.distinct.append (List.nodup_singleton _) (by simpa using hpresent)
      · rw [hnames]
        intro n hn
        rcases List.mem_append.mp hn with hold | hnew
        · exact h.notBlank n hold
        · rw [List.mem_singleton.mp hnew]
          exact not_isBlank_normalize hblank
      · rw [hnames]
        intro n hn hknown
        rcases List.mem_append.mp hn with hold | hnew
        · exact h.spelled n hold hknown
        · rw [List.mem_singleton.mp hnew] at hknown ⊢
          rw [key_normalize] at hknown ⊢
          exact normalize_of_known hknown

theorem remove (h : s.Orderly) (name : String) : (s.remove name).Orderly := by
  have hkept : ∀ n ∈ (s.remove name).names, n ∈ s.names := by
    intro n hn
    rw [names_remove] at hn
    exact List.mem_of_mem_filter hn
  constructor
  · rw [keys_remove]
    exact h.distinct.filter _
  · intro n hn
    exact h.notBlank n (hkept n hn)
  · intro n hn
    exact h.spelled n (hkept n hn)

theorem addAll (h : s.Orderly) (names : List String) : (s.addAll names).Orderly := by
  induction names generalizing s with
  | nil => exact h
  | cons name rest ih => exact ih (h.add name)

end Orderly

end CapabilitySet

end ContainerBundle
