import Mathlib.Data.List.Induction
/-!
# First occurrences

A row without its repetitions keeps each item where it first occurs. Built up from the end, it
takes in an item that is new and leaves out one that is not, so that it may be taken of the parts
of a row before it is taken of the whole.
-/
namespace ContainerBundle

variable {α : Type} [BEq α] [LawfulBEq α] {a : α} {l m : List α}

theorem eraseDups_concat (l : List α) (a : α) :
    (l ++ [a]).eraseDups = if a ∈ l then l.eraseDups else l.eraseDups ++ [a] := by
  rw [List.eraseDups_append]
  by_cases ha : a ∈ l <;> simp [List.removeAll, List.eraseDups_cons, ha]

theorem nodup_eraseDups (l : List α) : l.eraseDups.Nodup := by
  induction l using List.reverseRecOn with
  | nil => simp
  | append_singleton l a ih =>
    rw [eraseDups_concat]
    by_cases ha : a ∈ l
    · rw [if_pos ha]
      exact ih
    · rw [if_neg ha]
      have hapart : ∀ b ∈ l.eraseDups, ∀ c ∈ [a], b ≠ c := by
        intro b hb c hc hbc
        rw [hbc, List.mem_singleton.mp hc, List.mem_eraseDups] at hb
        exact ha hb
      exact List.nodup_append.mpr ⟨ih, List.pairwise_singleton _ a, hapart⟩

theorem eraseDups_of_nodup (h : l.Nodup) : l.eraseDups = l := by
  induction l using List.reverseRecOn with
  | nil => simp
  | append_singleton l a ih =>
    obtain ⟨hl, -, hapart⟩ := List.nodup_append.mp h
    have ha : a ∉ l := fun hmem => hapart a hmem a (List.mem_singleton_self a) rfl
    rw [eraseDups_concat, if_neg ha, ih hl]

theorem eraseDups_append_eraseDups (l m : List α) :
    (l.eraseDups ++ m.eraseDups).eraseDups = (l ++ m).eraseDups := by
  induction m using List.reverseRecOn with
  | nil => simp [eraseDups_of_nodup (nodup_eraseDups l)]
  | append_singleton m a ih =>
    rw [eraseDups_concat, ← List.append_assoc, eraseDups_concat]
    by_cases ha : a ∈ m
    · have hwhole : a ∈ l ++ m := List.mem_append_right l ha
      rw [if_pos ha, if_pos hwhole, ih]
    · rw [if_neg ha, ← List.append_assoc, eraseDups_concat, ih]
      simp only [List.mem_append, List.mem_eraseDups]

end ContainerBundle
