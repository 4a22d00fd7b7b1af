import ContainerBundle.Descriptor.Config
/-!
# How deep values nest

A list or an object is one deeper than the deepest value in it, wherever that value stands. The
unset members of a record are not written and count for nothing.
-/
namespace ContainerBundle.Json

variable {leaf n : Nat} {items : List Json} {members others : List (String × Json)}

private theorem depthOfItems_le_iff :
    depthOfItems leaf items ≤ n ↔ ∀ v ∈ items, v.depth leaf ≤ n := by
  induction items with
  | nil => simp [depthOfItems]
  | cons v rest ih => rw [depthOfItems, Nat.max_le, ih, List.forall_mem_cons]

private theorem depthOfMembers_le_iff :
    depthOfMembers leaf members ≤ n ↔ ∀ m ∈ members, m.2.depth leaf ≤ n := by
  induction members with
  | nil => simp [depthOfMembers]
  | cons m rest ih => rw [depthOfMembers, Nat.max_le, ih, List.forall_mem_cons]

theorem depthOfMembers_perm (h : members.Perm others) :
    depthOfMembers leaf members = depthOfMembers leaf others := by
  apply Nat.le_antisymm
  · rw [depthOfMembers_le_iff]
    intro m hm
    exact depthOfMembers_le_iff.mp (Nat.le_refl _) m (h.mem_iff.mp hm)
  · rw [depthOfMembers_le_iff]
    intro m hm
    exact depthOfMembers_le_iff.mp (Nat.le_refl _) m (h.mem_iff.mpr hm)

theorem levels_texts_le (texts : List String) : (arr (texts.map str)).levels ≤ 2 := by
  have hitems : depthOfItems 1 (texts.map str) ≤ 1 := by
    rw [depthOfItems_le_iff, List.forall_mem_map]
    intro text _
    exact Nat.le_refl 1
  exact Nat.succ_le_succ hitems

/-- The levels that a member adds to its record: none when it is unset. -/
def written (v : Json) : Nat := if v.isNull then 0 else v.levels

def writtenOf : List (String × Json) → Nat
  | [] => 0
  | m :: rest => max m.2.written (writtenOf rest)

@[simp] theorem levels_record (members : List (String × Json)) :
    (Descriptor.record members).levels = writtenOf members + 1 := by
  rw [Descriptor.record, levels, depth]
  congr 1
  induction members with
  | nil => rfl
  | cons m rest ih =>
    rw [writtenOf, written]
    cases hnull : m.2.isNull with
    | true => rw [List.filter_cons_of_neg (by simp [hnull]), ih, if_pos rfl, Nat.zero_max]
    | false =>
      rw [List.filter_cons_of_pos (by simp [hnull]), depthOfMembers, ih]
      rfl

@[simp] theorem written_record (members : List (String × Json)) :
    (Descriptor.record members).written = writtenOf members + 1 := levels_record members

@[simp] theorem written_arr (items : List Json) : (arr items).written = (arr items).levels := rfl

theorem writtenOf_le_iff : writtenOf members ≤ n ↔ ∀ m ∈ members, m.2.written ≤ n := by
  induction members with
  | nil => simp [writtenOf]
  | cons m rest ih => rw [writtenOf, Nat.max_le, ih, List.forall_mem_cons]

theorem exists_document {v w : Json} {limit : Nat} {text : String} (h : w.levels ≤ v.levels)
    (hv : v.document limit = .ok text) : ∃ text', w.document limit = .ok text' :=
  ⟨w.render, document_eq_ok_iff.mpr ⟨Nat.le_trans h (document_eq_ok_iff.mp hv).1, rfl⟩⟩

end ContainerBundle.Json
