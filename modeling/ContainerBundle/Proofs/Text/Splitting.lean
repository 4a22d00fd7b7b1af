import Mathlib.Data.List.TakeWhile
import ContainerBundle.Text.Fields
/-!
# Texts put together from fields

The fields of a text between the separators `c` are the one row of fields free of `c` that the
text puts together, so that reading them undoes putting them together. A text with no blanks at
its ends stays as it is when it is trimmed.
-/
namespace ContainerBundle.Text

variable {c : Char} {s : List Char}

theorem fields_eq_splitOn (c : Char) (s : List Char) : fields (· == c) s = s.splitOn c := by
  induction s with
  | nil => rfl
  | cons d rest ih =>
    rw [List.splitOn_cons_eq_if_modifyHead, ← ih, fields]
    by_cases hd : d == c
    · rw [if_pos hd, if_pos hd]
    · rw [if_neg hd, if_neg hd]
      cases hfields : fields (· == c) rest with
      | nil => exact absurd hfields (fields_ne_nil _ rest)
      | cons field others => rfl

private theorem not_mem_of_mem_fields {field : List Char} (h : field ∈ fields (· == c) s) :
    c ∉ field := by
  induction s generalizing field with
  | nil => simp_all [fields]
  | cons d rest ih =>
    rw [fields] at h
    by_cases hd : d == c
    · rw [if_pos hd] at h
      rcases List.mem_cons.mp h with rfl | h
      · exact List.not_mem_nil
      · exact ih h
    · rw [if_neg hd] at h
      cases hfields : fields (· == c) rest with
      | nil => exact absurd hfields (fields_ne_nil _ rest)
      | cons first others =>
        rw [hfields] at h ih
        rcases List.mem_cons.mp h with rfl | h
        · have hne : c ≠ d := fun he => hd (beq_iff_eq.mpr he.symm)
          have hfirst : c ∉ first := ih List.mem_cons_self
          simp [hne, hfirst]
        · exact ih (List.mem_cons_of_mem _ h)

/-- Reading fields undoes putting them together, and the other way round. -/
theorem fields_eq_iff {row : List (List Char)} : fields (· == c) s = row ↔
    row ≠ [] ∧ (∀ field ∈ row, c ∉ field) ∧ s = [c].intercalate row := by
  constructor
  · intro h
    subst h
    refine ⟨fields_ne_nil _ s, fun field => not_mem_of_mem_fields, ?_⟩
    rw [fields_eq_splitOn, List.intercalate_splitOn]
  · intro h
    obtain ⟨hne, hfree, rfl⟩ := h
    rw [fields_eq_splitOn, List.splitOn_intercalate c hfree hne]

private theorem bne_of_not_mem (h : c ∉ s) : ∀ d ∈ s, (d != c) = true := by
  intro d hd
  rw [bne_iff_ne]
  rintro rfl
  exact h hd

private theorem before_append_cons {front : List Char} (h : c ∉ front) (back : List Char) :
    before c (front ++ c :: back) = front := by
  rw [before, List.takeWhile_append_of_pos (bne_of_not_mem h),
    List.takeWhile_cons_of_neg (by simp), List.append_nil]

private theorem before_of_not_mem (h : c ∉ s) : before c s = s := by
  rw [before, List.takeWhile_eq_self_iff]
  exact bne_of_not_mem h

theorem before_eq_iff {front : List Char} :
    before c s = front ↔ c ∉ front ∧ (s = front ∨ ∃ back, s = front ++ c :: back) := by
  constructor
  · rintro rfl
    by_cases hc : c ∈ s
    · obtain ⟨front, back, rfl, hfront⟩ := List.eq_append_cons_of_mem hc
      rw [before_append_cons hfront]
      exact ⟨hfront, .inr ⟨back, rfl⟩⟩
    · rw [before_of_not_mem hc]
      exact ⟨hc, .inl rfl⟩
  · rintro ⟨hfront, rfl | ⟨back, rfl⟩⟩
    · exact before_of_not_mem hfront
    · exact before_append_cons hfront back

section

variable {p q : Char → Bool}

theorem fields_congr (h : ∀ c ∈ s, p c = q c) : fields p s = fields q s := by
  induction s with
  | nil => rfl
  | cons c rest ih =>
    have hrest : fields p rest = fields q rest := ih fun d hd => h d (List.mem_cons_of_mem _ hd)
    rw [fields, fields, hrest, h c List.mem_cons_self]

theorem fields_or (p q : Char → Bool) (s : List Char) :
    fields (fun c => p c || q c) s = (fields p s).flatMap (fields q) := by
  induction s with
  | nil => rfl
  | cons c rest ih =>
    rw [fields, ih, fields]
    by_cases hp : p c
    · simp [hp, fields]
    · cases hfirst : fields p rest with
      | nil => exact absurd hfirst (fields_ne_nil p rest)
      | cons first others =>
        by_cases hq : q c
        · simp [hp, hq, fields]
        · cases hpiece : fields q first with
          | nil => exact absurd hpiece (fields_ne_nil q first)
          | cons piece pieces => simp [hp, hq, hpiece, fields]

theorem fields_append_cons {c : Char} (h : p c) (s t : List Char) :
    fields p (s ++ c :: t) = fields p s ++ fields p t := by
  induction s with
  | nil => simp [fields, h]
  | cons d s ih =>
    by_cases hd : p d
    · simp [fields, hd, ih]
    · obtain ⟨field, rest, hs⟩ := List.exists_cons_of_ne_nil (fields_ne_nil p s)
      simp [fields, hd, ih, hs]

theorem fields_append_of_free (h : ∀ c ∈ s, p c = false) (t : List Char) :
    fields p (s ++ t) = (fields p t).modifyHead (s ++ ·) := by
  induction s with
  | nil => cases hfields : fields p t <;> simp [hfields]
  | cons c rest ih =>
    have hc : p c = false := h c List.mem_cons_self
    rw [List.cons_append, fields, ih fun d hd => h d (List.mem_cons_of_mem _ hd)]
    cases hfields : fields p t with
    | nil => exact absurd hfields (fields_ne_nil p t)
    | cons field others => simp [hc]

theorem mem_of_mem_fields {field : List Char} {c : Char} (hfield : field ∈ fields p s)
    (hc : c ∈ field) : c ∈ s := by
  induction s generalizing field with
  | nil =>
    obtain rfl := List.mem_singleton.mp hfield
    exact hc
  | cons d rest ih =>
    rw [fields] at hfield
    by_cases hd : p d
    · rw [if_pos hd] at hfield
      rcases List.mem_cons.mp hfield with rfl | hlater
      · cases hc
      · exact List.mem_cons_of_mem d (ih hlater hc)
    · rw [if_neg hd] at hfield
      cases hfields : fields p rest with
      | nil => exact absurd hfields (fields_ne_nil p rest)
      | cons first others =>
        rw [hfields] at hfield ih
        rcases List.mem_cons.mp hfield with rfl | hlater
        · rcases List.mem_cons.mp hc with rfl | hc
          · exact List.mem_cons_self
          · exact List.mem_cons_of_mem d (ih List.mem_cons_self hc)
        · exact List.mem_cons_of_mem d (ih (List.mem_cons_of_mem first hlater) hc)

end

theorem length_trimBy_le (p : Char → Bool) (s : List Char) : (trimBy p s).length ≤ s.length := by
  have hfront := (s.dropWhile_sublist p).length_le
  have hback := ((s.dropWhile p).reverse.dropWhile_sublist p).length_le
  rw [List.length_reverse] at hback
  rw [trimBy, List.length_reverse]
  exact Nat.le_trans hback hfront

section

variable {p : Char → Bool}

theorem trimBy_append_left {front : List Char} (h : ∀ c ∈ front, p c) (s : List Char) :
    trimBy p (front ++ s) = trimBy p s := by
  rw [trimBy, List.dropWhile_append_of_pos h, trimBy]

theorem trimBy_append_right {back : List Char} (h : ∀ c ∈ back, p c) (s : List Char) :
    trimBy p (s ++ back) = trimBy p s := by
  have hnone : back.dropWhile p = [] := List.dropWhile_eq_nil_iff.mpr h
  have hback : ∀ c ∈ back.reverse, p c := fun c hc => h c (List.mem_reverse.mp hc)
  rw [trimBy, trimBy, List.dropWhile_append]
  by_cases hs : (s.dropWhile p).isEmpty
  · rw [if_pos hs, hnone, List.isEmpty_iff.mp hs]
  · rw [if_neg hs, List.reverse_append, List.dropWhile_append_of_pos hback]

private theorem dropWhile_eq_trimBy_append (p : Char → Bool) (s : List Char) :
    s.dropWhile p = trimBy p s ++ ((s.dropWhile p).reverse.takeWhile p).reverse := by
  rw [trimBy, ← List.reverse_append, List.takeWhile_append_dropWhile, List.reverse_reverse]

theorem exists_trimBy (p : Char → Bool) (s : List Char) : ∃ front back,
    s = front ++ (trimBy p s ++ back) ∧ (∀ c ∈ front, p c) ∧ ∀ c ∈ back, p c := by
  refine ⟨s.takeWhile p, ((s.dropWhile p).reverse.takeWhile p).reverse, ?_, ?_, ?_⟩
  · rw [← dropWhile_eq_trimBy_append, List.takeWhile_append_dropWhile]
  · exact fun c hc => List.mem_takeWhile_imp hc
  · exact fun c hc => List.mem_takeWhile_imp (List.mem_reverse.mp hc)

private theorem dropWhile_of_head (h : ∀ c ∈ s.head?, p c = false) : s.dropWhile p = s := by
  cases s with
  | nil => rfl
  | cons c rest => simp [h c (by simp)]

theorem trimBy_of_ends (hfirst : ∀ c ∈ s.head?, p c = false)
    (hlast : ∀ c ∈ s.getLast?, p c = false) : trimBy p s = s := by
  have hback : ∀ c ∈ s.reverse.head?, p c = false := by
    rw [List.head?_reverse]
    exact hlast
  rw [trimBy, dropWhile_of_head hfirst, dropWhile_of_head hback, List.reverse_reverse]

theorem trimBy_eq_self_of_ends {first last : Char} {mid : List Char}
    (hfirst : p first = false) (hlast : p last = false) :
    trimBy p (first :: (mid ++ [last])) = first :: (mid ++ [last]) := by
  apply trimBy_of_ends
  · simpa using hfirst
  · rw [← List.cons_append, List.getLast?_concat]
    simpa using hlast

private theorem last_of_trimBy (p : Char → Bool) (s : List Char) :
    ∀ c ∈ (trimBy p s).getLast?, p c = false := by
  intro c hc
  rw [trimBy, List.getLast?_reverse] at hc
  have hhead := List.head?_dropWhile_not p (s.dropWhile p).reverse
  rw [Option.mem_def.mp hc] at hhead
  simpa using hhead

private theorem first_of_trimBy (p : Char → Bool) (s : List Char) :
    ∀ c ∈ (trimBy p s).head?, p c = false := by
  intro c hc
  have hhead := List.head?_dropWhile_not p s
  rw [dropWhile_eq_trimBy_append, List.head?_append, Option.mem_def.mp hc] at hhead
  simpa using hhead

end

/-- What a text comes to without the blanks at its two ends. -/
structure Trims (s t : List Char) : Prop where
  parts : ∃ front back, s = front ++ (t ++ back) ∧ (∀ c ∈ front, isBlank c) ∧ ∀ c ∈ back, isBlank c
  first : ∀ c ∈ t.head?, isBlank c = false
  last : ∀ c ∈ t.getLast?, isBlank c = false

theorem trim_eq_iff {t : List Char} : trim s = t ↔ Trims s t := by
  constructor
  · rintro rfl
    exact ⟨exists_trimBy isBlank s, first_of_trimBy isBlank s, last_of_trimBy isBlank s⟩
  · rintro ⟨⟨front, back, rfl, hfront, hback⟩, hfirst, hlast⟩
    rw [trim, trimBy_append_left hfront, trimBy_append_right hback, trimBy_of_ends hfirst hlast]

end ContainerBundle.Text
