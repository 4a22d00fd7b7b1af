import ContainerBundle.Proofs.Text.Splitting
import ContainerBundle.Text.Integer
/-!
# Tokens of digits

A token that consists of digits is read as an integer, unless one of its digits is ornamental or
there are more of them than an integer may have.
-/
namespace ContainerBundle.Text

/-- A token of digits that writes no integer. -/
def Illegible (s : List Char) : Prop :=
  isDigits s ∧ ((∃ c ∈ s, decimalValue? c = none) ∨ digitLimit < s.length)

def digitsValue (s : List Char) : Nat := valueOf (s.filterMap decimalValue?)

instance (s : List Char) : Decidable (Illegible s) :=
  have hornamental : Decidable (∃ c ∈ s, decimalValue? c = none) := List.decidableBEx _ s
  @instDecidableAnd _ _ inferInstance (@instDecidableOr _ _ hornamental inferInstance)

variable {c : Char} {s : List Char}

private theorem isDigit_of_isBlank (h : isBlank c) : isDigit c = false := by
  have hblanks : ∀ n ∈ List.range' 9 5 ++ List.range' 28 5 ++ [0x85, 0xA0, 0x1680] ++
      List.range' 0x2000 11 ++ [0x2028, 0x2029, 0x202F, 0x205F, 0x3000],
      isDigit (Char.ofNat n) = false := by decide
  rw [← Char.ofNat_toNat c]
  apply hblanks
  simp only [isBlank, Bool.or_eq_true, Bool.and_eq_true, decide_eq_true_eq, beq_iff_eq] at h
  simp only [List.mem_append, List.mem_range'_1, List.mem_cons, List.not_mem_nil, or_false]
  omega

private theorem digitRow?_of_decimals (hne : s ≠ []) (hplain : ∀ c ∈ s, c ≠ '_')
    (hvalues : ∀ c ∈ s, (decimalValue? c).isSome) :
    digitRow? s = some (s.filterMap decimalValue?) := by
  induction s with
  | nil => exact absurd rfl hne
  | cons c rest ih =>
    obtain ⟨d, hd⟩ := Option.isSome_iff_exists.mp (hvalues c (by simp))
    cases rest with
    | nil => simp [digitRow?, hd]
    | cons u tail =>
      have hu : u ≠ '_' := hplain u (by simp)
      have htail := ih (by simp) (fun c hc => hplain c (List.mem_cons_of_mem _ hc))
        (fun c hc => hvalues c (List.mem_cons_of_mem _ hc))
      rw [digitRow?, hd]
      simp only [if_neg hu, htail, List.filterMap_cons (a := c), hd, Option.map_some]

private theorem isDigit_of_mem (h : isDigits s) : ∀ c ∈ s, isDigit c = true := by
  simp only [isDigits, Bool.and_eq_true, List.all_eq_true] at h
  exact h.2

private theorem readInteger_of_isDigits (h : isDigits s) : readInteger s = signedRow false s := by
  have hdigit := isDigit_of_mem h
  have hsolid : ∀ c ∈ s, isIntegerBlank c = false := by
    intro c hc
    rw [isIntegerBlank, Bool.and_eq_false_iff]
    refine Or.inl (Bool.eq_false_iff.mpr fun hblank => ?_)
    have hnot := isDigit_of_isBlank hblank
    rw [hdigit c hc] at hnot
    exact Bool.noConfusion hnot
  have htrim : trimBy isIntegerBlank s = s := by
    apply trimBy_of_ends
    · exact fun c hc => hsolid c (List.mem_of_mem_head? hc)
    · exact fun c hc => hsolid c (List.mem_of_getLast? hc)
  rw [readInteger, htrim]
  cases s with
  | nil => simp [isDigits] at h
  | cons c rest =>
    have hc := hdigit c (by simp)
    have hminus : c ≠ '-' := ne_of_class hc (by decide)
    have hplus : c ≠ '+' := ne_of_class hc (by decide)
    simp only [if_neg hminus, if_neg hplus]

private theorem row_of_decimals (h : isDigits s) (hvalues : ∀ c ∈ s, (decimalValue? c).isSome) :
    s.takeWhile inRow = s ∧ s.dropWhile inRow = [] ∧
      digitRow? s = some (s.filterMap decimalValue?) ∧
      (s.filterMap decimalValue?).length = s.length := by
  have hin : ∀ c ∈ s, inRow c = true := fun c hc => by simp [inRow, hvalues c hc]
  have hne : s ≠ [] := by
    rintro rfl
    simp [isDigits] at h
  have hplain : ∀ c ∈ s, c ≠ '_' := fun c hc => ne_of_class (isDigit_of_mem h c hc) (by decide)
  exact ⟨List.takeWhile_eq_self_iff.mpr hin, List.dropWhile_eq_nil_iff.mpr hin,
    digitRow?_of_decimals hne hplain hvalues, List.filterMap_length_eq_length.mpr hvalues⟩

/-- A token of digits is the integer that the values of its digits write, if it is legible. -/
theorem readInteger_of_legible (h : isDigits s) (hlegible : ¬ Illegible s) :
    readInteger s = .ok (digitsValue s) := by
  have hvalues : ∀ c ∈ s, (decimalValue? c).isSome := by
    intro c hc
    rw [Option.isSome_iff_ne_none]
    exact fun hnone => hlegible ⟨h, Or.inl ⟨c, hc, hnone⟩⟩
  have hfew : ¬ digitLimit < s.length := fun hmany => hlegible ⟨h, Or.inr hmany⟩
  obtain ⟨hrow, hleft, hdigits, hlength⟩ := row_of_decimals h hvalues
  rw [readInteger_of_isDigits h, signedRow, hrow, hdigits, hleft]
  simp [digitsValue, hlength, hfew]

theorem readInteger_of_illegible (h : Illegible s) : ∃ cause, readInteger s = .error cause := by
  obtain ⟨hdigits, hbad⟩ := h
  rw [readInteger_of_isDigits hdigits, signedRow]
  cases hrow : digitRow? (s.takeWhile inRow) with
  | none => exact ⟨_, rfl⟩
  | some row =>
    by_cases hlong : digitLimit < row.length
    · exact ⟨_, if_pos hlong⟩
    · -- A row that is read and not too long leaves the ornamental digit behind it.
      have hleft : s.dropWhile inRow ≠ [] := by
        intro hnil
        have hvalues : ∀ c ∈ s, (decimalValue? c).isSome := by
          intro c hc
          have hc' := List.dropWhile_eq_nil_iff.mp hnil c hc
          have hplain : c ≠ '_' := ne_of_class (isDigit_of_mem hdigits c hc) (by decide)
          simpa [inRow, hplain] using hc'
        obtain ⟨hwhole, -, hall, hlength⟩ := row_of_decimals hdigits hvalues
        rw [hwhole, hall, Option.some.injEq] at hrow
        rcases hbad with ⟨c, hc, hnone⟩ | hmany
        · simpa [hnone] using hvalues c hc
        · exact hlong (by rw [← hrow, hlength]; exact hmany)
      have hnonempty : (!(s.dropWhile inRow).isEmpty) = true := by simpa using hleft
      exact ⟨.malformed, by simp only [if_neg hlong, if_pos hnonempty]⟩

end ContainerBundle.Text
