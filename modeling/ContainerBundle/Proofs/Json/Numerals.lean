import ContainerBundle.Json.Reader
/-!
# Written integers

An integer is written without leading zeros, and a reader that admits its digits reads it back
up to the end of the value.
-/
namespace ContainerBundle

namespace Text

theorem toNat_lt_of_isAsciiDigit {c : Char} (h : isAsciiDigit c = true) : c.toNat < 128 := by
  simp only [isAsciiDigit, Bool.and_eq_true, decide_eq_true_eq, Char.le_def] at h
  exact Nat.lt_of_le_of_lt (UInt32.le_iff_toNat_le.mp h.2) (by decide)

theorem isAsciiDigit_of_mem_decimal {n : Nat} {c : Char} (h : c ∈ decimal n) :
    isAsciiDigit c = true := by
  have hdigit := Nat.isDigit_of_mem_toDigits (by decide) (by decide) h
  simp only [Char.isDigit, Bool.and_eq_true, decide_eq_true_eq] at hdigit
  simp only [isAsciiDigit, Bool.and_eq_true, decide_eq_true_eq]
  exact ⟨hdigit.1, hdigit.2⟩

private theorem decimal_of_pos {n : Nat} (h : 0 < n) : ∃ d ds, decimal n = d :: ds ∧ d ≠ '0' := by
  induction n using Nat.strongRecOn with
  | ind n ih =>
    by_cases hn : n < 10
    · refine ⟨n.digitChar, [], Nat.toDigits_of_lt_base hn, ?_⟩
      rw [Ne, Nat.digitChar_eq_zero]
      omega
    · obtain ⟨d, ds, hhead, hd⟩ := ih (n / 10) (by omega) (by omega)
      refine ⟨d, ds ++ [(n % 10).digitChar], ?_, hd⟩
      rw [decimal, Nat.toDigits_of_base_le (by decide) (by omega), ← decimal, hhead]
      rfl

theorem asciiValue_decimal (n : Nat) : asciiValue (decimal n) = n := by
  rw [asciiValue, valueOf, List.foldl_map]
  have hvalue := Nat.ofDigitChars_ten_toDigits (n := n)
  rw [Nat.ofDigitChars_eq_foldl] at hvalue
  exact hvalue

private theorem decimal_head (n : Nat) : ∃ d ds, decimal n = d :: ds ∧ isAsciiDigit d = true := by
  obtain ⟨d, ds, h⟩ := List.exists_cons_of_ne_nil (Nat.toDigits_ne_nil (n := n) (b := 10))
  exact ⟨d, ds, h, isAsciiDigit_of_mem_decimal (n := n) (by simp [decimal, h])⟩

theorem signedDecimal_head (n : Int) :
    ∃ c s, signedDecimal n = c :: s ∧ (c = '-' ∨ isAsciiDigit c = true) := by
  cases n with
  | ofNat n =>
    obtain ⟨d, ds, h, hdigit⟩ := decimal_head n
    exact ⟨d, ds, h, Or.inr hdigit⟩
  | negSucc n => exact ⟨'-', _, rfl, Or.inl rfl⟩

end Text

namespace Json

/-- A text that starts with a comma or a line feed; no value goes on into it. -/
def EndsValue (s : List Char) : Prop := ∃ c tail, s = c :: tail ∧ (c = ',' ∨ c = '\n')

section

variable {limit : Nat} {rest : List Char}

private theorem EndsValue.stops (h : EndsValue rest) :
    fraction? rest = none ∧ exponent? rest = none ∧
      ∀ s, s.all Text.isAsciiDigit → digitRun (s ++ rest) = (s, rest) := by
  obtain ⟨c, tail, rfl, hc⟩ := h
  have hdigit : Text.isAsciiDigit c = false := by rcases hc with rfl | rfl <;> decide
  refine ⟨?_, ?_, fun s hs => ?_⟩
  · rcases hc with rfl | rfl <;> simp [fraction?]
  · rcases hc with rfl | rfl <;> simp [exponent?]
  · have hs : ∀ d ∈ s, Text.isAsciiDigit d = true := by simpa using hs
    rw [digitRun, List.takeWhile_append_of_pos hs, List.dropWhile_append_of_pos hs]
    simp [hdigit]

private theorem wholePart?_decimal (n : Nat) (h : EndsValue rest) :
    wholePart? (Text.decimal n ++ rest) = some (Text.decimal n, rest) := by
  rcases Nat.eq_zero_or_pos n with rfl | hpos
  · rw [Text.decimal, Nat.toDigits_zero]
    rfl
  · obtain ⟨d, ds, hdecimal, hd⟩ := Text.decimal_of_pos hpos
    have hall : (Text.decimal n).all Text.isAsciiDigit = true := by
      simpa using fun c hc => Text.isAsciiDigit_of_mem_decimal hc
    have hdigit : Text.isAsciiDigit d = true :=
      Text.isAsciiDigit_of_mem_decimal (n := n) (by simp [hdecimal])
    have hrun := h.stops.2.2 _ hall
    rw [hdecimal] at hrun ⊢
    rw [List.cons_append] at hrun ⊢
    rw [wholePart?, if_neg hd, if_pos hdigit, hrun]

private theorem readUnsigned_decimal {n : Nat} (negative : Bool) (start : List Char)
    (hn : (Text.decimal n).length ≤ limit) (h : EndsValue rest) :
    readUnsigned limit negative start (Text.decimal n ++ rest) =
      .ok (int (if negative then -n else n), rest) := by
  obtain ⟨hfraction, hexponent, _⟩ := h.stops
  simp [readUnsigned, wholePart?_decimal n h, hfraction, hexponent, Nat.not_lt.mpr hn,
    Text.asciiValue_decimal]

private theorem readScalar_eq_readNumber {c : Char} {s : List Char}
    (h : Text.isAsciiDigit c = true ∨ c = '-' ∧ s.head? ≠ some 'I') :
    readScalar limit (c :: s) = readNumber limit (c :: s) := by
  have hfirst : ∀ w ∈ wordValues, Text.isAsciiDigit (w.1.headD '0') = false ∧
      (w.1.headD '0' = '-' → w.1.tail.head? = some 'I') := by decide
  have hword : ∀ w ∈ wordValues, Text.after? w.1 (c :: s) = none := by
    intro w hw
    rw [Option.eq_none_iff_forall_ne_some]
    intro left hleft
    obtain ⟨hdigit, hminus⟩ := hfirst w hw
    have hsplit := Text.after?_eq_some_iff.mp hleft
    cases hw : w.1 with
    | nil => simp [hw, Text.isAsciiDigit] at hdigit
    | cons f fs =>
      rw [hw, List.cons_append, List.cons.injEq] at hsplit
      obtain ⟨rfl, rfl⟩ := hsplit
      simp only [hw, List.headD_cons, List.tail_cons] at hdigit hminus
      rcases h with h | ⟨hc, hhead⟩
      · simp [hdigit] at h
      · exact hhead (by simp [hminus hc])
  rw [readScalar, List.findSome?_eq_none_iff.mpr (fun w hw => by simp [hword w hw])]

/-- A written integer is read back, if the reader admits its digits. -/
theorem readScalar_signedDecimal {n : Int} (hn : (Text.decimal n.natAbs).length ≤ limit)
    (h : EndsValue rest) :
    readScalar limit (Text.signedDecimal n ++ rest) = .ok (int n, rest) := by
  cases n with
  | ofNat n =>
    have hn : (Text.decimal n).length ≤ limit := hn
    obtain ⟨d, ds, hdecimal, hdigit⟩ := Text.decimal_head n
    have hminus : d ≠ '-' := Text.ne_of_class hdigit (by decide)
    rw [Text.signedDecimal, hdecimal, List.cons_append, readScalar_eq_readNumber (Or.inl hdigit),
      readNumber, if_neg hminus, ← List.cons_append, ← hdecimal,
      readUnsigned_decimal false _ hn h]
    simp
  | negSucc n =>
    have hn : (Text.decimal (n + 1)).length ≤ limit := hn
    obtain ⟨d, ds, hdecimal, hdigit⟩ := Text.decimal_head (n + 1)
    have hword : (Text.decimal (n + 1) ++ rest).head? ≠ some 'I' := by
      rw [hdecimal, List.cons_append, List.head?_cons, Ne, Option.some.injEq]
      exact Text.ne_of_class hdigit (by decide)
    rw [Text.signedDecimal, List.cons_append, readScalar_eq_readNumber (Or.inr ⟨rfl, hword⟩),
      readNumber, if_pos rfl, readUnsigned_decimal true _ hn h]
    simp [Int.negSucc_eq]

end

end Json

end ContainerBundle
