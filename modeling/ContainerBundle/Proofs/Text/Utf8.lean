import ContainerBundle.Text.Utf8
/-!
# Texts in UTF-8

Bytes are read as a text exactly when they are the bytes that the text has in UTF-8. Reading takes
the bytes of one character at a time, so each direction goes along the bytes character by
character.
-/
namespace ContainerBundle.Text

def utf8 (s : List Char) : List UInt8 := s.flatMap String.utf8EncodeChar

theorem utf8_cons (c : Char) (s : List Char) : utf8 (c :: s) = String.utf8EncodeChar c ++ utf8 s :=
  List.flatMap_cons

variable {a b c d : UInt8} {s : List Char} {position : Nat} {bytes rest : List UInt8}

private theorem toNat_byte {n : Nat} (h : n < 256) : (UInt8.ofNat n).toNat = n := by
  rw [UInt8.toNat_ofNat', Nat.mod_eq_of_lt h]

theorem isContinuation_iff : isContinuation b = true ↔ 128 ≤ b.toNat ∧ b.toNat ≤ 191 := by
  simp only [isContinuation, Bool.and_eq_true, decide_eq_true_eq, UInt8.le_iff_toNat_le]
  rfl

/-- The second byte decides about overlong forms, halves of pairs and the greatest character. -/
theorem fitsLead_iff : fitsLead a b = true ↔ (128 ≤ b.toNat ∧ b.toNat ≤ 191) ∧
    (a.toNat = 0xE0 → 0xA0 ≤ b.toNat) ∧ (a.toNat = 0xED → b.toNat < 0xA0) ∧
    (a.toNat = 0xF0 → 0x90 ≤ b.toNat) ∧ (a.toNat = 0xF4 → b.toNat < 0x90) := by
  simp only [fitsLead, Bool.and_eq_true, isContinuation_iff, Bool.not_eq_true', Bool.and_eq_false_iff,
    beq_eq_false_iff_ne, ne_eq, ← UInt8.toNat_inj, decide_eq_false_iff_not, UInt8.lt_iff_toNat_lt,
    UInt8.le_iff_toNat_le, UInt8.reduceToNat]
  omega

private theorem decodeFrom_one (ha : a.toNat < 0x80) : decodeFrom position (a :: rest) =
    (decodeFrom (position + 1) rest).map (Char.ofNat a.toNat :: ·) := by
  have hshort : a < 0x80 := UInt8.lt_iff_toNat_lt.mpr ha
  rw [decodeFrom.eq_def]
  simp only [if_pos hshort]

private theorem lead_bounds (ha : 0xC2 ≤ a.toNat ∧ a.toNat ≤ 0xF4) :
    ¬ a < 0x80 ∧ ¬ (decide (a < 0xC2) || decide (0xF4 < a)) = true := by
  simp only [Bool.or_eq_true, decide_eq_true_eq, UInt8.lt_iff_toNat_lt, UInt8.reduceToNat]
  omega

private theorem decodeFrom_two (ha : 0xC2 ≤ a.toNat ∧ a.toNat < 0xE0) (hb : isContinuation b) :
    decodeFrom position (a :: b :: rest) = (decodeFrom (position + 2) rest).map
      (Char.ofNat (a.toNat % 32 * 64 + tailBits b) :: ·) := by
  obtain ⟨hshort, hlead⟩ := @lead_bounds a (by omega)
  have htwo : a < 0xE0 := UInt8.lt_iff_toNat_lt.mpr ha.2
  rw [decodeFrom.eq_def]
  simp only [if_neg hshort, if_neg hlead, if_pos htwo, if_pos hb]

private theorem decodeFrom_three (ha : 0xE0 ≤ a.toNat ∧ a.toNat < 0xF0) (hb : fitsLead a b)
    (hc : isContinuation c) :
    decodeFrom position (a :: b :: c :: rest) = (decodeFrom (position + 3) rest).map
      (Char.ofNat (a.toNat % 16 * 4096 + tailBits b * 64 + tailBits c) :: ·) := by
  obtain ⟨hshort, hlead⟩ := @lead_bounds a (by omega)
  have htwo : ¬ a < 0xE0 := fun h => Nat.not_lt.mpr ha.1 (UInt8.lt_iff_toNat_lt.mp h)
  have hthree : a < 0xF0 := UInt8.lt_iff_toNat_lt.mpr ha.2
  rw [decodeFrom.eq_def]
  simp only [if_neg hshort, if_neg hlead, if_neg htwo, hb, hc, Bool.not_true, Bool.false_eq_true,
    if_false, if_pos hthree]

private theorem decodeFrom_four (ha : 0xF0 ≤ a.toNat ∧ a.toNat ≤ 0xF4) (hb : fitsLead a b)
    (hc : isContinuation c) (hd : isContinuation d) :
    decodeFrom position (a :: b :: c :: d :: rest) = (decodeFrom (position + 4) rest).map
      (Char.ofNat (a.toNat % 8 * 262144 + tailBits b * 4096 + tailBits c * 64 + tailBits d) :: ·) := by
  obtain ⟨hshort, hlead⟩ := @lead_bounds a (by omega)
  have htwo : ¬ a < 0xE0 := fun h => by
    have hlt : a.toNat < 0xE0 := UInt8.lt_iff_toNat_lt.mp h
    omega
  have hthree : ¬ a < 0xF0 := fun h => Nat.not_lt.mpr ha.1 (UInt8.lt_iff_toNat_lt.mp h)
  rw [decodeFrom.eq_def]
  simp only [if_neg hshort, if_neg hlead, if_neg htwo, if_neg hthree, hb, hc, hd, Bool.not_true,
    Bool.false_eq_true, if_false]

/-- The bytes of a character are read as that character, whatever follows them. -/
private theorem decodeFrom_encodeChar (x : Char) (position : Nat) : ∃ next, ∀ rest,
    decodeFrom position (String.utf8EncodeChar x ++ rest) =
      (decodeFrom next rest).map (x :: ·) := by
  have hx : Char.ofNat x.toNat = x := Char.ofNat_toNat x
  have hvalid : x.toNat.isValidChar := x.valid
  have hval : x.val.toNat = x.toNat := rfl
  simp only [String.utf8EncodeChar, hval]
  generalize x.toNat = n at *
  simp only [Nat.isValidChar] at hvalid
  by_cases hone : n ≤ 0x7F
  · have ha := @toNat_byte n (by omega)
    refine ⟨position + 1, fun rest => ?_⟩
    rw [if_pos hone, List.singleton_append, decodeFrom_one (by omega), ha, hx]
  by_cases htwo : n ≤ 0x7FF
  · have ha := @toNat_byte (n / 64 % 32 + 192) (by omega)
    have hb := @toNat_byte (n % 64 + 128) (by omega)
    refine ⟨position + 2, fun rest => ?_⟩
    rw [if_neg hone, if_pos htwo]
    simp only [List.cons_append, List.nil_append]
    rw [decodeFrom_two (by omega) (isContinuation_iff.mpr (by omega)), tailBits, ha, hb,
      show (n / 64 % 32 + 192) % 32 * 64 + (n % 64 + 128) % 64 = n by omega, hx]
  by_cases hthree : n ≤ 0xFFFF
  · have ha := @toNat_byte (n / 4096 % 16 + 224) (by omega)
    have hb := @toNat_byte (n / 64 % 64 + 128) (by omega)
    have hc := @toNat_byte (n % 64 + 128) (by omega)
    refine ⟨position + 3, fun rest => ?_⟩
    rw [if_neg hone, if_neg htwo, if_pos hthree]
    simp only [List.cons_append, List.nil_append]
    rw [decodeFrom_three (by omega) (fitsLead_iff.mpr (by omega)) (isContinuation_iff.mpr (by omega)),
      tailBits, tailBits, ha, hb, hc, show (n / 4096 % 16 + 224) % 16 * 4096 +
        (n / 64 % 64 + 128) % 64 * 64 + (n % 64 + 128) % 64 = n by omega, hx]
  · have ha := @toNat_byte (n / 262144 % 8 + 240) (by omega)
    have hb := @toNat_byte (n / 4096 % 64 + 128) (by omega)
    have hc := @toNat_byte (n / 64 % 64 + 128) (by omega)
    have hd := @toNat_byte (n % 64 + 128) (by omega)
    refine ⟨position + 4, fun rest => ?_⟩
    rw [if_neg hone, if_neg htwo, if_neg hthree]
    simp only [List.cons_append, List.nil_append]
    rw [decodeFrom_four (by omega) (fitsLead_iff.mpr (by omega)) (isContinuation_iff.mpr (by omega))
      (isContinuation_iff.mpr (by omega)), tailBits, tailBits, tailBits, ha, hb, hc, hd,
      show (n / 262144 % 8 + 240) % 8 * 262144 + (n / 4096 % 64 + 128) % 64 * 4096 +
        (n / 64 % 64 + 128) % 64 * 64 + (n % 64 + 128) % 64 = n by omega, hx]

private theorem number_ofNat {n : Nat} (h : n.isValidChar) : (Char.ofNat n).val.toNat = n := by
  rw [Char.ofNat, dif_pos h]
  rfl

private theorem byte_eq (a : UInt8) {n : Nat} (h : n = a.toNat) : UInt8.ofNat n = a := by
  rw [h, UInt8.ofNat_toNat]

private theorem encodeChar_two (ha : 0xC2 ≤ a.toNat ∧ a.toNat < 0xE0) (hb : isContinuation b) :
    String.utf8EncodeChar (Char.ofNat (a.toNat % 32 * 64 + tailBits b)) = [a, b] := by
  have hb' := isContinuation_iff.mp hb
  have hbits : tailBits b = b.toNat % 64 := rfl
  generalize hn : a.toNat % 32 * 64 + tailBits b = n
  have hvalid : n.isValidChar := Or.inl (by omega)
  simp only [String.utf8EncodeChar, number_ofNat hvalid]
  rw [if_neg (by omega), if_pos (by omega), byte_eq a (by omega), byte_eq b (by omega)]

private theorem encodeChar_three (ha : 0xE0 ≤ a.toNat ∧ a.toNat < 0xF0) (hb : fitsLead a b)
    (hc : isContinuation c) : String.utf8EncodeChar
      (Char.ofNat (a.toNat % 16 * 4096 + tailBits b * 64 + tailBits c)) = [a, b, c] := by
  have hb' := fitsLead_iff.mp hb
  have hc' := isContinuation_iff.mp hc
  have hbits : tailBits b = b.toNat % 64 ∧ tailBits c = c.toNat % 64 := ⟨rfl, rfl⟩
  generalize hn : a.toNat % 16 * 4096 + tailBits b * 64 + tailBits c = n
  have hvalid : n.isValidChar := by
    simp only [Nat.isValidChar]
    omega
  simp only [String.utf8EncodeChar, number_ofNat hvalid]
  rw [if_neg (by omega), if_neg (by omega), if_pos (by omega), byte_eq a (by omega),
    byte_eq b (by omega), byte_eq c (by omega)]

private theorem encodeChar_four (ha : 0xF0 ≤ a.toNat ∧ a.toNat ≤ 0xF4) (hb : fitsLead a b)
    (hc : isContinuation c) (hd : isContinuation d) : String.utf8EncodeChar (Char.ofNat
      (a.toNat % 8 * 262144 + tailBits b * 4096 + tailBits c * 64 + tailBits d)) = [a, b, c, d] := by
  have hb' := fitsLead_iff.mp hb
  have hc' := isContinuation_iff.mp hc
  have hd' := isContinuation_iff.mp hd
  have hbits : tailBits b = b.toNat % 64 ∧ tailBits c = c.toNat % 64 ∧
      tailBits d = d.toNat % 64 := ⟨rfl, rfl, rfl⟩
  generalize hn : a.toNat % 8 * 262144 + tailBits b * 4096 + tailBits c * 64 + tailBits d = n
  have hvalid : n.isValidChar := by
    simp only [Nat.isValidChar]
    omega
  simp only [String.utf8EncodeChar, number_ofNat hvalid]
  rw [if_neg (by omega), if_neg (by omega), if_neg (by omega), byte_eq a (by omega),
    byte_eq b (by omega), byte_eq c (by omega), byte_eq d (by omega)]

private theorem decodeFrom_utf8 (s : List Char) (position : Nat) :
    decodeFrom position (utf8 s) = .ok s := by
  induction s generalizing position with
  | nil => rfl
  | cons c s ih =>
    obtain ⟨next, hnext⟩ := decodeFrom_encodeChar c position
    rw [utf8_cons, hnext, ih]
    rfl

private theorem map_cons_eq_ok {x : Char} {read : Except Utf8Fault (List Char)}
    (h : read.map (x :: ·) = .ok s) : ∃ t, read = .ok t ∧ s = x :: t := by
  cases read with
  | error fault => cases h
  | ok t => exact ⟨t, rfl, (Except.ok.inj h).symm⟩

private theorem utf8_of_decodeFrom (h : decodeFrom position bytes = .ok s) : bytes = utf8 s := by
  -- One accepting case for each length of a character; all others answer a fault.
  fun_induction decodeFrom position bytes generalizing s with
  | case1 position =>
    cases h
    rfl
  | case2 position a rest hshort ih =>
    have ha : a.toNat < 0x80 := UInt8.lt_iff_toNat_lt.mp hshort
    have hvalid : a.toNat.isValidChar := Or.inl (by omega)
    obtain ⟨t, ht, rfl⟩ := map_cons_eq_ok h
    rw [utf8_cons, ← ih ht]
    simp only [String.utf8EncodeChar, number_ofNat hvalid]
    rw [if_pos (by omega), byte_eq a rfl, List.singleton_append]
  | case5 position a hshort hlead b rest htwo hb ih =>
    simp only [Bool.or_eq_true, decide_eq_true_eq, UInt8.lt_iff_toNat_lt, UInt8.reduceToNat] at *
    obtain ⟨t, ht, rfl⟩ := map_cons_eq_ok h
    rw [utf8_cons, ← ih ht, encodeChar_two (by omega) hb]
    rfl
  | case10 position a hshort hlead b htwo hb c rest hc hthree ih =>
    simp only [Bool.or_eq_true, decide_eq_true_eq, UInt8.lt_iff_toNat_lt, UInt8.reduceToNat,
      Bool.not_eq_true', Bool.not_eq_false] at *
    obtain ⟨t, ht, rfl⟩ := map_cons_eq_ok h
    rw [utf8_cons, ← ih ht, encodeChar_three (by omega) hb hc]
    rfl
  | case13 position a hshort hlead b htwo hb c hc hthree d rest hd ih =>
    simp only [Bool.or_eq_true, decide_eq_true_eq, UInt8.lt_iff_toNat_lt, UInt8.reduceToNat,
      Bool.not_eq_true', Bool.not_eq_false] at *
    obtain ⟨t, ht, rfl⟩ := map_cons_eq_ok h
    rw [utf8_cons, ← ih ht, encodeChar_four (by omega) hb hc hd]
    rfl
  | _ => cases h

theorem decodeUtf8_eq_ok_iff {text : String} :
    decodeUtf8 bytes = .ok text ↔ bytes = utf8 text.toList := by
  rw [decodeUtf8]
  constructor
  · intro h
    cases hread : decodeFrom 0 bytes with
    | error fault =>
      rw [hread] at h
      cases h
    | ok s =>
      rw [hread] at h
      have htext : String.ofList s = text := Except.ok.inj h
      rw [← htext, String.toList_ofList]
      exact utf8_of_decodeFrom hread
  · rintro rfl
    rw [decodeFrom_utf8]
    exact congrArg Except.ok String.ofList_toList

end ContainerBundle.Text
