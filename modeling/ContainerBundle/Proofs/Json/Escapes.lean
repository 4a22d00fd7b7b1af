import ContainerBundle.Json.Reader
import ContainerBundle.Json.Rendering
/-!
# Written texts

A character of a text is written as itself, as a letter behind a backslash, or as one or two
units in hexadecimal. Each form is read back as the character, and all of them are ASCII.
-/
namespace ContainerBundle.Json

def Ascii (s : List Char) : Prop := ∀ c ∈ s, c.toNat < 128

theorem Ascii.append {s t : List Char} (hs : Ascii s) (ht : Ascii t) : Ascii (s ++ t) := by
  intro c hc
  rcases List.mem_append.mp hc with hc | hc
  · exact hs c hc
  · exact ht c hc

theorem Ascii.cons {c : Char} {s : List Char} (hc : c.toNat < 128) (hs : Ascii s) :
    Ascii (c :: s) :=
  Ascii.append (s := [c]) (by simpa [Ascii] using hc) hs

private theorem digitChar_spec : ∀ d < 16,
    hexValue? (Nat.digitChar d) = some d ∧ (Nat.digitChar d).toNat < 128 := by
  decide

private theorem hexadecimal_four {n : Nat} (h : n < 0x10000) :
    ∃ a b c d, Text.hexadecimal 4 n = [a, b, c, d] ∧ unit? a b c d = some n := by
  refine ⟨_, _, _, _, rfl, ?_⟩
  have hdigit : ∀ m, hexValue? (Nat.digitChar (m % 16)) = some (m % 16) :=
    fun m => (digitChar_spec _ (Nat.mod_lt m (by decide))).1
  simp only [unit?, hdigit]
  have hvalue : 4096 * (n / 16 / 16 / 16 % 16) + 256 * (n / 16 / 16 % 16) + 16 * (n / 16 % 16) +
      n % 16 = n := by
    omega
  rw [hvalue]

private theorem ascii_hexadecimal (width n : Nat) : Ascii (Text.hexadecimal width n) := by
  induction width generalizing n with
  | zero => simp [Ascii, Text.hexadecimal]
  | succ width ih =>
    apply (ih (n / 16)).append
    simpa [Ascii] using (digitChar_spec _ (Nat.mod_lt n (by decide))).2

private theorem ascii_unitEscape (n : Nat) : Ascii (unitEscape n) :=
  .cons (by decide) (.cons (by decide) (ascii_hexadecimal 4 n))

section

variable {opening seen rest : List Char}

private theorem readText_plain {c : Char} (hquote : c ≠ Text.doubleQuote)
    (hbackslash : c ≠ Text.backslash) (h : 32 ≤ c.toNat) :
    readText opening seen (c :: rest) = readText opening (c :: seen) rest := by
  rw [readText.eq_def]
  simp [hquote, hbackslash, Nat.not_lt.mpr h]

private theorem readText_letter {e d : Char} (hu : e ≠ 'u') (h : letterEscape? e = some d) :
    readText opening seen (Text.backslash :: e :: rest) = readText opening (d :: seen) rest := by
  rw [readText.eq_def]
  simp [hu, h, show Text.backslash ≠ Text.doubleQuote by decide]

private theorem readText_unit {n : Nat} (hn : n < 0x10000) (hhigh : isHighUnit n = false)
    (next : Char) :
    readText opening seen (unitEscape n ++ next :: rest) =
      readText opening (unitChar n :: seen) (next :: rest) := by
  obtain ⟨a, b, c, d, hdigits, hunit⟩ := hexadecimal_four hn
  rw [unitEscape, hdigits]
  simp only [List.cons_append, List.nil_append]
  rw [readText.eq_def]
  simp [hunit, hhigh, show Text.backslash ≠ Text.doubleQuote by decide]

private theorem readText_pair {high low : Nat} (hhigh : isHighUnit high = true)
    (hlow : isLowUnit low = true) (next : Char) :
    readText opening seen (unitEscape high ++ (unitEscape low ++ next :: rest)) =
      readText opening (pairChar high low :: seen) (next :: rest) := by
  have hbounds : high < 0x10000 ∧ low < 0x10000 := by
    simp [isHighUnit, isLowUnit] at hhigh hlow
    omega
  obtain ⟨a, b, c, d, hdigits, hunit⟩ := hexadecimal_four hbounds.1
  obtain ⟨a', b', c', d', hdigits', hunit'⟩ := hexadecimal_four hbounds.2
  rw [unitEscape, unitEscape, hdigits, hdigits']
  simp only [List.cons_append, List.nil_append]
  rw [readText.eq_def]
  simp [hunit, hunit', hhigh, hlow, show Text.backslash ≠ Text.doubleQuote by decide]

private theorem not_half (c : Char) : c.toNat < 0xD800 ∨ 0xE000 ≤ c.toNat ∧ c.toNat < 0x110000 := by
  rcases c.valid with h | ⟨h, h'⟩
  · exact Or.inl h
  · exact Or.inr ⟨h, h'⟩

private theorem isHighUnit_toNat (c : Char) : isHighUnit c.toNat = false := by
  rcases not_half c with h | ⟨h, _⟩ <;> simp [isHighUnit] <;> omega

private theorem unitChar_toNat (c : Char) : unitChar c.toNat = c := by
  have hlow : isLowUnit c.toNat = false := by
    rcases not_half c with h | ⟨h, _⟩ <;> simp [isLowUnit] <;> omega
  simp [unitChar, isHighUnit_toNat, hlow]

private theorem pairChar_units {c : Char} (h : 0x10000 ≤ c.toNat) :
    let high := 0xD800 + (c.toNat - 0x10000) / 0x400
    let low := 0xDC00 + (c.toNat - 0x10000) % 0x400
    isHighUnit high = true ∧ isLowUnit low = true ∧ pairChar high low = c := by
  have hlast : c.toNat < 0x110000 := by
    rcases not_half c with h | ⟨_, h⟩ <;> omega
  intro high low
  refine ⟨?_, ?_, ?_⟩
  · simp [isHighUnit, high]
    omega
  · simp [isLowUnit, low]
    omega
  · have hvalue : 0x10000 + (high - 0xD800) * 0x400 + (low - 0xDC00) = c.toNat := by omega
    rw [pairChar, hvalue, Char.ofNat_toNat]

private theorem writeChar_cases (c : Char) :
    (∃ e, e ≠ 'u' ∧ e.toNat < 128 ∧ letterEscape? e = some c ∧
      writeChar c = [Text.backslash, e]) ∨
    (c ≠ Text.doubleQuote ∧ c ≠ Text.backslash ∧ 32 ≤ c.toNat ∧ c.toNat ≤ 126 ∧
      writeChar c = [c]) ∨
    (c.toNat < 0x10000 ∧ writeChar c = unitEscape c.toNat) ∨
    (0x10000 ≤ c.toNat ∧ writeChar c = unitEscape (0xD800 + (c.toNat - 0x10000) / 0x400) ++
      unitEscape (0xDC00 + (c.toNat - 0x10000) % 0x400)) := by
  unfold writeChar
  split
  · rename_i h
    have hc : c = Text.doubleQuote ∨ c = Text.backslash := by simpa using h
    exact Or.inl ⟨c, by rcases hc with rfl | rfl <;> decide, by rcases hc with rfl | rfl <;> decide,
      by simp [letterEscape?, hc], rfl⟩
  rename_i hspecial
  have hc : c ≠ Text.doubleQuote ∧ c ≠ Text.backslash := by simpa using hspecial
  split
  · rename_i h
    exact Or.inl ⟨'n', by decide, by decide, h ▸ rfl, rfl⟩
  split
  · rename_i h
    exact Or.inl ⟨'r', by decide, by decide, h ▸ rfl, rfl⟩
  split
  · rename_i h
    exact Or.inl ⟨'t', by decide, by decide, h ▸ rfl, rfl⟩
  split
  · rename_i h
    exact Or.inl ⟨'b', by decide, by decide, by rw [← Char.ofNat_toNat c, h]; rfl, rfl⟩
  split
  · rename_i h
    exact Or.inl ⟨'f', by decide, by decide, by rw [← Char.ofNat_toNat c, h]; rfl, rfl⟩
  split
  · rename_i h
    exact Or.inr (Or.inl ⟨hc.1, hc.2, h.1, h.2, rfl⟩)
  · unfold units
    split
    · rename_i h
      exact Or.inr (Or.inr (Or.inl ⟨h, by simp⟩))
    · rename_i h
      exact Or.inr (Or.inr (Or.inr ⟨Nat.not_lt.mp h, by simp⟩))

/-- Each character is read back, whatever follows it before the end of the text. -/
private theorem readText_writeChar (c next : Char) :
    readText opening seen (writeChar c ++ next :: rest) =
      readText opening (c :: seen) (next :: rest) := by
  rcases writeChar_cases c with ⟨e, hu, _, hletter, hform⟩ | ⟨hquote, hbackslash, hlow, _, hform⟩ |
    ⟨h, hform⟩ | ⟨h, hform⟩ <;> rw [hform]
  · exact readText_letter hu hletter
  · exact readText_plain hquote hbackslash hlow
  · rw [readText_unit h (isHighUnit_toNat c), unitChar_toNat]
  · obtain ⟨hhigh, hlow, hpair⟩ := pairChar_units h
    rw [List.append_assoc, readText_pair hhigh hlow, hpair]

/-- A written text is read back up to its closing quote. -/
theorem readText_written (s : List Char) :
    readText opening seen (s.flatMap writeChar ++ Text.doubleQuote :: rest) =
      .ok (seen.reverse ++ s, rest) := by
  induction s generalizing seen with
  | nil =>
    rw [readText.eq_def]
    simp
  | cons c s ih =>
    -- What follows a character is at least the closing quote.
    obtain ⟨next, tail, hnext⟩ : ∃ next tail,
        s.flatMap writeChar ++ Text.doubleQuote :: rest = next :: tail :=
      List.exists_cons_of_ne_nil (by simp)
    rw [List.flatMap_cons, List.append_assoc, hnext, readText_writeChar, ← hnext, ih]
    simp

end

private theorem ascii_writeChar (c : Char) : Ascii (writeChar c) := by
  rcases writeChar_cases c with ⟨e, _, he, _, hform⟩ | ⟨_, _, _, hc, hform⟩ | ⟨_, hform⟩ |
    ⟨_, hform⟩ <;> rw [hform]
  · exact .cons (by decide) (.cons he (by simp [Ascii]))
  · exact .cons (by omega) (by simp [Ascii])
  · exact ascii_unitEscape _
  · exact (ascii_unitEscape _).append (ascii_unitEscape _)

theorem ascii_writeText (s : List Char) : Ascii (writeText s) := by
  refine .cons (by decide) (.append ?_ (.cons (by decide) (by simp [Ascii])))
  intro x hx
  obtain ⟨c, _, hx⟩ := List.mem_flatMap.mp hx
  exact ascii_writeChar c x hx

end ContainerBundle.Json
