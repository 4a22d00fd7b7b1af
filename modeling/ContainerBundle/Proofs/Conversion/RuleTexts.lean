import Mathlib
import ContainerBundle.Proofs.Conversion.DeviceRules
import ContainerBundle.Proofs.Json.Numerals
/-!
# Device rules and their texts

An entry is a rule exactly when, between blanks, it is the letter of a kind, two numbers and the
access that it grants, put together with single spaces and a colon. The rule tells what is written,
and the text of a rule is read back.
-/
namespace ContainerBundle

namespace Text

/-- No row of digits within a text is longer than an integer may be. -/
def ShortRows (s : List Char) : Prop :=
  ∀ row, row <:+: s → (∀ c ∈ row, isAsciiDigit c) → row.length ≤ digitLimit

/-- The number that a row of digits writes, the last digit counting one. -/
def DigitRow.number (row : DigitRow) : Nat :=
  Nat.ofDigits 10 (row.digits.map fun c => c.toNat - '0'.toNat).reverse

private theorem valueOf_eq_ofDigits (digits : List Nat) :
    valueOf digits = Nat.ofDigits 10 digits.reverse := by
  induction digits using List.reverseRecOn with
  | nil => rfl
  | append_singleton digits d ih =>
    rw [List.reverse_append, List.reverse_singleton, List.singleton_append, Nat.ofDigits_cons, ← ih,
      valueOf, List.foldl_append]
    simp [valueOf, Nat.add_comm]

private theorem asciiValue_digits (row : DigitRow) : asciiValue row.digits = row.number :=
  valueOf_eq_ofDigits _

def DigitRow.ofNat (n : Nat) : DigitRow where
  digits := decimal n
  nonempty := Nat.toDigits_ne_nil
  ascii := fun _ hc => isAsciiDigit_of_mem_decimal hc

end Text

namespace Conversion

open Descriptor

variable {raw : String} {r : WrittenRule}

structure Grants (r : WrittenRule) (rule : DeviceRule) : Prop where
  allow : rule.allow = true
  kind : rule.kind = some (String.singleton r.kind.letter)
  major : rule.major = r.major.map fun row => (row.number : Int)
  minor : rule.minor = r.minor.map fun row => (row.number : Int)
  access : rule.access = .str (String.ofList r.access)

private theorem grants_iff {rule : DeviceRule} : Grants r rule ↔ rule = r.rule := by
  constructor
  · rintro ⟨hallow, hkind, hmajor, hminor, haccess⟩
    cases rule
    simp only [WrittenRule.rule, Text.asciiValue_digits, DeviceRule.mk.injEq]
    exact ⟨hallow, hkind, hmajor, hminor, haccess⟩
  · rintro rfl
    refine ⟨rfl, rfl, ?_, ?_, rfl⟩
    · simp only [WrittenRule.rule, Text.asciiValue_digits]
    · simp only [WrittenRule.rule, Text.asciiValue_digits]

private theorem infix_of_number {row : Text.DigitRow}
    (h : r.major = some row ∨ r.minor = some row) :
    row.digits <:+: r.text := by
  rcases h with h | h
  · refine ⟨[r.kind.letter, ' '], ':' :: (numberText r.minor ++ ' ' :: r.access), ?_⟩
    simp [WrittenRule.text, WrittenRule.numbers, h, numberText]
  · refine ⟨r.kind.letter :: ' ' :: (numberText r.major ++ [':']), ' ' :: r.access, ?_⟩
    simp [WrittenRule.text, WrittenRule.numbers, h, numberText]

private theorem not_overlong_of_shortRows (h : Writes raw r) (hshort : Text.ShortRows raw.toList) :
    ¬ r.Overlong := by
  rintro ⟨row, hrow, hlong⟩
  have hwhole : r.text <:+: raw.toList := by
    obtain ⟨front, back, hraw, -, -⟩ := Text.exists_trimBy Text.isBlank raw.toList
    rw [← show Text.trim raw.toList = r.text from h]
    exact ⟨front, back, by rw [List.append_assoc, Text.trim, ← hraw]⟩
  have hlength := hshort row.digits ((infix_of_number hrow).trans hwhole) row.ascii
  omega

/-- An entry without long rows of digits is read, as the rule that it writes or as none. -/
private theorem exists_deviceRule (h : Text.ShortRows raw.toList) : ∃ found,
    deviceRule raw = .ok found ∧
      ∀ rule, found = some rule ↔ ∃ r, Text.Trims raw.toList r.text ∧ Grants r rule := by
  have hwrites : ∀ r : WrittenRule, Text.Trims raw.toList r.text ↔ Writes raw r :=
    fun r => Text.trim_eq_iff.symm
  simp only [hwrites, grants_iff]
  by_cases hsome : ∃ r, Writes raw r
  · obtain ⟨r, hr⟩ := hsome
    refine ⟨some r.rule, deviceRule_of_short hr (not_overlong_of_shortRows hr h), fun rule => ?_⟩
    constructor
    · rintro ⟨rfl⟩
      exact ⟨r, hr, rfl⟩
    · rintro ⟨other, hother, rfl⟩
      -- Whatever else the entry writes, one rule is read from it.
      have hsame := deviceRule_of_short hother (not_overlong_of_shortRows hother h)
      rw [deviceRule_of_short hr (not_overlong_of_shortRows hr h)] at hsame
      exact Except.ok.inj hsame
  · have hnone : ∀ r, ¬ Writes raw r := fun r hr => hsome ⟨r, hr⟩
    exact ⟨none, deviceRule_of_not_writes hnone, fun rule =>
      ⟨by simp, fun ⟨r, hr, _⟩ => absurd hr (hnone r)⟩⟩

/-- A rule that allows the devices of a kind whose numbers are given, or of all numbers. -/
structure Allowance where
  kind : DeviceKind
  major : Option Nat
  minor : Option Nat
  access : List Char
  granted : access ≠ [] ∧ access.length ≤ 3 ∧ ∀ c ∈ access, c ∈ ['r', 'w', 'm']
  short : ∀ n, major = some n ∨ minor = some n → (Text.decimal n).length ≤ Text.digitLimit

namespace Allowance

variable (a : Allowance)

def rule : DeviceRule :=
  { allow := true, kind := some (String.singleton a.kind.letter)
    major := a.major.map fun n : Nat => (n : Int), minor := a.minor.map fun n : Nat => (n : Int)
    access := .str (String.ofList a.access) }

def number (n : Option Nat) : List Char := (n.map Text.decimal).getD ['*']

def text : String :=
  String.ofList (a.kind.letter :: ' ' ::
    (number a.major ++ ':' :: number a.minor ++ ' ' :: a.access))

def written : WrittenRule :=
  { kind := a.kind, major := a.major.map Text.DigitRow.ofNat
    minor := a.minor.map Text.DigitRow.ofNat, access := a.access, granted := a.granted }

private theorem numberText_ofNat (n : Option Nat) :
    numberText (n.map Text.DigitRow.ofNat) = number n := by
  cases n <;> rfl

private theorem text_written : String.ofList a.written.text = a.text := by
  simp [text, WrittenRule.text, WrittenRule.numbers, written, numberText_ofNat]

private theorem rule_written : a.written.rule = a.rule := by
  simp only [rule, WrittenRule.rule, written, DeviceKind.label, Option.map_map, Function.comp_def,
    Text.DigitRow.ofNat, Text.asciiValue_decimal]

private theorem not_overlong_written : ¬ a.written.Overlong := by
  rintro ⟨row, hrow, hlong⟩
  obtain ⟨n, hn, rfl⟩ : ∃ n, (a.major = some n ∨ a.minor = some n) ∧
      Text.DigitRow.ofNat n = row := by
    rcases hrow with hrow | hrow
    · obtain ⟨n, hn, hdigits⟩ := Option.map_eq_some_iff.mp hrow
      exact ⟨n, .inl hn, hdigits⟩
    · obtain ⟨n, hn, hdigits⟩ := Option.map_eq_some_iff.mp hrow
      exact ⟨n, .inr hn, hdigits⟩
  exact absurd (a.short n hn) (Nat.not_le.mpr hlong)

private theorem deviceRule_text : deviceRule a.text = .ok (some a.rule) := by
  rw [← a.text_written, ← a.rule_written]
  exact deviceRule_of_short (writes_text a.written) a.not_overlong_written

end Allowance

/-- An entry gives a rule exactly when, between blanks, it is a letter of a kind, one space, two
numbers with a colon between them, one space and an access. The text of a rule is read back. -/
theorem deviceRule_by_form :
    (∀ raw : String, Text.ShortRows raw.toList → ∃ found, deviceRule raw = .ok found ∧
      ∀ rule, found = some rule ↔ ∃ r, Text.Trims raw.toList r.text ∧ Grants r rule) ∧
    ∀ a : Allowance, deviceRule a.text = .ok (some a.rule) :=
  ⟨fun _ => exists_deviceRule, Allowance.deviceRule_text⟩

theorem deviceRule_by_form_of_leading_zeros :
    let raw := "\u2003b 007:* rw\n"
    let a : Allowance := ⟨.character, some 10, none, ['m'], by simp, by simp; decide⟩
    Text.ShortRows raw.toList ∧ (∃ rule r, deviceRule raw = .ok (some rule) ∧
      Text.Trims raw.toList r.text ∧ Grants r rule ∧
      rule = { allow := true, kind := some "b", major := some 7, access := .str "rw" }) ∧
    a.text = "c 10:* m" ∧ deviceRule a.text =
      .ok (some { allow := true, kind := some "c", major := some 10, access := .str "m" }) := by
  intro raw a
  have hshort : Text.ShortRows raw.toList := fun row hrow _ =>
    Nat.le_trans hrow.length_le (by decide)
  have hread : deviceRule raw =
      .ok (some { allow := true, kind := some "b", major := some 7, access := .str "rw" }) := by
    cbv
  obtain ⟨hentries, htexts⟩ := deviceRule_by_form
  obtain ⟨found, hfound, hrule⟩ := hentries raw hshort
  rw [hread, Except.ok.injEq] at hfound
  obtain ⟨r, htrims, hgrants⟩ := (hrule _).mp hfound.symm
  exact ⟨hshort, ⟨_, r, hread, htrims, hgrants, rfl⟩, by cbv, htexts a⟩

end Conversion

end ContainerBundle
