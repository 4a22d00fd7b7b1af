import ContainerBundle.Conversion.Devices
import ContainerBundle.Proofs.Text.Splitting
/-!
# Device rules as they are written

A written rule is the data of a text `kind major:minor access`. An entry that writes one gives its
rule, unless one of its numbers has more digits than an integer may have; an entry that writes
none is passed over. A ledger tells for a row of entries which of the two befalls each.
-/
namespace ContainerBundle

structure Text.DigitRow where
  digits : List Char
  nonempty : digits ≠ []
  ascii : ∀ c ∈ digits, Text.isAsciiDigit c

namespace Conversion

open Descriptor

/-- A number as a rule writes it; a missing one is every number. -/
def numberText : Option Text.DigitRow → List Char
  | none => ['*']
  | some row => row.digits

structure WrittenRule where
  kind : DeviceKind
  major : Option Text.DigitRow
  minor : Option Text.DigitRow
  access : List Char
  granted : access ≠ [] ∧ access.length ≤ 3 ∧ ∀ c ∈ access, c ∈ ['r', 'w', 'm']

namespace WrittenRule

def numbers (r : WrittenRule) : List Char := numberText r.major ++ ':' :: numberText r.minor

def text (r : WrittenRule) : List Char := r.kind.letter :: ' ' :: (r.numbers ++ ' ' :: r.access)

def rule (r : WrittenRule) : DeviceRule :=
  { allow := true
    kind := some r.kind.label
    major := r.major.map fun row => Text.asciiValue row.digits
    minor := r.minor.map fun row => Text.asciiValue row.digits
    access := .str (String.ofList r.access) }

def Overlong (r : WrittenRule) : Prop :=
  ∃ row, (r.major = some row ∨ r.minor = some row) ∧ Text.digitLimit < row.digits.length

end WrittenRule

/-- An entry writes a rule when the rule's text stands between blanks. -/
def Writes (raw : String) (r : WrittenRule) : Prop := Text.trim raw.toList = r.text

def Overlong (raw : String) : Prop := ∃ r, Writes raw r ∧ r.Overlong

private theorem deviceKindOf?_eq_some_iff {s : List Char} {kind : DeviceKind} :
    deviceKindOf? s = some kind ↔ s = [kind.letter] := by
  constructor
  · intro h
    match s with
    | [] => cases h
    | [c] =>
      have hfound := List.find?_some h
      rw [beq_iff_eq] at hfound
      rw [hfound]
    | _ :: _ :: _ => cases h
  · intro h
    subst h
    cases kind <;> rfl

private theorem isAccess_iff {s : List Char} :
    isAccess s ↔ s ≠ [] ∧ s.length ≤ 3 ∧ ∀ c ∈ s, c ∈ ['r', 'w', 'm'] := by
  simp [isAccess, and_assoc, or_assoc]

private theorem ruleNumber?_numberText (n : Option Text.DigitRow) :
    ruleNumber? (numberText n) = some (n.map (·.digits)) := by
  cases n with
  | none => rfl
  | some row =>
    have hstar : row.digits ≠ ['*'] := by
      intro hstar
      have hascii := row.ascii '*' (by simp [hstar])
      simp [Text.isAsciiDigit] at hascii
    have hrow : (!row.digits.isEmpty && row.digits.all Text.isAsciiDigit) = true := by
      simpa [row.nonempty] using row.ascii
    rw [numberText, ruleNumber?, if_neg hstar, if_pos hrow]
    rfl

private theorem exists_of_ruleNumber? {s : List Char} {n : Option (List Char)}
    (h : ruleNumber? s = some n) : ∃ m : Option Text.DigitRow, s = numberText m := by
  rw [ruleNumber?] at h
  by_cases hstar : s = ['*']
  · exact ⟨none, hstar⟩
  · rw [if_neg hstar] at h
    by_cases hrow : !s.isEmpty && s.all Text.isAsciiDigit
    · have hdigits : s ≠ [] ∧ ∀ c ∈ s, Text.isAsciiDigit c := by simpa using hrow
      exact ⟨some ⟨s, hdigits.1, hdigits.2⟩, rfl⟩
    · rw [if_neg hrow] at h
      cases h

private theorem not_mem_numberText {c : Char} (hdigit : Text.isAsciiDigit c = false)
    (hstar : c ≠ '*') (n : Option Text.DigitRow) : c ∉ numberText n := by
  cases n with
  | none => simpa [numberText] using hstar
  | some row =>
    intro hmem
    have hascii := row.ascii c hmem
    rw [hdigit] at hascii
    cases hascii

variable {raw : String} {r : WrittenRule}

private theorem fields_text (r : WrittenRule) :
    Text.fields (· == ' ') r.text = [[r.kind.letter], r.numbers, r.access] := by
  have hkind : ' ' ∉ [r.kind.letter] := by cases r.kind <;> decide
  have hnumbers : ' ' ∉ r.numbers := by
    have hfree := not_mem_numberText (c := ' ') (by decide) (by decide)
    simp [WrittenRule.numbers, hfree]
  have haccess : ' ' ∉ r.access := by
    intro hmem
    have hletter := r.granted.2.2 ' ' hmem
    revert hletter
    decide
  rw [Text.fields_eq_iff]
  refine ⟨by simp, ?_, by simp [WrittenRule.text, List.intercalate]⟩
  simpa using ⟨by simpa using hkind, hnumbers, haccess⟩

private theorem fields_numbers (r : WrittenRule) :
    Text.fields (· == ':') r.numbers = [numberText r.major, numberText r.minor] := by
  have hfree := not_mem_numberText (c := ':') (by decide) (by decide)
  rw [Text.fields_eq_iff]
  exact ⟨by simp, by simp [hfree], by simp [WrittenRule.numbers, List.intercalate]⟩

private theorem deviceRule_of_writes (h : Writes raw r) : deviceRule raw = (do
    let major ← ruleValue (r.major.map (·.digits))
    let minor ← ruleValue (r.minor.map (·.digits))
    pure (some { allow := true, kind := some r.kind.label, major, minor
                 access := .str (String.ofList r.access) })) := by
  have hkind := deviceKindOf?_eq_some_iff.mpr (Eq.refl [r.kind.letter])
  rw [deviceRule, show Text.trim raw.toList = r.text from h, fields_text]
  simp only [fields_numbers, hkind, ruleNumber?_numberText, isAccess_iff.mpr r.granted, if_true]

theorem deviceRule_of_not_writes (h : ∀ r, ¬ Writes raw r) : deviceRule raw = .ok none := by
  rw [deviceRule]
  split
  case h_2 => rfl
  case h_1 kind numbers access hraw =>
  split
  case h_2 => rfl
  case h_1 major minor hnumbers =>
  split
  case h_2 => rfl
  case h_1 kind' major' minor' hkind hmajor hminor =>
  by_cases haccess : isAccess access
  · -- All the parts of a rule are there, so that the entry writes one.
    obtain ⟨-, -, htext⟩ := Text.fields_eq_iff.mp hraw
    obtain ⟨-, -, hpair⟩ := Text.fields_eq_iff.mp hnumbers
    obtain ⟨m, rfl⟩ := exists_of_ruleNumber? hmajor
    obtain ⟨n, rfl⟩ := exists_of_ruleNumber? hminor
    obtain rfl := deviceKindOf?_eq_some_iff.mp hkind
    refine absurd ?_ (h ⟨kind', m, n, access, isAccess_iff.mp haccess⟩)
    rw [Writes, htext, hpair]
    simp [WrittenRule.text, WrittenRule.numbers, List.intercalate]
  · rw [if_neg haccess]

private theorem ruleValue_of_short {n : Option Text.DigitRow}
    (h : ∀ row, n = some row → ¬ Text.digitLimit < row.digits.length) :
    ruleValue (n.map (·.digits)) =
      .ok (n.map fun row => (Text.asciiValue row.digits : Int)) := by
  cases n with
  | none => rfl
  | some row => exact if_neg (h row rfl)

private theorem ruleValue_of_overlong {row : Text.DigitRow}
    (h : Text.digitLimit < row.digits.length) :
    ruleValue (some row.digits) =
      .error (.integer (String.ofList row.digits) (.tooLong row.digits.length)) :=
  if_pos h

theorem deviceRule_of_short (h : Writes raw r) (hshort : ¬ r.Overlong) :
    deviceRule raw = .ok (some r.rule) := by
  have hmajor : ∀ row, r.major = some row → ¬ Text.digitLimit < row.digits.length :=
    fun row hrow hlong => hshort ⟨row, .inl hrow, hlong⟩
  have hminor : ∀ row, r.minor = some row → ¬ Text.digitLimit < row.digits.length :=
    fun row hrow hlong => hshort ⟨row, .inr hrow, hlong⟩
  rw [deviceRule_of_writes h, ruleValue_of_short hmajor, ok_bind, ruleValue_of_short hminor]
  rfl

private theorem deviceRule_of_overlong (h : Writes raw r) (hlong : r.Overlong) : ∃ digits count,
    deviceRule raw = .error (.integer digits (.tooLong count)) := by
  rw [deviceRule_of_writes h]
  by_cases hmajor : ∃ row, r.major = some row ∧ Text.digitLimit < row.digits.length
  · obtain ⟨row, hrow, hcount⟩ := hmajor
    rw [hrow, Option.map_some, ruleValue_of_overlong hcount]
    exact ⟨_, _, rfl⟩
  · obtain ⟨row, hrow, hcount⟩ := hlong
    have hminor : r.minor = some row :=
      hrow.resolve_left fun hrow => hmajor ⟨row, hrow, hcount⟩
    have hshort : ∀ row, r.major = some row → ¬ Text.digitLimit < row.digits.length :=
      fun row hrow hcount => hmajor ⟨row, hrow, hcount⟩
    rw [ruleValue_of_short hshort, ok_bind, hminor, Option.map_some, ruleValue_of_overlong hcount]
    exact ⟨_, _, rfl⟩

theorem writes_text (r : WrittenRule) : Writes (String.ofList r.text) r := by
  have hfirst : Text.isBlank r.kind.letter = false := by cases r.kind <;> decide
  obtain ⟨front, last, haccess⟩ : ∃ front last, r.access = front ++ [last] :=
    ⟨_, _, (List.dropLast_concat_getLast r.granted.1).symm⟩
  have hlast : Text.isBlank last = false := by
    have hletter := r.granted.2.2 last (by simp [haccess])
    simp only [List.mem_cons, List.not_mem_nil, or_false] at hletter
    rcases hletter with rfl | rfl | rfl <;> decide
  have htext : r.text = r.kind.letter :: (' ' :: (r.numbers ++ ' ' :: front) ++ [last]) := by
    simp [WrittenRule.text, haccess]
  rw [Writes, String.toList_ofList, htext, Text.trim, Text.trimBy_eq_self_of_ends hfirst hlast]

theorem not_overlong_of_length (h : raw.toList.length ≤ Text.digitLimit) : ¬ Overlong raw := by
  intro hoverlong
  obtain ⟨r, hwrites, row, hrow, hlong⟩ := hoverlong
  have htrim : r.text.length ≤ raw.toList.length := by
    rw [← show Text.trim raw.toList = r.text from hwrites]
    exact Text.length_trimBy_le _ _
  have hnumber : row.digits.length ≤ r.text.length := by
    rcases hrow with hrow | hrow
    all_goals
      simp only [WrittenRule.text, WrittenRule.numbers, hrow, numberText, List.length_cons,
        List.length_append]
      omega
  omega

/-- What becomes of a row of entries: the rules that they give and the entries passed over. -/
inductive Ledger : List String → List DeviceRule → List String → Prop
  | nil : Ledger [] [] []
  | rule {raw : String} {r : WrittenRule} {rest rules passed} (h : Writes raw r)
      (hrest : Ledger rest rules passed) : Ledger (raw :: rest) (r.rule :: rules) passed
  | passed {raw : String} {rest rules passed} (h : ∀ r, ¬ Writes raw r)
      (hrest : Ledger rest rules passed) : Ledger (raw :: rest) rules (raw :: passed)

private theorem declaredRule_of_writes (h : Writes raw r) (hshort : ¬ Overlong raw) :
    declaredRule (.str raw) = pure (some r.rule) := by
  have hread := deviceRule_of_short h fun hlong => hshort ⟨r, h, hlong⟩
  simp only [declaredRule, Json.text, hread, Traced.liftM_eq_ofExcept, Traced.ofExcept_ok,
    pure_bind]

private theorem declaredRule_of_not_writes (h : ∀ r, ¬ Writes raw r) :
    declaredRule (.str raw) = ⟨[.ruleMalformed raw], .ok none⟩ := by
  simp only [declaredRule, Json.text, deviceRule_of_not_writes h, Traced.liftM_eq_ofExcept,
    Traced.ofExcept_ok, pure_bind]
  rfl

private theorem declaredRule_of_overlong (h : Overlong raw) : ∃ digits count,
    (declaredRule (.str raw)).outcome = .error (.integer digits (.tooLong count)) := by
  obtain ⟨r, hwrites, hlong⟩ := h
  obtain ⟨digits, count, hread⟩ := deviceRule_of_overlong hwrites hlong
  refine ⟨digits, count, ?_⟩
  simp only [declaredRule, Json.text, hread, Traced.liftM_eq_ofExcept, Traced.ofExcept_ok,
    pure_bind]
  rfl

theorem exists_ledger {entries : List String} (h : ∀ raw ∈ entries, ¬ Overlong raw) :
    ∃ rules passed, Ledger entries rules passed ∧ ∃ found : List (Option DeviceRule),
      found.filterMap id = rules ∧ Traced.forEach declaredRule (entries.map .str) =
        ⟨passed.map .ruleMalformed, .ok found⟩ := by
  induction entries with
  | nil => exact ⟨[], [], .nil, [], rfl, rfl⟩
  | cons raw rest ih =>
    obtain ⟨hraw, hrest⟩ := List.forall_mem_cons.mp h
    obtain ⟨rules, passed, hledger, found, hfound, hrow⟩ := ih hrest
    rw [List.map_cons, Traced.forEach, hrow]
    by_cases hwrites : ∃ r, Writes raw r
    · obtain ⟨r, hr⟩ := hwrites
      refine ⟨r.rule :: rules, passed, .rule hr hledger, some r.rule :: found, ?_, ?_⟩
      · rw [← hfound]
        rfl
      · rw [declaredRule_of_writes hr hraw, pure_bind, Traced.mk_ok_bind, Traced.pure_events,
          List.append_nil]
        rfl
    · have hnone : ∀ r, ¬ Writes raw r := fun r hr => hwrites ⟨r, hr⟩
      refine ⟨rules, raw :: passed, .passed hnone hledger, none :: found, hfound, ?_⟩
      rw [declaredRule_of_not_writes hnone, Traced.mk_ok_bind, Traced.mk_ok_bind]
      simp

theorem declaredRules_of_overlong {entries : List String} (h : ∃ raw ∈ entries, Overlong raw) :
    ∃ raw ∈ entries, Overlong raw ∧ ∃ digits count,
      (Traced.forEach declaredRule (entries.map .str)).outcome =
        .error (.integer digits (.tooLong count)) := by
  rw [Traced.forEach_map]
  have hfails : ∃ raw ∈ entries, ∃ fault, (declaredRule (.str raw)).outcome = .error fault := by
    obtain ⟨raw, hraw, hlong⟩ := h
    obtain ⟨digits, count, hrule⟩ := declaredRule_of_overlong hlong
    exact ⟨raw, hraw, _, hrule⟩
  obtain ⟨raw, hraw, fault, hfault, hrow⟩ := Traced.forEach_error hfails
  have hlong : Overlong raw := by
    refine Classical.byContradiction fun hshort => ?_
    by_cases hwrites : ∃ r, Writes raw r
    · obtain ⟨r, hr⟩ := hwrites
      rw [declaredRule_of_writes hr hshort] at hfault
      cases hfault
    · rw [declaredRule_of_not_writes fun r hr => hwrites ⟨r, hr⟩] at hfault
      cases hfault
  obtain ⟨digits, count, hrule⟩ := declaredRule_of_overlong hlong
  rw [hrule, Except.error.injEq] at hfault
  exact ⟨raw, hraw, hlong, digits, count, by rw [hrow, hfault]⟩

end Conversion

end ContainerBundle
