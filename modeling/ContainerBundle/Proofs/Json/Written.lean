import ContainerBundle.Proofs.Json.Escapes
import ContainerBundle.Proofs.Json.Numerals
import ContainerBundle.Text.Integer
/-!
# Written values

A plain value is one that a document can hold without loss. Its text starts with a mark of its
own, ends in none of its blanks and consists of ASCII characters.
-/
namespace ContainerBundle.Json

/-- Integers have at most `Text.digitLimit` digits, and the keys of an object are distinct. -/
inductive Plain : Json → Prop
  | null : Plain null
  | bool (b : Bool) : Plain (bool b)
  | int (n : Int) (h : (Text.decimal n.natAbs).length ≤ Text.digitLimit) : Plain (int n)
  | str (s : String) : Plain (str s)
  | arr (items : List Json) (h : ∀ v ∈ items, Plain v) : Plain (arr items)
  | obj (members : List (String × Json)) (hkeys : (members.map Prod.fst).Nodup)
      (h : ∀ m ∈ members, Plain m.2) : Plain (obj members)

private theorem closing_append (depth : Nat) (isEmpty : Bool) (mark : Char) (s t : List Char) :
    closing depth isEmpty mark (s ++ t) = closing depth isEmpty mark s ++ t := by
  cases isEmpty <;> simp [closing]

mutual

/-- What follows a value has no part in its text. -/
theorem write_append (depth : Nat) (v : Json) (s t : List Char) :
    write depth v (s ++ t) = write depth v s ++ t := by
  match v with
  | null => rfl
  | bool true => rfl
  | bool false => rfl
  | int n => simp [write]
  | real r => simp [write]
  | str text => simp [write]
  | arr items => rw [write, closing_append, writeItems_append, write, List.cons_append]
  | obj members => rw [write, closing_append, writeMembers_append, write, List.cons_append]

theorem writeItems_append (depth : Nat) (items : List Json) (s t : List Char) :
    writeItems depth items (s ++ t) = writeItems depth items s ++ t := by
  match items with
  | [] => rfl
  | v :: others =>
    rw [writeItems, writeItems_append, ← List.append_assoc (separator _), write_append, writeItems,
      List.append_assoc]

theorem writeMembers_append (depth : Nat) (members : List (String × Json)) (s t : List Char) :
    writeMembers depth members (s ++ t) = writeMembers depth members s ++ t := by
  match members with
  | [] => rfl
  | (key, v) :: others =>
    rw [writeMembers, writeMembers_append, ← List.append_assoc (separator _), write_append,
      writeMembers]
    simp

end

theorem length_le_write (depth : Nat) (v : Json) (rest : List Char) :
    rest.length ≤ (write depth v rest).length := by
  rw [show rest = [] ++ rest from rfl, write_append]
  simp

theorem length_le_writeItems (depth : Nat) (items : List Json) (rest : List Char) :
    rest.length ≤ (writeItems depth items rest).length := by
  rw [show rest = [] ++ rest from rfl, writeItems_append]
  simp

theorem length_le_writeMembers (depth : Nat) (members : List (String × Json)) (rest : List Char) :
    rest.length ≤ (writeMembers depth members rest).length := by
  rw [show rest = [] ++ rest from rfl, writeMembers_append]
  simp

/-- The text of a value starts with a mark of its own: neither a blank nor the end of a list. -/
theorem Plain.write_head {v : Json} (h : v.Plain) (depth : Nat) (rest : List Char) :
    ∃ c tail, write depth v rest = c :: tail ∧ isGap c = false ∧ c ≠ ']' := by
  cases h with
  | null => exact ⟨_, _, rfl, by decide, by decide⟩
  | bool b => cases b <;> exact ⟨_, _, rfl, by decide, by decide⟩
  | int n _ =>
    obtain ⟨c, s, hdecimal, hc⟩ := Text.signedDecimal_head n
    refine ⟨c, s ++ rest, by rw [write, hdecimal, List.cons_append], ?_⟩
    rcases hc with rfl | hdigit
    · decide
    · refine ⟨?_, Text.ne_of_class hdigit (by decide)⟩
      have hne : ∀ gap, Text.isAsciiDigit gap = false → c ≠ gap :=
        fun gap => Text.ne_of_class hdigit
      simp [isGap, hne ' ' (by decide), hne '\n' (by decide), hne '\r' (by decide),
        hne '\t' (by decide)]
  | str s => exact ⟨_, _, rfl, by decide, by decide⟩
  | arr items _ => exact ⟨_, _, rfl, by decide, by decide⟩
  | obj members _ _ => exact ⟨_, _, rfl, by decide, by decide⟩

private theorem ascii_lineStart (depth : Nat) : Ascii (lineStart depth) := by
  refine .cons (by decide) (fun c hc => ?_)
  rw [(List.mem_replicate.mp hc).2]
  decide

private theorem ascii_separator (isLast : Bool) : Ascii (separator isLast) := by
  cases isLast <;> simp [separator, Ascii]

private theorem ascii_closing {depth : Nat} {isEmpty : Bool} {mark : Char} {rest : List Char}
    (hmark : mark.toNat < 128) (hrest : Ascii rest) : Ascii (closing depth isEmpty mark rest) := by
  cases isEmpty with
  | true => exact .cons hmark hrest
  | false => exact (ascii_lineStart depth).append (.cons hmark hrest)

private theorem ascii_signedDecimal (n : Int) : Ascii (Text.signedDecimal n) := by
  have hdecimal : ∀ n, Ascii (Text.decimal n) :=
    fun n c hc => Text.toNat_lt_of_isAsciiDigit (Text.isAsciiDigit_of_mem_decimal hc)
  cases n with
  | ofNat n => exact hdecimal n
  | negSucc n => exact .cons (by decide) (hdecimal (n + 1))

def WritesAscii (v : Json) : Prop := ∀ depth rest, Ascii rest → Ascii (write depth v rest)

private theorem ascii_writeItems {items : List Json} (h : ∀ v ∈ items, WritesAscii v)
    (depth : Nat) {rest : List Char} (hrest : Ascii rest) :
    Ascii (writeItems depth items rest) := by
  induction items with
  | nil => exact hrest
  | cons v others ih =>
    obtain ⟨hv, hothers⟩ := List.forall_mem_cons.mp h
    exact (ascii_lineStart depth).append
      (hv depth _ ((ascii_separator _).append (ih hothers)))

private theorem ascii_writeMembers {members : List (String × Json)}
    (h : ∀ m ∈ members, WritesAscii m.2) (depth : Nat) {rest : List Char} (hrest : Ascii rest) :
    Ascii (writeMembers depth members rest) := by
  induction members with
  | nil => exact hrest
  | cons m others ih =>
    obtain ⟨hv, hothers⟩ := List.forall_mem_cons.mp h
    refine (ascii_lineStart depth).append ((ascii_writeText _).append ?_)
    exact .cons (by decide) (.cons (by decide)
      (hv depth _ ((ascii_separator _).append (ih hothers))))

theorem Plain.writesAscii {v : Json} (h : v.Plain) : WritesAscii v := by
  induction h with
  | null =>
    intro depth rest hrest
    exact Ascii.append (s := ['n', 'u', 'l', 'l']) (by simp [Ascii]) hrest
  | bool b =>
    intro depth rest hrest
    cases b with
    | true => exact Ascii.append (s := ['t', 'r', 'u', 'e']) (by simp [Ascii]) hrest
    | false => exact Ascii.append (s := ['f', 'a', 'l', 's', 'e']) (by simp [Ascii]) hrest
  | int n _ => exact fun _ _ hrest => (ascii_signedDecimal n).append hrest
  | str s => exact fun _ _ hrest => (ascii_writeText s.toList).append hrest
  | arr items _ ih =>
    intro depth rest hrest
    exact .cons (by decide) (ascii_writeItems ih (depth + 1) (ascii_closing (by decide) hrest))
  | obj members _ _ ih =>
    intro depth rest hrest
    exact .cons (by decide) (ascii_writeMembers ih (depth + 1) (ascii_closing (by decide) hrest))

private theorem getLast?_closing (depth : Nat) (isEmpty : Bool) (mark : Char) :
    (closing depth isEmpty mark []).getLast? = some mark := by
  cases isEmpty <;> simp [closing]

theorem Plain.write_last {v : Json} (h : v.Plain) (depth : Nat) :
    (write depth v []).getLast? ≠ some '\n' := by
  cases h with
  | null => simp [write]
  | bool b => cases b <;> simp [write]
  | int n _ =>
    intro hlast
    rw [write, List.append_nil] at hlast
    have hmem := List.mem_of_getLast? hlast
    cases n with
    | ofNat n => exact absurd (Text.isAsciiDigit_of_mem_decimal hmem) (by decide)
    | negSucc n =>
      rcases List.mem_cons.mp hmem with heq | hmem
      · exact absurd heq (by decide)
      · exact absurd (Text.isAsciiDigit_of_mem_decimal hmem) (by decide)
  | str s =>
    have htext : write depth (.str s) [] =
        Text.doubleQuote :: s.toList.flatMap writeChar ++ [Text.doubleQuote] := by
      simp [write, writeText]
    rw [htext, List.getLast?_concat]
    decide
  | arr items _ =>
    rw [write, ← List.nil_append (closing _ _ _ _), writeItems_append, ← List.cons_append,
      List.getLast?_append, getLast?_closing]
    simp
  | obj members _ _ =>
    rw [write, ← List.nil_append (closing _ _ _ _), writeMembers_append, ← List.cons_append,
      List.getLast?_append, getLast?_closing]
    simp

end ContainerBundle.Json
