import ContainerBundle.Json.Nesting
import ContainerBundle.Proofs.Json.Escapes
import ContainerBundle.Proofs.Json.Numerals
/-!
# Texts that determine values

Two values without fractions that are written alike are the same value, to any depth and whatever
follows them. The first character of a text tells the shape, and a list or an object ends at its
closing line.
-/
namespace ContainerBundle.Json

/-- A value whose numbers, at every depth, are integers. -/
inductive Integral : Json → Prop
  | null : Integral null
  | bool (b : Bool) : Integral (bool b)
  | int (n : Int) : Integral (int n)
  | str (s : String) : Integral (str s)
  | arr (items : List Json) (h : ∀ v ∈ items, Integral v) : Integral (arr items)
  | obj (members : List (String × Json)) (h : ∀ m ∈ members, Integral m.2) :
      Integral (obj members)

def shapeOfMark (c : Char) : Shape :=
  if c = 'n' then .null
  else if c = 't' || c = 'f' then .boolean
  else if c = Text.doubleQuote then .text
  else if c = '[' then .list
  else if c = '\x7b' then .object
  else .integer

private theorem Integral.write_mark {v : Json} (h : v.Integral) (depth : Nat) (rest : List Char) :
    ∃ c tail, write depth v rest = c :: tail ∧ shapeOfMark c = v.shape := by
  cases h with
  | null => exact ⟨_, _, rfl, rfl⟩
  | bool b => cases b <;> exact ⟨_, _, rfl, rfl⟩
  | int n =>
    obtain ⟨c, s, hdecimal, hc⟩ := Text.signedDecimal_head n
    refine ⟨c, s ++ rest, by rw [write, hdecimal, List.cons_append], ?_⟩
    rcases hc with rfl | hdigit
    · rfl
    · have hne : ∀ mark, Text.isAsciiDigit mark = false → c ≠ mark :=
        fun mark => Text.ne_of_class hdigit
      simp [shapeOfMark, shape, hne 'n' (by decide), hne 't' (by decide), hne 'f' (by decide),
        hne Text.doubleQuote (by decide), hne '[' (by decide), hne '\x7b' (by decide)]
  | str s => exact ⟨_, _, rfl, rfl⟩
  | arr items _ => exact ⟨_, _, rfl, rfl⟩
  | obj members _ => exact ⟨_, _, rfl, rfl⟩

theorem Integral.shape_eq {v w : Json} (hv : v.Integral) (hw : w.Integral) {depth : Nat}
    {r s : List Char} (h : write depth v r = write depth w s) : v.shape = w.shape := by
  obtain ⟨c, t, hvc, hc⟩ := hv.write_mark depth r
  obtain ⟨d, u, hwd, hd⟩ := hw.write_mark depth s
  rw [hvc, hwd, List.cons.injEq] at h
  rw [← hc, ← hd, h.1]

private theorem signedDecimal_append_inj {n m : Int} {r s : List Char} (hr : EndsValue r)
    (hs : EndsValue s) (h : Text.signedDecimal n ++ r = Text.signedDecimal m ++ s) :
    n = m ∧ r = s := by
  -- One reader that admits the digits of both reads both.
  have hn := readScalar_signedDecimal
    (Nat.le_max_left (Text.decimal n.natAbs).length (Text.decimal m.natAbs).length) hr
  have hm := readScalar_signedDecimal
    (Nat.le_max_right (Text.decimal n.natAbs).length (Text.decimal m.natAbs).length) hs
  rw [h, hm] at hn
  have hread := Except.ok.inj hn
  simp only [Prod.mk.injEq, int.injEq] at hread
  exact ⟨hread.1.symm, hread.2.symm⟩

private theorem writeText_append_inj {a b r s : List Char}
    (h : writeText a ++ r = writeText b ++ s) :
    a = b ∧ r = s := by
  have hwritten : ∀ t u, writeText t ++ u =
      Text.doubleQuote :: (t.flatMap writeChar ++ Text.doubleQuote :: u) := by
    simp [writeText]
  rw [hwritten, hwritten, List.cons.injEq] at h
  have ha := @readText_written [] [] r a
  have hb := @readText_written [] [] s b
  rw [h.2, hb] at ha
  have hread := Except.ok.inj ha
  simp only [List.reverse_nil, List.nil_append, Prod.mk.injEq] at hread
  exact ⟨hread.1.symm, hread.2.symm⟩

def writeRow (one : α → List Char → List Char) (depth : Nat) : List α → List Char → List Char
  | [], rest => rest
  | a :: others, rest =>
    lineStart depth ++ one a (separator others.isEmpty ++ writeRow one depth others rest)

private theorem writeItems_eq_writeRow (depth : Nat) (items : List Json) (rest : List Char) :
    writeItems depth items rest = writeRow (write depth) depth items rest := by
  induction items with
  | nil => rfl
  | cons v others ih => rw [writeItems, writeRow, ih]

def writeMember (depth : Nat) (m : String × Json) (rest : List Char) : List Char :=
  writeText m.1.toList ++ ':' :: ' ' :: write depth m.2 rest

private theorem writeMembers_eq_writeRow (depth : Nat) (members : List (String × Json))
    (rest : List Char) :
    writeMembers depth members rest = writeRow (writeMember depth) depth members rest := by
  induction members with
  | nil => rfl
  | cons m others ih => rw [writeMembers, writeRow, ih, writeMember]

/-- Their texts, each with what follows it, tell two things in a row apart. -/
def ToldApart (one : α → List Char → List Char) (a b : α) : Prop :=
  ∀ r s, EndsValue r → EndsValue s → one a r = one b s → a = b ∧ r = s

private theorem endsValue_row {one : α → List Char → List Char} {depth : Nat} (others : List α)
    {tail : List Char} :
    EndsValue (separator others.isEmpty ++ writeRow one depth others ('\n' :: tail)) := by
  cases others with
  | nil => exact ⟨'\n', tail, rfl, Or.inr rfl⟩
  | cons a others => exact ⟨',', _, rfl, Or.inl rfl⟩

/-- Rows that end at a line are told apart when their items are. -/
private theorem writeRow_inj {one : α → List Char → List Char} {depth : Nat} {items others : List α}
    {r s : List Char} (hone : ∀ a ∈ items, ∀ b ∈ others, ToldApart one a b)
    (hitems : items ≠ []) (hothers : others ≠ [])
    (h : writeRow one depth items ('\n' :: r) = writeRow one depth others ('\n' :: s)) :
    items = others ∧ r = s := by
  induction items generalizing others with
  | nil => exact absurd rfl hitems
  | cons a items ih =>
    cases others with
    | nil => exact absurd rfl hothers
    | cons b others =>
      rw [writeRow, writeRow, List.append_cancel_left_eq] at h
      obtain ⟨rfl, hrest⟩ := hone a (by simp) b (by simp) _ _ (endsValue_row items)
        (endsValue_row others) h
      cases items with
      | nil =>
        cases others with
        | nil =>
          simp only [separator, writeRow, List.isEmpty_nil, List.nil_append, List.cons.injEq,
            true_and] at hrest
          exact ⟨rfl, hrest⟩
        | cons c others => simp [separator, writeRow] at hrest
      | cons c items =>
        cases others with
        | nil => simp [separator, writeRow] at hrest
        | cons d others =>
          have hmore : writeRow one depth (c :: items) ('\n' :: r) =
              writeRow one depth (d :: others) ('\n' :: s) := by
            simpa [separator] using hrest
          obtain ⟨heq, hrs⟩ := ih
            (fun x hx y hy => hone x (List.mem_cons_of_mem _ hx) y (List.mem_cons_of_mem _ hy))
            (by simp) (by simp) hmore
          exact ⟨by rw [heq], hrs⟩

private theorem writeRow_closing_inj {one : α → List Char → List Char} {depth : Nat}
    {items others : List α} {mark : Char} {r s : List Char} (hmark : mark ≠ '\n')
    (hone : ∀ a ∈ items, ∀ b ∈ others, ToldApart one a b)
    (h : writeRow one (depth + 1) items (closing depth items.isEmpty mark r) =
      writeRow one (depth + 1) others (closing depth others.isEmpty mark s)) :
    items = others ∧ r = s := by
  cases items with
  | nil =>
    cases others with
    | nil => simpa [writeRow, closing] using h
    | cons b others => simp [writeRow, closing, lineStart, hmark] at h
  | cons a items =>
    cases others with
    | nil => simp [writeRow, closing, lineStart, hmark.symm] at h
    | cons b others =>
      obtain ⟨heq, hclosing⟩ := writeRow_inj hone (by simp) (by simp) h
      exact ⟨heq, by simpa using hclosing⟩

private theorem toldApart_member {depth : Nat} {m n : String × Json}
    (h : ToldApart (write depth) m.2 n.2) : ToldApart (writeMember depth) m n := by
  intro r s hr hs heq
  obtain ⟨hkey, hrest⟩ := writeText_append_inj heq
  simp only [List.cons.injEq, true_and] at hrest
  obtain ⟨hvalue, hrs⟩ := h r s hr hs hrest
  exact ⟨Prod.ext (String.toList_inj.mp hkey) hvalue, hrs⟩

/-- The text of a value determines it, whatever follows. -/
private theorem Integral.toldApart {v w : Json} (hv : v.Integral) (hw : w.Integral) (depth : Nat) :
    ToldApart (write depth) v w := by
  -- The first character settles the shape, so that only equal constructors are left to compare.
  induction hv generalizing w depth with
  | null =>
    intro r s _ _ h
    have hshape := Integral.null.shape_eq hw h
    cases hw with
    | null => simpa [write] using h
    | _ => simp [shape] at hshape
  | bool b =>
    intro r s _ _ h
    have hshape := (Integral.bool b).shape_eq hw h
    cases hw with
    | bool c => cases b <;> cases c <;> simp_all [write]
    | _ => simp [shape] at hshape
  | int n =>
    intro r s hr hs h
    have hshape := (Integral.int n).shape_eq hw h
    cases hw with
    | int m =>
      obtain ⟨rfl, hrs⟩ := signedDecimal_append_inj hr hs h
      exact ⟨rfl, hrs⟩
    | _ => simp [shape] at hshape
  | str t =>
    intro r s _ _ h
    have hshape := (Integral.str t).shape_eq hw h
    cases hw with
    | str u =>
      obtain ⟨htext, hrs⟩ := writeText_append_inj h
      exact ⟨by rw [String.toList_inj.mp htext], hrs⟩
    | _ => simp [shape] at hshape
  | arr items hitems ih =>
    intro r s _ _ h
    have hshape := (Integral.arr items hitems).shape_eq hw h
    cases hw with
    | arr others hothers =>
      rw [write, write, writeItems_eq_writeRow, writeItems_eq_writeRow, List.cons.injEq] at h
      obtain ⟨rfl, hrs⟩ := writeRow_closing_inj (by decide)
        (fun a ha b hb => ih a ha (hothers b hb) _) h.2
      exact ⟨rfl, hrs⟩
    | _ => simp [shape] at hshape
  | obj members hmembers ih =>
    intro r s _ _ h
    have hshape := (Integral.obj members hmembers).shape_eq hw h
    cases hw with
    | obj others hothers =>
      rw [write, write, writeMembers_eq_writeRow, writeMembers_eq_writeRow, List.cons.injEq] at h
      obtain ⟨rfl, hrs⟩ := writeRow_closing_inj (by decide)
        (fun m hm n hn => toldApart_member (ih m hm (hothers n hn) _)) h.2
      exact ⟨rfl, hrs⟩
    | _ => simp [shape] at hshape

private theorem Integral.render_inj {v w : Json} (hv : v.Integral) (hw : w.Integral)
    (h : v.render = w.render) : v = w := by
  have hend : EndsValue ['\n'] := ⟨'\n', [], rfl, Or.inr rfl⟩
  exact (hv.toldApart hw 0 _ _ hend hend (String.ofList_injective h)).1

theorem Integral.document_inj {v w : Json} (hv : v.Integral) (hw : w.Integral) {limit : Nat}
    {text : String} (htext : v.document limit = .ok text) (htext' : w.document limit = .ok text) :
    v = w :=
  hv.render_inj hw
    ((document_eq_ok_iff.mp htext).2.trans (document_eq_ok_iff.mp htext').2.symm)

end ContainerBundle.Json
