import ContainerBundle.Json.Nesting
import ContainerBundle.Proofs.Json.Written
/-!
# Reading written documents

A plain value is read back from its document. The induction is on the value; lists and objects
are read item by item up to their closing lines, with fuel for the length of the text.
-/
namespace ContainerBundle.Json

theorem skipGaps_of_head {c : Char} {s : List Char} (h : isGap c = false) :
    skipGaps (c :: s) = c :: s := by
  simp [skipGaps, h]

theorem skipGaps_lineStart (depth : Nat) (s : List Char) :
    skipGaps (lineStart depth ++ s) = skipGaps s := by
  have hline : ∀ c ∈ lineStart depth, isGap c = true := by
    intro c hc
    rcases List.mem_cons.mp hc with rfl | hc
    · decide
    · rw [(List.mem_replicate.mp hc).2]
      decide
  exact List.dropWhile_append_of_pos hline

private theorem skipGaps_closing (depth : Nat) {mark : Char} (h : isGap mark = false)
    (rest : List Char) :
    skipGaps (lineStart depth ++ mark :: rest) = mark :: rest := by
  rw [skipGaps_lineStart, skipGaps_of_head h]

private theorem Plain.skipGaps_write {v : Json} (h : v.Plain) (depth : Nat) (rest : List Char) :
    skipGaps (write depth v rest) = write depth v rest := by
  obtain ⟨c, s, hhead, hgap, _⟩ := h.write_head depth rest
  rw [hhead, skipGaps_of_head hgap]

theorem EndsValue.separator {rest : List Char} (h : EndsValue rest) {s : List Char} {isLast : Bool}
    (hs : isLast = true → s = rest) : EndsValue (separator isLast ++ s) := by
  cases isLast with
  | true => rwa [hs rfl]
  | false => exact ⟨',', s, rfl, Or.inl rfl⟩

private theorem put_of_not_mem {members : List (String × Json)} {key : String} (v : Json)
    (h : key ∉ members.map Prod.fst) : put members key v = members ++ [(key, v)] := by
  induction members with
  | nil => rfl
  | cons m rest ih =>
    rw [List.map_cons, List.mem_cons, not_or] at h
    have hne : (m.1 == key) = false := by simpa using Ne.symm h.1
    rw [put, hne, if_neg (by decide), ih h.2, List.cons_append]

theorem ofMembers_of_nodup {members : List (String × Json)}
    (h : (members.map Prod.fst).Nodup) : ofMembers members = members := by
  have hfold : ∀ seen, ((seen ++ members).map Prod.fst).Nodup →
      members.foldl (fun seen m => put seen m.1 m.2) seen = seen ++ members := by
    clear h
    induction members with
    | nil => simp
    | cons m rest ih =>
      intro seen hseen
      have hm : m.1 ∉ seen.map Prod.fst := by
        rw [List.map_append, List.nodup_append] at hseen
        exact fun hmem => hseen.2.2 m.1 hmem m.1 (by simp) rfl
      rw [List.foldl_cons, put_of_not_mem m.2 hm, ih _ (by simpa using hseen)]
      simp
  exact hfold [] (by simpa using h)

/-- The value is read back from its text, wherever that stands, with fuel beyond its length. -/
def ReadsBack (digits : Nat) (v : Json) : Prop :=
  ∀ depth fuel nesting rest, EndsValue rest → v.nesting ≤ nesting →
    (write depth v rest).length ≤ rest.length + fuel →
    readValue digits (fuel + 1) nesting (write depth v rest) = .ok (v, rest)

section

variable {digits : Nat} {rest tail : List Char}

private theorem readItems_writeItems {items : List Json} (hplain : ∀ v ∈ items, v.Plain)
    (hback : ∀ v ∈ items, ReadsBack digits v) (hne : items ≠ []) (hrest : EndsValue rest)
    (hclose : skipGaps rest = ']' :: tail) (depth fuel : Nat) {nesting : Nat}
    (hnesting : depthOfItems 0 items ≤ nesting)
    (hfuel : (writeItems depth items rest).length ≤ rest.length + fuel) :
    readItems digits (fuel + 1) nesting (skipGaps (writeItems depth items rest)) =
      .ok (items, tail) := by
  induction items generalizing fuel with
  | nil => exact absurd rfl hne
  | cons v others ih =>
    obtain ⟨hv, hothers⟩ := List.forall_mem_cons.mp hback
    have hlast : others.isEmpty = true → writeItems depth others rest = rest := by
      intro hempty
      rw [List.isEmpty_iff.mp hempty, writeItems]
    have hlength := length_le_write depth v (separator others.isEmpty ++ writeItems depth others rest)
    have hmore := length_le_writeItems depth others rest
    rw [depthOfItems, Nat.max_le] at hnesting
    rw [writeItems] at hfuel ⊢
    rw [skipGaps_lineStart, (hplain v (by simp)).skipGaps_write]
    -- The start of the item's line is worth the fuel of the step to the next item.
    simp only [List.length_append, lineStart, List.length_cons] at hfuel hlength
    obtain ⟨fuel, rfl⟩ : ∃ f, fuel = f + 1 := ⟨fuel - 1, by omega⟩
    rw [readItems, hv depth fuel nesting _ (hrest.separator hlast) hnesting.1
      (by rw [List.length_append]; omega)]
    simp only
    cases others with
    | nil =>
      simp [separator, writeItems, hclose]
    | cons w more =>
      have hskip : skipGaps (separator (w :: more).isEmpty ++ writeItems depth (w :: more) rest) =
          ',' :: writeItems depth (w :: more) rest := skipGaps_of_head (by decide)
      have hothers := ih (fun u hu => hplain u (by simp [hu])) hothers (by simp) fuel
        hnesting.2 (by omega)
      rw [hskip]
      simp [hothers]

private theorem readMembers_writeMembers {members : List (String × Json)}
    (hplain : ∀ m ∈ members, m.2.Plain) (hback : ∀ m ∈ members, ReadsBack digits m.2)
    (hne : members ≠ []) (hrest : EndsValue rest) (hclose : skipGaps rest = '\x7d' :: tail)
    (depth fuel : Nat) {nesting : Nat} (hnesting : depthOfMembers 0 members ≤ nesting)
    (hfuel : (writeMembers depth members rest).length ≤ rest.length + fuel) :
    readMembers digits (fuel + 1) nesting (skipGaps (writeMembers depth members rest)) =
      .ok (members, tail) := by
  induction members generalizing fuel with
  | nil => exact absurd rfl hne
  | cons m others ih =>
    obtain ⟨key, v⟩ := m
    obtain ⟨hv, hothers⟩ := List.forall_mem_cons.mp hback
    have hv : ReadsBack digits v := hv
    have hvplain : v.Plain := hplain (key, v) (by simp)
    have hlast : others.isEmpty = true → writeMembers depth others rest = rest := by
      intro hempty
      rw [List.isEmpty_iff.mp hempty, writeMembers]
    have hlength :=
      length_le_write depth v (separator others.isEmpty ++ writeMembers depth others rest)
    have hmore := length_le_writeMembers depth others rest
    rw [depthOfMembers, Nat.max_le] at hnesting
    rw [writeMembers] at hfuel ⊢
    rw [skipGaps_lineStart, writeText, List.cons_append, skipGaps_of_head (by decide)]
    simp only [List.length_append, lineStart, List.length_cons] at hfuel hlength
    obtain ⟨fuel, rfl⟩ : ∃ f, fuel = f + 1 := ⟨fuel - 1, by omega⟩
    rw [readMembers, if_neg (by simp), List.append_assoc, List.singleton_append, readText_written]
    simp only [skipGaps_of_head (show isGap ':' = false by decide)]
    have hvalue : skipGaps (' ' :: write depth v
        (separator others.isEmpty ++ writeMembers depth others rest)) =
        write depth v (separator others.isEmpty ++ writeMembers depth others rest) :=
      hvplain.skipGaps_write depth _
    rw [hvalue, hv depth fuel nesting _ (hrest.separator hlast) hnesting.1
      (by rw [List.length_append]; omega)]
    simp only
    cases others with
    | nil =>
      simp [separator, writeMembers, hclose]
    | cons w more =>
      have hskip : skipGaps (separator (w :: more).isEmpty ++ writeMembers depth (w :: more) rest) =
          ',' :: writeMembers depth (w :: more) rest := skipGaps_of_head (by decide)
      have hothers := ih (fun u hu => hplain u (by simp [hu])) hothers (by simp) fuel
        hnesting.2 (by omega)
      rw [hskip]
      simp [hothers]

private theorem readValue_scalar {c : Char} {s : List Char} (fuel nesting : Nat)
    (htext : c ≠ Text.doubleQuote) (hlist : c ≠ '[') (hobject : c ≠ '\x7b') :
    readValue digits (fuel + 1) nesting (c :: s) = readScalar digits (c :: s) := by
  rw [readValue.eq_def]
  simp only [if_neg htext, if_neg hlist, if_neg hobject]

private theorem endsValue_lineStart (depth : Nat) (s : List Char) :
    EndsValue (lineStart depth ++ s) :=
  ⟨'\n', _, rfl, Or.inr rfl⟩

private theorem readsBack_arr {items : List Json} (hplain : ∀ v ∈ items, v.Plain)
    (hback : ∀ v ∈ items, ReadsBack digits v) : ReadsBack digits (arr items) := by
  intro depth fuel nesting rest _ hnesting hfuel
  rw [Json.nesting, Json.depth] at hnesting
  rw [write, List.length_cons] at hfuel
  rw [write]
  obtain ⟨inner, rfl⟩ : ∃ n, nesting = n + 1 := ⟨nesting - 1, by omega⟩
  have hlength := length_le_writeItems (depth + 1) items (closing depth items.isEmpty ']' rest)
  cases items with
  | nil =>
    have hclose : skipGaps (']' :: rest) = ']' :: rest := skipGaps_of_head (by decide)
    rw [readValue, if_neg (by decide), if_pos rfl]
    simp [writeItems, closing, hclose]
  | cons v others =>
    have hclosing : closing depth (v :: others).isEmpty ']' rest =
        lineStart depth ++ ']' :: rest := rfl
    rw [hclosing] at hfuel hlength ⊢
    rw [List.length_append, List.length_cons] at hlength
    obtain ⟨fuel, rfl⟩ : ∃ f, fuel = f + 1 := ⟨fuel - 1, by omega⟩
    have hclose := skipGaps_closing depth (show isGap ']' = false by decide) rest
    have hitems := readItems_writeItems hplain hback (by simp) (endsValue_lineStart depth _) hclose
      (depth + 1) fuel (Nat.le_of_succ_le_succ hnesting)
      (by rw [List.length_append, List.length_cons]; omega)
    obtain ⟨c, s, hhead, hgap, hc⟩ := (hplain v (by simp)).write_head (depth + 1)
      (separator others.isEmpty ++ writeItems (depth + 1) others (lineStart depth ++ ']' :: rest))
    rw [writeItems, skipGaps_lineStart, hhead, skipGaps_of_head hgap] at hitems
    rw [readValue, if_neg (by decide), if_pos rfl]
    simp only [writeItems, skipGaps_lineStart, hhead, skipGaps_of_head hgap, if_neg hc, hitems]

private theorem readsBack_obj {members : List (String × Json)}
    (hkeys : (members.map Prod.fst).Nodup) (hplain : ∀ m ∈ members, m.2.Plain)
    (hback : ∀ m ∈ members, ReadsBack digits m.2) : ReadsBack digits (obj members) := by
  intro depth fuel nesting rest _ hnesting hfuel
  rw [Json.nesting, Json.depth] at hnesting
  rw [write, List.length_cons] at hfuel
  rw [write]
  obtain ⟨inner, rfl⟩ : ∃ n, nesting = n + 1 := ⟨nesting - 1, by omega⟩
  have hlength :=
    length_le_writeMembers (depth + 1) members (closing depth members.isEmpty '\x7d' rest)
  cases members with
  | nil =>
    have hclose : skipGaps ('\x7d' :: rest) = '\x7d' :: rest := skipGaps_of_head (by decide)
    rw [readValue, if_neg (by decide), if_neg (by decide), if_pos rfl]
    simp [writeMembers, closing, hclose]
  | cons m others =>
    obtain ⟨key, v⟩ := m
    have hclosing : closing depth ((key, v) :: others).isEmpty '\x7d' rest =
        lineStart depth ++ '\x7d' :: rest := rfl
    rw [hclosing] at hfuel hlength ⊢
    rw [List.length_append, List.length_cons] at hlength
    obtain ⟨fuel, rfl⟩ : ∃ f, fuel = f + 1 := ⟨fuel - 1, by omega⟩
    have hclose := skipGaps_closing depth (show isGap '\x7d' = false by decide) rest
    have hmembers := readMembers_writeMembers hplain hback (by simp) (endsValue_lineStart depth _)
      hclose (depth + 1) fuel (Nat.le_of_succ_le_succ hnesting)
      (by rw [List.length_append, List.length_cons]; omega)
    have hquote : ∀ s, skipGaps (Text.doubleQuote :: s) = Text.doubleQuote :: s :=
      fun s => skipGaps_of_head (by decide)
    rw [writeMembers, skipGaps_lineStart, writeText, List.cons_append, hquote] at hmembers
    rw [readValue, if_neg (by decide), if_neg (by decide), if_pos rfl]
    simp only [writeMembers, skipGaps_lineStart, writeText, List.cons_append, hquote,
      if_neg (show Text.doubleQuote ≠ '\x7d' by decide), hmembers, ofMembers_of_nodup hkeys]

/-- Every plain value is read back. -/
private theorem Plain.readsBack {v : Json} (h : v.Plain) (hdigits : Text.digitLimit ≤ digits) :
    ReadsBack digits v := by
  induction h with
  | arr items hitems ih => exact readsBack_arr hitems ih
  | obj members hkeys hmembers ih => exact readsBack_obj hkeys hmembers ih
  | null =>
    intro depth fuel nesting rest _ _ _
    exact readValue_scalar fuel nesting (by decide) (by decide) (by decide)
  | bool b =>
    intro depth fuel nesting rest _ _ _
    cases b <;> exact readValue_scalar fuel nesting (by decide) (by decide) (by decide)
  | int n hn =>
    intro depth fuel nesting rest hrest _ _
    obtain ⟨c, s, hdecimal, hc⟩ := Text.signedDecimal_head n
    have hne : ∀ mark, mark ≠ '-' → Text.isAsciiDigit mark = false → c ≠ mark := by
      intro mark hminus hmark
      rcases hc with rfl | hdigit
      · exact hminus.symm
      · exact Text.ne_of_class hdigit hmark
    rw [write, ← readScalar_signedDecimal (Nat.le_trans hn hdigits) hrest, hdecimal]
    exact readValue_scalar fuel nesting (hne _ (by decide) (by decide))
      (hne _ (by decide) (by decide)) (hne _ (by decide) (by decide))
  | str s =>
    intro depth fuel nesting rest _ _ _
    rw [write, writeText, List.cons_append, List.append_assoc, List.singleton_append,
      readValue.eq_def]
    simp only [if_pos, readText_written]
    simp

end

private theorem Plain.read_render {v : Json} (h : v.Plain) {limits : Limits}
    (hdigits : Text.digitLimit ≤ limits.digits) (hnesting : v.nesting ≤ limits.nesting) :
    read limits v.render = .ok v := by
  obtain ⟨c, s, hhead, hgap, _⟩ := h.write_head 0 ['\n']
  have hascii := h.writesAscii 0 ['\n'] (by simp [Ascii])
  have hback := h.readsBack hdigits 0 (2 * (write 0 v ['\n']).length + 1) limits.nesting ['\n']
    ⟨'\n', [], rfl, Or.inr rfl⟩ hnesting (by omega)
  rw [hhead] at hascii hback
  have hmark : c.toNat ≠ 0xFEFF := by
    have := hascii c (by simp)
    omega
  rw [read, render, String.toList_ofList, hhead, readDocument, if_neg hmark, skipGaps_of_head hgap,
    hback]
  rfl

/-- A plain value has a document exactly when there is room for its levels, and then nothing is
lost: every reader that admits its integers and its nesting reads it back. -/
theorem document_reads_back {v : Json} (h : v.Plain) (limit : Nat) :
    (limit < v.levels → v.document limit = .error .overNested) ∧
    (v.levels ≤ limit → ∃ text, v.document limit = .ok text ∧
      (∀ limits : Limits, Text.digitLimit ≤ limits.digits → v.nesting ≤ limits.nesting →
        read limits text = .ok v) ∧
      Ascii text.toList ∧
      ∃ body, text.toList = body ++ ['\n'] ∧ body.getLast? ≠ some '\n') := by
  constructor
  · intro hdeep
    rw [document, bounded, if_neg (Nat.not_le.mpr hdeep)]
    rfl
  · intro hflat
    refine ⟨v.render, document_eq_ok_iff.mpr ⟨hflat, rfl⟩,
      fun limits hdigits hnesting => h.read_render hdigits hnesting, ?_, write 0 v [], ?_,
      h.write_last 0⟩
    · rw [render, String.toList_ofList]
      exact h.writesAscii 0 ['\n'] (by simp [Ascii])
    · rw [render, String.toList_ofList, ← write_append, List.nil_append]

theorem document_reads_back_of_mixed :
    let v : Json := .obj [("text", .str "a\n\\ü😀"), ("list", .arr [.null, .bool true, .int (-12)]),
      ("empty", .obj [])]
    v.Plain ∧ (∃ text, v.document 3 = .ok text ∧ read ⟨Text.digitLimit, 2⟩ text = .ok v) ∧
      v.document 2 = .error .overNested := by
  intro v
  have hlist : (arr [.null, .bool true, .int (-12)]).Plain := by
    apply Plain.arr
    simp only [List.forall_mem_cons]
    exact ⟨.null, .bool true, .int _ (by decide), by simp⟩
  have hplain : v.Plain := by
    apply Plain.obj _ (by decide)
    simp only [List.forall_mem_cons]
    exact ⟨.str _, hlist, .obj _ (by simp) (by simp), by simp⟩
  have hlevels : v.levels = 3 := by decide
  obtain ⟨text, hdocument, hread, _⟩ := (document_reads_back hplain 3).2 (by omega)
  exact ⟨hplain, ⟨text, hdocument, hread _ (Nat.le_refl _) (by decide)⟩,
    (document_reads_back hplain 2).1 (by omega)⟩

def nested : Nat → Json
  | 0 => arr []
  | depth + 1 => arr [nested depth]

private theorem levels_nested (n : Nat) : (nested n).levels = n + 1 := by
  induction n with
  | zero => rfl
  | succ n ih =>
    rw [levels] at ih
    simp [nested, levels, depth, depthOfItems, ih]

private theorem plain_nested (n : Nat) : (nested n).Plain := by
  induction n with
  | zero => exact .arr [] (by simp)
  | succ n ih => exact .arr [nested n] (by simpa using ih)

/-- Eight hundred lists inside each other are a plain value without a document. -/
theorem document_of_nested_lists :
    (nested 799).Plain ∧ (nested 799).document = .error .overNested := by
  refine ⟨plain_nested 799, ?_⟩
  rw [document, bounded, levels_nested, if_neg (by decide)]
  rfl

end ContainerBundle.Json
