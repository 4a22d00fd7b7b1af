import ContainerBundle.Hook
import ContainerBundle.Proofs.Text.Words
/-!
# Reading a hook declaration

A declaration is the label of a phase, a colon and a command that is not all blank; the label is
spelled to the letter and ends at the first colon. The executable and its arguments are the words
of the command, so that a declaration written with any blanks between them and around them is read
as it was meant.
-/
namespace ContainerBundle

namespace Phase

private theorem ofLabel?_eq_some_iff {label : String} {phase : Phase} :
    ofLabel? label = some phase ↔ phase.label = label := by
  constructor
  · intro h
    simpa using List.find?_some h
  · rintro rfl
    cases phase <;> rfl

private theorem mem_labels_iff {label : String} :
    label ∈ ["prestart", "poststart", "poststop"] ↔ ∃ phase : Phase, phase.label = label := by
  constructor
  · intro h
    simp only [List.mem_cons, List.not_mem_nil, or_false] at h
    rcases h with rfl | rfl | rfl
    · exact ⟨prestart, rfl⟩
    · exact ⟨poststart, rfl⟩
    · exact ⟨poststop, rfl⟩
  · rintro ⟨phase, rfl⟩
    cases phase <;> simp [label]

private theorem colon_not_mem_label (phase : Phase) : ':' ∉ phase.label.toList := by
  cases phase <;> decide

end Phase

namespace HookDeclaration

variable {raw : String} {d : HookDeclaration} {phase : Phase} {command : List Char}

def tokens (d : HookDeclaration) : List String := d.executable :: d.args

/-- Behind the label and the first colon stands the command, whose runs are what is executed. -/
structure Reads (raw : String) (d : HookDeclaration) (command : List Char) : Prop where
  raw_eq : d.raw = raw
  written : raw.toList = d.phase.label.toList ++ ':' :: command
  runs : Text.Runs command (d.tokens.map String.toList)

private theorem cut?_of_phase (h : raw.toList = phase.label.toList ++ ':' :: command) :
    Text.cut? ':' raw.toList = some (phase.label.toList, command) :=
  Text.cut?_eq_some_iff.mpr ⟨h, phase.colon_not_mem_label⟩

private theorem Reads.parse_eq (h : Reads raw d command) : parse raw = .ok d := by
  have hlabel : Phase.ofLabel? (String.ofList d.phase.label.toList) = some d.phase := by
    rw [String.ofList_toList]
    exact Phase.ofLabel?_eq_some_iff.mpr rfl
  have hwords : Text.words command = d.executable.toList :: d.args.map String.toList :=
    Text.words_eq_iff.mpr h.runs
  have hargs : (d.args.map String.toList).map String.ofList = d.args := by
    simp [Function.comp_def]
  rw [parse, cut?_of_phase h.written]
  simp only [hlabel, hwords]
  rw [String.ofList_toList, hargs, ← h.raw_eq]

private theorem exists_reads (h : parse raw = .ok d) : ∃ command, Reads raw d command := by
  rw [parse] at h
  cases hcut : Text.cut? ':' raw.toList with
  | none => simp [hcut] at h
  | some sides =>
    obtain ⟨label, command⟩ := sides
    obtain ⟨hwritten, -⟩ := Text.cut?_eq_some_iff.mp hcut
    simp only [hcut] at h
    cases hphase : Phase.ofLabel? (String.ofList label) with
    | none => simp [hphase] at h
    | some phase =>
      have hlabel : phase.label.toList = label := by
        rw [Phase.ofLabel?_eq_some_iff.mp hphase, String.toList_ofList]
      simp only [hphase] at h
      cases hwords : Text.words command with
      | nil => simp [hwords] at h
      | cons executable args =>
        simp only [hwords, Except.ok.injEq] at h
        subst h
        refine ⟨command, rfl, by rw [hlabel, hwritten], ?_⟩
        have htokens : (String.ofList executable :: args.map String.ofList).map String.toList =
            executable :: args := by
          simp [Function.comp_def]
        rw [tokens, htokens]
        exact Text.words_eq_iff.mp hwords

private theorem parse_eq_ok_iff : parse raw = .ok d ↔ ∃ command, Reads raw d command := by
  constructor
  · exact exists_reads
  · rintro ⟨command, h⟩
    exact h.parse_eq

private theorem exists_reads_iff (h : raw.toList = phase.label.toList ++ ':' :: command) :
    (∃ d, Reads raw d command) ↔ ∃ c ∈ command, Text.isBlank c = false := by
  obtain ⟨runs, hruns⟩ := Text.exists_runs command
  rw [← hruns.ne_nil_iff]
  constructor
  · rintro ⟨d, hd⟩ hnone
    have hsame : runs = d.tokens.map String.toList := by
      rw [← Text.words_of_runs hruns, Text.words_of_runs hd.runs]
    rw [hnone] at hsame
    simp [tokens] at hsame
  · intro hne
    obtain ⟨executable, args, rfl⟩ := List.exists_cons_of_ne_nil hne
    refine ⟨⟨raw, phase, String.ofList executable, args.map String.ofList⟩, rfl, h, ?_⟩
    simpa [tokens, Function.comp_def] using hruns

private theorem exists_parse_iff : (∃ d, parse raw = .ok d) ↔
    ∃ label command, raw.toList = label ++ ':' :: command ∧ ':' ∉ label ∧
      String.ofList label ∈ ["prestart", "poststart", "poststop"] ∧
      ∃ c ∈ command, Text.isBlank c = false := by
  constructor
  · rintro ⟨d, hd⟩
    obtain ⟨command, hreads⟩ := exists_reads hd
    refine ⟨d.phase.label.toList, command, hreads.written, d.phase.colon_not_mem_label, ?_, ?_⟩
    · rw [String.ofList_toList]
      exact Phase.mem_labels_iff.mpr ⟨d.phase, rfl⟩
    · exact (exists_reads_iff hreads.written).mp ⟨d, hreads⟩
  · rintro ⟨label, command, hwritten, -, hlabel, hmark⟩
    obtain ⟨phase, hphase⟩ := Phase.mem_labels_iff.mp hlabel
    have hwhole : raw.toList = phase.label.toList ++ ':' :: command := by
      rw [hphase, String.toList_ofList, hwritten]
    obtain ⟨d, hreads⟩ := (exists_reads_iff hwhole).mpr hmark
    exact ⟨d, hreads.parse_eq⟩

/-- A phase and a row of tokens, with the blanks of a layout. -/
def writtenOut (phase : Phase) (layout : Text.Layout) : HookDeclaration where
  raw := String.ofList (phase.label.toList ++ ':' :: layout.text)
  phase
  executable := String.ofList layout.first
  args := layout.later.map fun t => String.ofList t.token

private theorem parse_writtenOut (phase : Phase) (layout : Text.Layout) :
    parse (writtenOut phase layout).raw = .ok (writtenOut phase layout) := by
  have hruns : Text.Runs layout.text ((writtenOut phase layout).tokens.map String.toList) := by
    simpa [tokens, writtenOut, Text.Layout.tokens, Function.comp_def] using layout.runs_text
  have hreads : Reads (writtenOut phase layout).raw (writtenOut phase layout) layout.text :=
    ⟨rfl, String.toList_ofList, hruns⟩
  exact hreads.parse_eq

/-- A text is read exactly when a label stands before its first colon and what follows is not all
blank. A phase with a row of tokens, laid out with any blanks, is read back. -/
theorem parse_by_grammar :
    (∀ raw, (∃ d, parse raw = .ok d) ↔ ∃ label command, raw.toList = label ++ ':' :: command ∧
      ':' ∉ label ∧ String.ofList label ∈ ["prestart", "poststart", "poststop"] ∧
      ∃ c ∈ command, Text.isBlank c = false) ∧
    (∀ raw d, parse raw = .ok d ↔ ∃ command, Reads raw d command) ∧
    ∀ phase layout, parse (writtenOut phase layout).raw = .ok (writtenOut phase layout) :=
  ⟨fun _ => exists_parse_iff, fun _ _ => parse_eq_ok_iff, parse_writtenOut⟩

example : parse "poststop:\u2003/bin/clean\x1f--only  a:b\n" =
    .ok ⟨"poststop:\u2003/bin/clean\x1f--only  a:b\n", .poststop, "/bin/clean",
      ["--only", "a:b"]⟩ := by
  cbv

end HookDeclaration

end ContainerBundle
