import Mathlib.Data.List.Basic
import ContainerBundle.Proofs.Text.Splitting
/-!
# Words of a text

The words of a text are its maximal runs of characters that are not blank. A text has one row of
runs, so that however a row of tokens is laid out with blanks between and around them, the tokens
are what is read back.
-/
namespace ContainerBundle.Text

def IsGap (s : List Char) : Prop := ∀ c ∈ s, isBlank c

structure IsToken (s : List Char) : Prop where
  ne_nil : s ≠ []
  solid : ∀ c ∈ s, isBlank c = false

/-- What stands before a run are blanks, and a blank or the end of the text stands behind it. -/
inductive Runs : List Char → List (List Char) → Prop
  | blank {gap : List Char} (hgap : IsGap gap) : Runs gap []
  | run {gap run rest : List Char} {runs : List (List Char)} (hgap : IsGap gap) (hrun : IsToken run)
      (hends : ∀ c ∈ rest.head?, isBlank c) (hrest : Runs rest runs) :
      Runs (gap ++ (run ++ rest)) (run :: runs)

variable {gap run rest s : List Char} {runs : List (List Char)}

private theorem words_cons_of_blank {c : Char} (hc : isBlank c) (s : List Char) :
    words (c :: s) = words s := by
  simp [words, fields, hc]

private theorem words_of_gap (hgap : IsGap gap) : words gap = [] := by
  induction gap with
  | nil => rfl
  | cons c others ih =>
    obtain ⟨hc, hothers⟩ := List.forall_mem_cons.mp hgap
    rw [words_cons_of_blank hc, ih hothers]

private theorem words_append_of_gap (hgap : IsGap gap) (s : List Char) :
    words (gap ++ s) = words s := by
  induction gap with
  | nil => rfl
  | cons c others ih =>
    obtain ⟨hc, hothers⟩ := List.forall_mem_cons.mp hgap
    rw [List.cons_append, words_cons_of_blank hc, ih hothers]

private theorem words_append_of_token (hrun : IsToken run) (hends : ∀ c ∈ rest.head?, isBlank c) :
    words (run ++ rest) = run :: words rest := by
  have hne : run.isEmpty = false := by simpa using hrun.ne_nil
  rw [words, fields_append_of_free hrun.solid, words]
  cases rest with
  | nil => simp [fields, hne]
  | cons c tail =>
    have hc : isBlank c := hends c (by simp)
    simp [fields, hc, hne]

theorem words_of_runs (h : Runs s runs) : words s = runs := by
  induction h with
  | blank hgap => exact words_of_gap hgap
  | run hgap hrun hends _ ih =>
    rw [words_append_of_gap hgap, words_append_of_token hrun hends, ih]

private theorem exists_span (p : Char → Bool) (s : List Char) :
    ∃ front back, s = front ++ back ∧ (∀ c ∈ front, p c) ∧ ∀ c ∈ back.head?, p c = false := by
  refine ⟨s.takeWhile p, s.dropWhile p, List.takeWhile_append_dropWhile.symm, ?_, ?_⟩
  · exact fun c hc => List.mem_takeWhile_imp hc
  · intro c hc
    have hhead := List.head?_dropWhile_not p s
    rw [Option.mem_def.mp hc] at hhead
    simpa using hhead

private theorem gap_or_run (s : List Char) : IsGap s ∨ ∃ gap run rest, s = gap ++ (run ++ rest) ∧
    IsGap gap ∧ IsToken run ∧ ∀ c ∈ rest.head?, isBlank c := by
  obtain ⟨gap, body, rfl, hgap, hbody⟩ := exists_span isBlank s
  obtain ⟨run, rest, rfl, hrun, hrest⟩ := exists_span (fun c => !isBlank c) body
  cases run with
  | nil =>
    have hempty : rest = [] := by
      cases rest with
      | nil => rfl
      | cons c tail => simp_all
    left
    rw [hempty, List.append_nil, List.append_nil]
    exact hgap
  | cons c others =>
    right
    refine ⟨gap, c :: others, rest, rfl, hgap, ⟨List.cons_ne_nil c others, ?_⟩, ?_⟩
    · simpa using hrun
    · simpa using hrest

theorem exists_runs (s : List Char) : ∃ runs, Runs s runs := by
  -- By the length: what stands behind the first run is shorter.
  induction hlength : s.length using Nat.strong_induction_on generalizing s with
  | h n ih =>
    rcases gap_or_run s with hgap | ⟨gap, run, rest, rfl, hgap, hrun, hends⟩
    · exact ⟨[], .blank hgap⟩
    · have hpos : 0 < run.length := List.length_pos_iff.mpr hrun.ne_nil
      have hshorter : rest.length < n := by
        simp only [List.length_append] at hlength
        omega
      obtain ⟨runs, hrest⟩ := ih rest.length hshorter rest rfl
      exact ⟨run :: runs, .run hgap hrun hends hrest⟩

theorem words_eq_iff : words s = runs ↔ Runs s runs := by
  constructor
  · intro h
    obtain ⟨others, hothers⟩ := exists_runs s
    rw [← h, words_of_runs hothers]
    exact hothers
  · exact words_of_runs

theorem Runs.ne_nil_iff (h : Runs s runs) : runs ≠ [] ↔ ∃ c ∈ s, isBlank c = false := by
  cases h with
  | blank hgap =>
    simp only [ne_eq, not_true_eq_false, false_iff, not_exists, not_and, Bool.not_eq_false]
    exact hgap
  | run _ hrun _ _ =>
    obtain ⟨c, hc⟩ := List.exists_mem_of_ne_nil _ hrun.ne_nil
    simp only [ne_eq, reduceCtorEq, not_false_eq_true, true_iff]
    exact ⟨c, by simp [hc], hrun.solid c hc⟩

structure SpacedToken where
  gap : List Char
  token : List Char
  gap_ne : gap ≠ []
  blank : IsGap gap
  solid : IsToken token

/-- A row of tokens with any choice of blanks between them and around them. -/
structure Layout where
  lead : List Char
  first : List Char
  later : List SpacedToken
  trail : List Char
  lead_blank : IsGap lead
  first_solid : IsToken first
  trail_blank : IsGap trail

namespace Layout

def tokens (l : Layout) : List (List Char) := l.first :: l.later.map (·.token)

def text (l : Layout) : List Char :=
  l.lead ++ (l.first ++ (l.later.flatMap (fun t => t.gap ++ t.token) ++ l.trail))

theorem runs_text (l : Layout) : Runs l.text l.tokens := by
  obtain ⟨lead, first, later, trail, hlead, hfirst, htrail⟩ := l
  simp only [text, tokens]
  induction later generalizing lead first with
  | nil =>
    apply Runs.run hlead hfirst
    · exact fun c hc => htrail c (List.mem_of_mem_head? hc)
    · exact Runs.blank htrail
  | cons t others ih =>
    rw [List.flatMap_cons, List.append_assoc, List.append_assoc]
    apply Runs.run hlead hfirst
    · intro c hc
      rw [List.head?_append_of_ne_nil _ t.gap_ne] at hc
      exact t.blank c (List.mem_of_mem_head? hc)
    · exact ih t.gap t.token t.blank t.solid

end Layout

end ContainerBundle.Text
