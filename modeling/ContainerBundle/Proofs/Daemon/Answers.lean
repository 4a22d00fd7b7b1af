import Mathlib
import ContainerBundle.Daemon
import ContainerBundle.Proofs.Json.Typed
/-!
# What the daemon's commands leave

A question about a container or about the daemon ends in an object or in a fault. Most faults are
the daemon's own and name the question; the ones that are not are told exactly.
-/
namespace ContainerBundle

open Json

/-- Text on the output, or a status and text on the error output. -/
def CommandOutcome.WellFormed : CommandOutcome → Prop
  | .output v => v.IsText
  | .failure status stderr => status.IsInteger ∧ Optional IsText stderr
  | _ => True

namespace Query

def object? : Query → Json → Option Json
  | .container _, .arr (.obj members :: _) => some (.obj members)
  | _, .obj members => some (.obj members)
  | _, _ => none

def Named : Query → Prop
  | .container ref => ref.IsText
  | .info => True

end Query

/-- A fault of the daemon's own, whose message starts with the question. -/
def Fault.Names (query : Query) (fault : Fault) : Prop :=
  (∃ cause, fault = .daemon query cause) ∧
    ∃ cause, fault.message = query.label ++ " failed: " ++ cause

theorem Fault.names_daemon (query : Query) (cause : DaemonFault) :
    (Fault.daemon query cause).Names query :=
  ⟨⟨cause, rfl⟩, cause.message, rfl⟩

/-- The system refuses to start the command for a reason other than a missing file, or the output
holds an integer of too many digits or too deep a nesting. -/
inductive CommandOutcome.Escapes (limits : Json.Limits) : CommandOutcome → Fault → Prop
  | system (cause : OsError) (h : cause.number ≠ OsError.missing.number) :
      Escapes limits (.refused cause) (.system cause)
  | digits (text : String) (count : Nat)
      (h : Json.read limits text = .error (.tooManyDigits count)) :
      Escapes limits (.output (.str text)) (.integer "" (.tooLong count))
  | nesting (text : String) (bracket : Json.Bracket)
      (h : Json.read limits text = .error (.tooDeep bracket)) :
      Escapes limits (.output (.str text)) (.nesting bracket)

private theorem CommandOutcome.Escapes.not_names {limits : Json.Limits} {outcome : CommandOutcome}
    {fault : Fault} (h : outcome.Escapes limits fault) (query : Query) : ¬ fault.Names query := by
  rintro ⟨⟨cause, rfl⟩, _⟩
  cases h

namespace Daemon

variable {d : Daemon} {query : Query} {command : List String}

def object (d : Daemon) : Query → Traced Json
  | .container ref => d.inspect ref
  | .info => d.info

theorem command_of_texts (hhost : d.host.IsText) (hbinary : d.binary.IsText)
    (hquery : query.Named) : ∃ command, d.command query = .ok command := by
  obtain ⟨host, hhost⟩ := hhost
  obtain ⟨binary, hbinary⟩ := hbinary
  cases query with
  | container ref =>
    obtain ⟨ref, rfl⟩ := hquery
    exact ⟨_, by rw [Daemon.command, parts, hhost, hbinary]; rfl⟩
  | info => exact ⟨_, by rw [Daemon.command, parts, hhost, hbinary]; rfl⟩

private theorem ask_of_command (h : d.command query = .ok command) :
    d.ask query = ⟨[.ran command], d.answer query (d.run command)⟩ := by
  rw [ask, h]
  rfl

theorem answer_of_read {text : String} {v : Json} (h : Json.read d.limits text = .ok v) :
    d.answer query (.output (.str text)) = .ok v := by
  simp only [answer, h]

private theorem answer_of_escapes {outcome : CommandOutcome} {fault : Fault}
    (h : outcome.Escapes d.limits fault) :
    d.answer query outcome = .error fault := by
  cases h with
  | system cause h => rw [answer, if_neg h]
  | digits text count h => simp [answer, h]
  | nesting text bracket h => simp [answer, h]

/-- What a command leaves is read, or it is a fault that names the question or escapes. -/
private theorem answer_cases {outcome : CommandOutcome} (hform : outcome.WellFormed)
    (hended : outcome ≠ .interrupted) :
    (∃ text v, outcome = .output (.str text) ∧ Json.read d.limits text = .ok v ∧
      d.answer query outcome = .ok v) ∨
    ∃ fault, d.answer query outcome = .error fault ∧
      (fault.Names query ∨ outcome.Escapes d.limits fault) := by
  cases outcome with
  | output v =>
    obtain ⟨text, rfl⟩ := hform
    cases hread : Json.read d.limits text with
    | ok v => exact Or.inl ⟨text, v, rfl, hread, answer_of_read hread⟩
    | error complaint =>
      refine Or.inr ?_
      cases complaint with
      | malformed complaint offset line column =>
        exact ⟨_, by simp only [answer, hread]; rfl, Or.inl (Fault.names_daemon query _)⟩
      | tooManyDigits count =>
        exact ⟨_, by simp only [answer, hread], Or.inr (.digits text count hread)⟩
      | tooDeep bracket =>
        exact ⟨_, by simp only [answer, hread], Or.inr (.nesting text bracket hread)⟩
  | failure status stderr =>
    obtain ⟨said, hsaid⟩ : ∃ said, stderr.orElse (.str "") = .str said := by
      rcases hform.2 with rfl | ⟨said, rfl⟩
      · exact ⟨"", rfl⟩
      · by_cases hvoid : (Json.str said).isVoid
        · exact ⟨"", by rw [orElse, if_pos hvoid]⟩
        · exact ⟨said, by rw [orElse, if_neg hvoid]⟩
    exact Or.inr ⟨_, by rw [answer, hsaid]; rfl, Or.inl (Fault.names_daemon query _)⟩
  | missing => exact Or.inr ⟨_, rfl, Or.inl (Fault.names_daemon query _)⟩
  | refused cause =>
    by_cases hmissing : cause.number = OsError.missing.number
    · exact Or.inr ⟨_, by rw [answer, if_pos hmissing], Or.inl (Fault.names_daemon query _)⟩
    · exact Or.inr ⟨_, by rw [answer, if_neg hmissing], Or.inr (.system cause hmissing)⟩
  | interrupted => exact absurd rfl hended

private theorem object_of_answer_error {fault : Fault} (hcommand : d.command query = .ok command)
    (h : d.answer query (d.run command) = .error fault) :
    (d.object query).outcome = .error fault := by
  cases query <;>
    simp [object, inspect, info, Traced.outcome_bind, ask_of_command hcommand, h]

private theorem object_of_answer_ok {v : Json} (hcommand : d.command query = .ok command)
    (h : d.answer query (d.run command) = .ok v) :
    (∃ o, query.object? v = some o ∧ (d.object query).outcome = .ok o) ∨
    query.object? v = none ∧ ∃ cause, (d.object query).outcome = .error (.daemon query cause) := by
  cases query with
  | container ref =>
    simp only [object, inspect, Traced.outcome_bind, ask_of_command hcommand, h, ok_bind]
    cases v with
    | arr items =>
      cases items with
      | nil => exact Or.inr ⟨rfl, _, rfl⟩
      | cons v items => cases v <;> simp [Query.object?, objectOf]
    | _ => simp [Query.object?, objectOf]
  | info =>
    have hinfo : (d.object .info).outcome = objectOf .info v := by
      rw [object, info, Traced.outcome_bind, ask_of_command hcommand, h, ok_bind]
      rfl
    cases v <;> simp [hinfo, Query.object?, objectOf]

theorem object_of_read {text : String} {v o : Json} (hcommand : d.command query = .ok command)
    (hrun : d.run command = .output (.str text)) (hread : Json.read d.limits text = .ok v)
    (ho : query.object? v = some o) : (d.object query).outcome = .ok o := by
  have hanswer : d.answer query (d.run command) = .ok v := hrun ▸ answer_of_read hread
  rcases object_of_answer_ok hcommand hanswer with ⟨o', ho', hobject⟩ | ⟨hnone, _⟩
  · rw [hobject, ← Option.some.inj (ho.symm.trans ho')]
  · rw [ho] at hnone
    simp at hnone

/-- A question ends in an object exactly when the output is read as one, and in a fault that does
not name it exactly when the outcome of the command escapes. -/
theorem object_ends (hhost : d.host.IsText) (hbinary : d.binary.IsText) (hquery : query.Named) :
    ∃ command, d.command query = .ok command ∧
      ((d.run command).WellFormed → d.run command ≠ .interrupted →
        (∀ o, (d.object query).outcome = .ok o ↔ ∃ text v, d.run command = .output (.str text) ∧
          Json.read d.limits text = .ok v ∧ query.object? v = some o) ∧
        ∀ fault, (d.object query).outcome = .error fault ∧ ¬ fault.Names query ↔
          (d.run command).Escapes d.limits fault) := by
  obtain ⟨command, hcommand⟩ := command_of_texts hhost hbinary hquery
  refine ⟨command, hcommand, fun hform hended => ?_⟩
  rcases @answer_cases d query _ hform hended with
    ⟨text, v, hrun, hread, hanswer⟩ | ⟨fault, hanswer, hkind⟩
  · -- The output is read: nothing escapes, and an object ends the question well.
    have hescapes : ∀ fault, ¬ (d.run command).Escapes d.limits fault := by
      intro fault h
      rw [answer_of_escapes h] at hanswer
      simp at hanswer
    have hread_iff : ∀ o, (∃ text v, d.run command = .output (.str text) ∧
        Json.read d.limits text = .ok v ∧ query.object? v = some o) ↔ query.object? v = some o := by
      intro o
      constructor
      · rintro ⟨text', w, hrun', hread', ho⟩
        rw [hrun', answer_of_read hread', Except.ok.injEq] at hanswer
        rwa [← hanswer]
      · exact fun ho => ⟨text, v, hrun, hread, ho⟩
    rcases object_of_answer_ok hcommand hanswer with ⟨o, ho, hobject⟩ | ⟨hnone, cause, hobject⟩
    · constructor
      · intro other
        rw [hread_iff, hobject, ho, Except.ok.injEq, Option.some.injEq]
      · intro fault
        simp [hobject, hescapes]
    · constructor
      · intro o
        rw [hread_iff, hobject, hnone]
        simp
      · intro fault
        refine iff_of_false ?_ (hescapes fault)
        rintro ⟨heq, hnames⟩
        rw [hobject, Except.error.injEq] at heq
        exact hnames (heq ▸ Fault.names_daemon query cause)
  · -- The command leaves a fault, which names the question unless it escapes.
    have hobject := object_of_answer_error hcommand hanswer
    constructor
    · intro o
      simp only [hobject, reduceCtorEq, false_iff]
      rintro ⟨text, v, hrun, hread, _⟩
      rw [hrun, answer_of_read hread] at hanswer
      simp at hanswer
    · intro other
      constructor
      · rintro ⟨hother, hnames⟩
        rw [hobject, Except.error.injEq] at hother
        subst hother
        exact hkind.resolve_left hnames
      · intro h
        rw [answer_of_escapes h] at hanswer
        exact ⟨hobject.trans hanswer.symm, h.not_names query⟩

theorem object_ends_in_both_ways :
    let d (outcome : CommandOutcome) : Daemon :=
      { host := .str "unix:///run/docker.sock", binary := .str "docker", run := fun _ => outcome }
    let web := Query.container (.str "web")
    (∃ o, ((d (.output (.str "[\x7b\"Id\": \"web\"\x7d]"))).object web).outcome = .ok o) ∧
      ∃ fault, ((d (.refused ⟨13, "Permission denied"⟩)).object web).outcome = .error fault ∧
        ¬ fault.Names web := by
  intro d web
  constructor
  · have hread : Json.read CommandOutcome.usualLimits "[\x7b\"Id\": \"web\"\x7d]" =
        .ok (.arr [.obj [("Id", .str "web")]]) := by cbv
    obtain ⟨command, _, hends⟩ := @object_ends (d (.output (.str "[\x7b\"Id\": \"web\"\x7d]"))) web
      (isText_str _) (isText_str _) (isText_str _)
    exact ⟨_, ((hends (isText_str _) (fun h => by cases h)).1 _).mpr ⟨_, _, rfl, hread, rfl⟩⟩
  · obtain ⟨command, _, hends⟩ := @object_ends (d (.refused ⟨13, "Permission denied"⟩)) web
      (isText_str _) (isText_str _) (isText_str _)
    exact ⟨_, ((hends trivial (fun h => by cases h)).2 _).mpr (.system _ (by decide))⟩

/-- A command that the system does not let start ends in a fault that names no question. -/
theorem info_of_refused_start :
    let d : Daemon :=
      { host := .str "unix:///run/docker.sock", binary := .str "docker"
        run := fun _ => .refused ⟨13, "Permission denied"⟩ }
    ∃ fault, d.info.outcome = .error fault ∧ ∀ query, ¬ fault.Names query := by
  refine ⟨.system ⟨13, "Permission denied"⟩, rfl, ?_⟩
  rintro query ⟨⟨cause, h⟩, _⟩
  cases h

end Daemon

end ContainerBundle
