import ContainerBundle.Daemon
import ContainerBundle.Proofs.Events
/-!
# Steps that ask the daemon

A run asks the daemon in steps. A step issues one command or none, and behind a step that does not
end well no other is taken. So the commands that are issued are those of the steps up to the first
that does not end well.
-/
namespace ContainerBundle

/-- A step of a run: the command that it issues, if any, and whether it ends well. -/
structure DaemonStep where
  command : Option (List String)
  endsWell : Bool

namespace DaemonStep

def planned (plan : List DaemonStep) : List (List String) := plan.filterMap (·.command)

/-- The commands that are issued on a plan. A step that does not end well is the last one. -/
def issued : List DaemonStep → List (List String)
  | [] => []
  | step :: rest => step.command.toList ++ if step.endsWell then issued rest else []

variable {plan front back : List DaemonStep} {step : DaemonStep}

private theorem planned_cons : planned (step :: plan) = step.command.toList ++ planned plan := by
  cases hcommand : step.command <;> simp [planned, hcommand]

private theorem issued_append (front back : List DaemonStep) :
    issued (front ++ back) =
      issued front ++ if front.all (·.endsWell) then issued back else [] := by
  induction front with
  | nil => simp [issued]
  | cons step rest ih =>
    cases hends : step.endsWell with
    | true => simp [issued, hends, ih]
    | false => simp [issued, hends]

theorem issued_prefix (plan : List DaemonStep) : issued plan <+: planned plan := by
  induction plan with
  | nil => exact List.prefix_rfl
  | cons step rest ih =>
    rw [issued, planned_cons, List.prefix_append_right_inj]
    cases step.endsWell with
    | true => exact ih
    | false => exact List.nil_prefix

theorem issued_of_all (h : ∀ step ∈ plan, step.endsWell) : issued plan = planned plan := by
  induction plan with
  | nil => rfl
  | cons step rest ih =>
    obtain ⟨hstep, hrest⟩ := List.forall_mem_cons.mp h
    rw [issued, planned_cons, if_pos hstep, ih hrest]

theorem issued_of_failed (h : step.endsWell = false) :
    issued (front ++ step :: back) = issued (front ++ [step]) := by
  have hstep : issued (step :: back) = issued [step] := by simp [issued, h]
  rw [issued_append, issued_append, hstep]

end DaemonStep

open DaemonStep

theorem commands_append (first second : List Event) :
    commands (first ++ second) = commands first ++ commands second :=
  List.filterMap_append

/-- A run that takes the steps of a plan. -/
structure Traced.Takes (x : Traced α) (plan : List DaemonStep) : Prop where
  commands : commands x.events = issued plan
  ends : x.outcome.isOk = plan.all (·.endsWell)

namespace Traced

variable {x : Traced α} {f : α → Traced β} {plan rest : List DaemonStep}

theorem Takes.commands_bind (hx : x.Takes plan)
    (hf : ∀ a, x.outcome = .ok a → ContainerBundle.commands (f a).events = issued rest) :
    ContainerBundle.commands (x >>= f).events = issued (plan ++ rest) := by
  have hends := hx.ends
  rw [issued_append]
  cases h : x.outcome with
  | error fault =>
    rw [h] at hends
    rw [bind_of_error h, hx.commands, ← hends]
    exact (List.append_nil _).symm
  | ok a =>
    rw [h] at hends
    rw [events_bind_of_ok h, commands_append, hx.commands, hf a h, ← hends]
    rfl

theorem Takes.bind (hx : x.Takes plan) (hf : ∀ a, x.outcome = .ok a → (f a).Takes rest) :
    (x >>= f).Takes (plan ++ rest) where
  commands := hx.commands_bind fun a ha => (hf a ha).commands
  ends := by
    have hends := hx.ends
    rw [outcome_bind, List.all_append, ← hends]
    cases h : x.outcome with
    | error fault => rfl
    | ok a =>
      rw [ok_bind, (hf a h).ends]
      rfl

theorem takes_of_commands {command : Option (List String)}
    (h : commands x.events = command.toList) : x.Takes [⟨command, x.outcome.isOk⟩] where
  commands := by
    rw [h, issued, issued, ite_self, List.append_nil]
  ends := by simp

theorem takes_pure (a : α) : (pure a : Traced α).Takes [] := ⟨rfl, rfl⟩

theorem takes_fail (fault : Fault) : (fail fault : Traced α).Takes [⟨none, false⟩] := ⟨rfl, rfl⟩

end Traced

def inspection (host binary ref : String) : List String :=
  [binary, "-H", host, "inspect", "--type", "container", ref]

def information (host binary : String) : List String :=
  [binary, "-H", host, "info", "--format", "\x7b\x7bjson .\x7d\x7d"]

namespace Daemon

variable {host binary : String} {run : List String → CommandOutcome} {limits : Json.Limits}

abbrev named (host binary : String) (run : List String → CommandOutcome) (limits : Json.Limits) :
    Daemon :=
  ⟨.str host, .str binary, run, limits⟩

private theorem ask_events (d : Daemon) {query : Query} {command : List String}
    (h : d.command query = .ok command) : (d.ask query).events = [.ran command] := by
  rw [ask, h]
  rfl

theorem commands_inspect (ref : String) :
    commands ((named host binary run limits).inspect (.str ref)).events =
      [inspection host binary ref] := by
  have hask : ((named host binary run limits).ask (.container (.str ref))).events =
      [.ran (inspection host binary ref)] := ask_events _ rfl
  rw [inspect]
  cases h : ((named host binary run limits).ask (.container (.str ref))).outcome with
  | error fault =>
    rw [Traced.bind_of_error h, hask]
    rfl
  | ok v =>
    rw [Traced.events_bind_of_ok h, hask]
    split <;> rfl

private theorem commands_info :
    commands (named host binary run limits).info.events = [information host binary] := by
  have hask : ((named host binary run limits).ask .info).events = [.ran (information host binary)] :=
    ask_events _ rfl
  rw [info]
  cases h : ((named host binary run limits).ask .info).outcome with
  | error fault =>
    rw [Traced.bind_of_error h, hask]
    rfl
  | ok v =>
    rw [Traced.events_bind_of_ok h, hask]
    rfl

theorem commands_bind_ofExcept {x : Traced α} {f : α → Except Fault β} :
    commands (x >>= fun a => Traced.ofExcept (f a)).events = commands x.events := by
  cases h : x.outcome with
  | error fault => rw [Traced.bind_of_error h]
  | ok a => rw [Traced.events_bind_of_ok h, Traced.ofExcept_events, List.append_nil]

theorem commands_snapshot (ref : String) :
    commands ((named host binary run limits).snapshot (.str ref)).events =
      [inspection host binary ref] :=
  commands_bind_ofExcept.trans (commands_inspect ref)

theorem commands_daemonInfo :
    commands (named host binary run limits).daemonInfo.events = [information host binary] :=
  commands_bind_ofExcept.trans commands_info

end Daemon

end ContainerBundle
