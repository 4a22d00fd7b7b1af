import Mathlib
import ContainerBundle.CommandLine.Run
import ContainerBundle.Proofs.CommandLine.TextArguments
import ContainerBundle.Proofs.Daemon.PeerSteps
/-!
# Commands of a run

A run that converts a container compiles its hooks, inspects the container, asks the daemon about
itself, and inspects the containers that are joined. Everything behind that asks the daemon
nothing. So the commands that are issued are those of this plan up to the first step that does not
end well. Any other run issues none.
-/
namespace ContainerBundle

namespace DaemonStep

/-- Commands that follow a plan, up to the first step that does not end well. -/
structure Follows (plan : List DaemonStep) (commands : List (List String)) : Prop where
  upTo : commands = issued plan
  inOrder : commands <+: planned plan
  whole : (∀ step ∈ plan, step.endsWell) → commands = planned plan
  stops : ∀ front step back, plan = front ++ step :: back → step.endsWell = false →
    commands <+: planned (front ++ [step])

private theorem follows_issued (plan : List DaemonStep) : Follows plan (issued plan) where
  upTo := rfl
  inOrder := issued_prefix plan
  whole := issued_of_all
  stops := by
    rintro front step back rfl hfailed
    rw [issued_of_failed hfailed]
    exact issued_prefix _

end DaemonStep

namespace CommandLine

open DaemonStep

/-- The steps of a conversion that ask the daemon, and the compilation of the hooks before them. -/
def plan (m : Machine) (hooks : List Json) (host container : String) : List DaemonStep :=
  let binary := m.environment.binaryName
  let d := Daemon.named host binary m.docker m.limits
  let s := (d.snapshot (.str container)).outcome
  ⟨none, (compileHooks m.search hooks).outcome.isOk⟩ ::
  ⟨some (inspection host binary container), s.isOk⟩ ::
  ⟨some (information host binary), d.daemonInfo.outcome.isOk⟩ ::
  match s with
  | .ok s => Daemon.peerSteps host binary m.docker m.limits [] s.namespaces.askedModes
  | .error _ => []

variable {m : Machine} {t : Tree} {o : Options} {host container : String}

private theorem commands_compileHooks (search : SearchPath) (raws : List Json) :
    commands (compileHooks search raws).events = [] :=
  commands_of_leavesOnly ((compileHooks_quiet search raws).mono fun _ h => h.ne_ran)

private theorem commands_bundleOf (hhost : o.host.orElse (.str m.environment.host) = .str host)
    (hcontainer : o.container = .str container) :
    commands (bundleOf m o).events = issued (plan m o.hooks host container) := by
  let d := Daemon.named host m.environment.binaryName m.docker m.limits
  have hconnect : m.daemon o.host = d := by
    rw [Machine.daemon, Daemon.connect, hhost]
    rfl
  have hhooks : (compileHooks m.search o.hooks).Takes [⟨none, _⟩] :=
    Traced.takes_of_commands (commands_compileHooks m.search o.hooks)
  have hsnapshot : (d.snapshot (.str container)).Takes [⟨some (inspection ..), _⟩] :=
    Traced.takes_of_commands (Daemon.commands_snapshot container)
  have hinfo : d.daemonInfo.Takes [⟨some (information ..), _⟩] :=
    Traced.takes_of_commands Daemon.commands_daemonInfo
  rw [bundleOf, hconnect, hcontainer]
  apply hhooks.commands_bind
  intro hooks _
  apply hsnapshot.commands_bind
  intro s hs
  rw [show (d.snapshot (.str container)).outcome = .ok s from hs]
  apply hinfo.commands_bind
  intro info _
  have hpeers := @Daemon.peers_takes host m.environment.binaryName m.docker m.limits s
  rw [← List.append_nil (Daemon.peerSteps ..)]
  apply hpeers.commands_bind
  intro peers _
  exact commands_generate ..

private theorem commands_convert :
    commands (convert m t o).2.events = commands (bundleOf m o).events := by
  cases hmade : (bundleOf m o).outcome with
  | error fault => simp only [convert, hmade]
  | ok bundle =>
    have hwritten : commands (t.writeBundleAt m.disk bundle o.bundle o.force).2.events = [] :=
      commands_of_leavesOnly ((t.writeBundleAt_quiet _ _ _ _).mono fun _ h => h.ne_ran)
    simp only [convert, hmade, commands_append, hwritten, List.append_nil]

private theorem runConversion_events : (runConversion m t o).events = (convert m t o).2.events := by
  rcases hconverted : convert m t o with ⟨after, events, outcome⟩
  simp only [runConversion, hconverted]
  split
  · rfl
  · rfl
  · split <;> rfl

private theorem commands_of_hook_fault {fault : Fault}
    (h : (compileHooks m.search o.hooks).outcome = .error fault) :
    commands (runConversion m t o).events = [] := by
  rw [runConversion_events, commands_convert, bundleOf, Traced.bind_of_error h]
  exact commands_compileHooks m.search o.hooks

def Options.AsksNothing (o : Options) : Prop :=
  o.container.isVoid ∨ o.container.isText "help" ∨ o.container.isText "version"

private theorem run_of_departure {departure : Departure} {arguments : List Json}
    (h : Options.read m.environment.host arguments = .error departure) :
    (run m t arguments).events = [] := by
  rw [run, h]
  cases departure <;> rfl

private theorem run_of_asksNothing {arguments : List Json}
    (h : Options.read m.environment.host arguments = .ok o) (hnothing : o.AsksNothing) :
    (run m t arguments).events = [] := by
  rw [run, h]
  by_cases hvoid : o.container.isVoid
  · simp [hvoid]
  · by_cases hhelp : o.container.isText "help"
    · simp [hvoid, hhelp]
    · have hversion : o.container.isText "version" :=
        (hnothing.resolve_left hvoid).resolve_left hhelp
      simp [hvoid, hhelp, hversion]

private theorem run_of_asks {arguments : List Json}
    (h : Options.read m.environment.host arguments = .ok o) (hasks : ¬ o.AsksNothing) :
    run m t arguments = runConversion m t o := by
  simp only [Options.AsksNothing, not_or] at hasks
  simp only [run, h, hasks.1, hasks.2.1, hasks.2.2, Bool.false_eq_true, if_false]

private theorem Given.orElse_text {v : Json} (h : Given v) (default : String) :
    ∃ text, v.orElse (.str default) = .str text := by
  rw [Json.orElse]
  split
  · exact ⟨default, rfl⟩
  · exact h.resolve_right ‹_›

/-- Every run follows the plan of its conversion, on the host that it selects. It issues nothing
when its arguments are rejected, it asks for no conversion or a hook does not compile. -/
theorem run_commands (m : Machine) (t : Tree) (arguments : List String) :
    let settings := Options.read m.environment.host (arguments.map .str)
    let issues := commands (run m t (arguments.map .str)).events
    (∀ departure, settings = .error departure → issues = []) ∧
    ∀ o, settings = .ok o →
      (o.AsksNothing → issues = []) ∧
      (∀ fault, (compileHooks m.search o.hooks).outcome = .error fault → issues = []) ∧
      (¬ o.AsksNothing → ∃ host container, o.host.orElse (.str m.environment.host) = .str host ∧
        o.container = .str container ∧ Follows (plan m o.hooks host container) issues) := by
  intro settings issues
  have hnone (h : (run m t (arguments.map .str)).events = []) : issues = [] := by
    rw [show issues = commands _ from rfl, h]
    rfl
  refine ⟨fun departure h => hnone (run_of_departure h), fun o ho => ⟨fun hnothing => ?_,
    fun fault hfault => ?_, fun hasks => ?_⟩⟩
  · exact hnone (run_of_asksNothing ho hnothing)
  · by_cases hnothing : o.AsksNothing
    · exact hnone (run_of_asksNothing ho hnothing)
    · rw [show issues = commands _ from rfl, run_of_asks ho hnothing]
      exact commands_of_hook_fault hfault
  · obtain ⟨hhost, hcontainer⟩ := Options.read_ofTexts ho
    obtain ⟨host, hhost⟩ := hhost.orElse_text m.environment.host
    obtain ⟨container, hcontainer⟩ : ∃ container, o.container = .str container := by
      rcases hcontainer with hnull | htext
      · exact absurd (.inl (by rw [hnull]; rfl)) hasks
      · exact htext
    have hissues : issues = issued (plan m o.hooks host container) := by
      rw [show issues = commands _ from rfl, run_of_asks ho hasks, runConversion_events,
        commands_convert, commands_bundleOf hhost hcontainer]
    refine ⟨host, container, hhost, hcontainer, ?_⟩
    rw [hissues]
    exact follows_issued _

theorem run_commands_of_shared_stopped :
    let m : Machine :=
      { environment := {}
        docker := fun command => .output (.str (if command.getLast? = some "web" then
          "\x7b\"Config\": \x7b\x7d, \"HostConfig\": \x7b\"NetworkMode\": \"container:db\", " ++
            "\"PidMode\": \"container:db\"\x7d\x7d"
          else "\x7b\x7d"))
        search := ⟨fun _ => .null, "/work"⟩
        view := ⟨fun _ => .error (.system .missing), fun _ => none⟩ }
    let arguments := ["--host", "tcp://db:2375", "web"]
    let issues := commands (run m .empty (arguments.map .str)).events
    let host := "tcp://db:2375"
    issues = [inspection host "docker" "web", information host "docker",
      inspection host "docker" "db", inspection host "docker" "db"] ∧
    Follows (plan m [] host "web") issues := by
  intro m arguments issues host
  have hissues : issues = [inspection host "docker" "web", information host "docker",
      inspection host "docker" "db", inspection host "docker" "db"] := by decide +kernel
  refine ⟨hissues, ?_⟩
  let o : Options := { host := .str host, container := .str "web" }
  have ho : Options.read m.environment.host (arguments.map .str) = .ok o := by cbv
  have hasks : ¬ o.AsksNothing := by simp [Options.AsksNothing, o, Json.isVoid, Json.isText]
  obtain ⟨-, hruns⟩ := run_commands m .empty arguments
  obtain ⟨-, -, hfollows⟩ := hruns o ho
  obtain ⟨selected, container, hselected, hcontainer, hfollows⟩ := hfollows hasks
  cases hselected
  cases hcontainer
  exact hfollows

end CommandLine

end ContainerBundle
