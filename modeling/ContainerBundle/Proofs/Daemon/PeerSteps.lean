import Mathlib
import ContainerBundle.Proofs.Conversion.Namespaces
import ContainerBundle.Proofs.Daemon.Steps
/-!
# Steps that ask for joined containers

The client inspects the containers that the network, process and message queue modes join, in this
order. It skips those whose process it has been told.
-/
namespace ContainerBundle

open DaemonStep

/-- The modes that the client looks at, in its order. -/
def NamespaceModes.askedModes (m : NamespaceModes) : List Json := [m.network, m.pid, m.ipc]

namespace Daemon

def processAsked (d : Daemon) (ref : String) : Traced Json := do
  let v ← d.inspect (.str ref)
  processOf v

def yields (d : Daemon) (ref : String) : Bool :=
  match (d.processAsked ref).outcome with
  | .ok pid => !pid.isVoid
  | .error _ => false

/-- A mode that is no text ends the row. One that joins a container inspects it unless it is among
those that have `yielded` a process. -/
def peerSteps (host binary : String) (run : List String → CommandOutcome) (limits : Json.Limits) :
    (yielded : List String) → List Json → List DaemonStep
  | _, [] => []
  | yielded, .str mode :: rest =>
    match Conversion.peerOf? mode with
    | none => peerSteps host binary run limits yielded rest
    | some ref =>
      let d := named host binary run limits
      if ref ∈ yielded then peerSteps host binary run limits yielded rest
      else ⟨some (inspection host binary ref), (d.processAsked ref).outcome.isOk⟩ ::
        peerSteps host binary run limits (if d.yields ref then yielded ++ [ref] else yielded) rest
  | yielded, _ :: rest => ⟨none, false⟩ :: peerSteps host binary run limits yielded rest

def addPeers (d : Daemon) (known : Peers) : List Json → Traced Peers
  | [] => pure known
  | mode :: rest => do
    let known ← d.addPeer mode known
    d.addPeers known rest

private theorem peers_eq (d : Daemon) (s : Snapshot) :
    d.peers s = d.addPeers [] s.namespaces.askedModes := by
  simp [peers, addPeers, NamespaceModes.askedModes]

variable {host binary : String} {run : List String → CommandOutcome} {limits : Json.Limits}
variable {d : Daemon} {known : Peers} {ref mode : String}

theorem yields_of_ok {pid : Json} (h : (d.processAsked ref).outcome = .ok pid) :
    d.yields ref = !pid.isVoid := by
  rw [yields, h]

private theorem isSome_find?_iff {members : List (String × Json)} {key : String} :
    (Json.find? key members).isSome ↔ key ∈ members.map Prod.fst := by
  simp [Json.find?]

private theorem addPeer_of_own (h : Conversion.peerOf? mode = none) :
    d.addPeer (.str mode) known = pure known := by
  simp [addPeer, Json.text, h]

private theorem addPeer_of_known (h : Conversion.peerOf? mode = some ref)
    (hknown : ref ∈ known.map Prod.fst) : d.addPeer (.str mode) known = pure known := by
  simp [addPeer, Json.text, h, isSome_find?_iff.mpr hknown]

private theorem addPeer_of_asked (h : Conversion.peerOf? mode = some ref)
    (hfree : ref ∉ known.map Prod.fst) :
    d.addPeer (.str mode) known = (do
      let pid ← d.processAsked ref
      pure (if pid.isVoid then known else known ++ [(ref, pid)])) := by
  have hnone : (Json.find? ref known).isSome = false :=
    Bool.eq_false_iff.mpr (fun hsome => hfree (isSome_find?_iff.mp hsome))
  simp only [addPeer, Json.text, Traced.liftM_eq_ofExcept, Traced.ofExcept_ok, pure_bind, h, hnone,
    Bool.false_eq_true, if_false, processAsked, bind_assoc]
  congr 1
  funext v
  congr 1
  funext pid
  split <;> rfl

private theorem commands_processAsked (ref : String) :
    commands ((named host binary run limits).processAsked ref).events =
      [inspection host binary ref] := by
  rw [processAsked]
  exact commands_bind_ofExcept.trans (commands_inspect ref)

/-- The client takes the steps for its modes. -/
private theorem addPeers_takes (modes : List Json) (known : Peers) :
    ((named host binary run limits).addPeers known modes).Takes
      (peerSteps host binary run limits (known.map Prod.fst) modes) := by
  -- The steps need only the references of the table, which each mode extends in the same way.
  induction modes generalizing known with
  | nil => exact Traced.takes_pure known
  | cons mode rest ih =>
    rw [addPeers]
    cases mode with
    | str mode =>
      rw [peerSteps]
      cases hpeer : Conversion.peerOf? mode with
      | none =>
        rw [addPeer_of_own hpeer, pure_bind]
        exact ih known
      | some ref =>
        by_cases hknown : ref ∈ known.map Prod.fst
        · simp only [addPeer_of_known hpeer hknown, pure_bind, if_pos hknown]
          exact ih known
        · simp only [addPeer_of_asked hpeer hknown, bind_assoc, pure_bind, if_neg hknown]
          have hstep : ((named host binary run limits).processAsked ref).Takes
              [⟨some (inspection host binary ref), _⟩] :=
            Traced.takes_of_commands (commands_processAsked ref)
          apply hstep.bind
          intro pid hpid
          rw [yields_of_ok hpid]
          cases hvoid : pid.isVoid with
          | true => exact ih known
          | false =>
            have hrow := ih (known ++ [(ref, pid)])
            rw [List.map_append] at hrow
            exact hrow
    | _ =>
      apply Traced.Takes.bind (Traced.takes_fail _)
      intro known' hknown
      cases hknown

theorem peers_takes (s : Snapshot) : ((named host binary run limits).peers s).Takes
    (peerSteps host binary run limits [] s.namespaces.askedModes) := by
  rw [peers_eq]
  exact addPeers_takes _ []

end Daemon

end ContainerBundle
